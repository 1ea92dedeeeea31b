import CanSystems.Common
import CanSystems.Lib.Fifo
import CanSystems.Lib.Machine
import CanSystems.Lib.Printf
import CanSystems.RfReception

/-!
# The RF handler

A pass of the handler reports the frame that the transceiver holds, unless it
repeats the one reported last within a burst, and then transmits one command of
those that wait. A transmission is a blocking delay, and what comes over MQTT
decides how long it lasts: a command out of range is not taken.
-/

namespace CanSystems

open Printf (Text)

structure RfData where
  data : UInt64
  bitLength : UInt32
  protocol : UInt32
  pulseLength : UInt32
  deriving DecidableEq, Repr

instance : Inhabited RfData := ⟨⟨0, 0, 0, 0⟩⟩

structure RfPayload where
  Data : Option ℤ
  Bits : Option ℤ
  Protocol : Option ℤ
  Pulse : Option ℤ
  deriving DecidableEq, Repr

structure RfReception where
  time : UInt32
  frame : RfData
  /-- What went to the client. -/
  message : Option Text
  /-- What the pass answers. -/
  reported : Bool
  deriving DecidableEq, Repr

structure RfHandler where
  rfTransceiver : RCSwitch
  receiver : RfReceiver
  lastRfData : RfData
  dataCheckTimer : UInt32
  pendingTx : Fifo RfData 4
  deriving DecidableEq

structure RfPass where
  handler : RfHandler
  reception : Option RfReception
  command : Option RfData
  outputs : List RfOutput
  deriving DecidableEq

namespace RfData

def same (a b : RfData) : Bool := a.data == b.data && a.bitLength == b.bitLength && a.protocol == b.protocol

def message (d : RfData) : Text :=
  "\x7b\"RfReceived\":\x7b\"Data\":".toList ++ Printf.decimal d.data.toNat ++
  ",\"Bits\":".toList ++ Printf.decimal d.bitLength.toNat ++
  ",\"Protocol\":".toList ++ Printf.decimal d.protocol.toNat ++
  ",\"Pulse\":".toList ++ Printf.decimal d.pulseLength.toNat ++ "\x7d\x7d".toList

end RfData

/-- A number of a payload, when an unsigned type with so many values has it. -/
def unsignedBelow (limit : ℕ) (value : Option ℤ) : Option ℕ :=
  match value with
  | some value => if 0 ≤ value ∧ value < limit then some value.toNat else none
  | none => none

namespace RfHandler

def dataOutBufSize : ℕ := 116

def dataCheckTime : UInt32 := 100

def minPulseLength : UInt32 := 50

def maxPulseLength : UInt32 := 1000

def maxBitLength : UInt32 := 64

/-- The constructor; `interrupt` is the one that belongs to the receiving pin. -/
def init (interrupt : Int32) (rfTxPin : UInt8) : RfHandler where
  rfTransceiver := { RCSwitch.new with nTransmitterPin := rfTxPin.toUInt32.toInt32, nReceiverInterrupt := interrupt }
  receiver := RfReceiver.init
  lastRfData := default
  dataCheckTimer := 0
  pendingTx := .empty

def actualRfData (receiver : RfReceiver) : RfData :=
  ⟨receiver.nReceivedValue, receiver.nReceivedBitlength, receiver.nReceivedProtocol, receiver.nReceivedDelay⟩

def lastData (h : RfHandler) (actualTime : UInt32) : RfData :=
  if Time.hasElapsed actualTime h.dataCheckTimer dataCheckTime then default else h.lastRfData

/-- What a pass does with a frame; `sent` is what the client answers. -/
def report (h : RfHandler) (actualTime : UInt32) (sent : Bool) (frame : RfData) : RfHandler × RfReception :=
  let last := h.lastData actualTime
  if last.same frame then
    ({ h with lastRfData := last, dataCheckTimer := actualTime }, ⟨actualTime, frame, none, true⟩)
  else
    let dataOutValid := !Printf.overflows dataOutBufSize frame.message
    let reported := dataOutValid && sent
    ({ h with lastRfData := if reported then frame else last, dataCheckTimer := actualTime },
      ⟨actualTime, frame, if dataOutValid then some frame.message else none, reported⟩)

def transmitCommand (s : RCSwitch) (command : RfData) : RCSwitch × List RfOutput :=
  let s := if command.protocol > 0 then s.setProtocol command.protocol.toInt32 else s
  let s := if command.pulseLength > 0 then s.setPulseLength command.pulseLength.toInt32 else s
  (s, if command.data > 0 ∧ command.bitLength > 0 then s.send command.data command.bitLength else [])

def transmitPending (h : RfHandler) (reception : Option RfReception) : RfPass :=
  if h.pendingTx.isEmpty then ⟨h, reception, none, []⟩ else
  let (command, pendingTx) := h.pendingTx.pop
  let (rfTransceiver, outputs) := transmitCommand h.rfTransceiver command
  ⟨{ h with rfTransceiver := rfTransceiver, pendingTx := pendingTx }, reception, some command, outputs⟩

def run (h : RfHandler) (actualTime : UInt32) (sent : Bool) : Option RfPass := do
  let (ready, receiver) ← h.receiver.available
  if ready then
    let (h, reception) := { h with receiver := receiver.resetAvailable }.report actualTime sent
      (actualRfData receiver)
    return h.transmitPending (some reception)
  else
    return { h with receiver := receiver }.transmitPending none

/-- The command in a payload, when it has all of its parts within range. -/
def commandOf (payload : RfPayload) : Option RfData := do
  let data ← unsignedBelow 0x10000000000000000 payload.Data
  let bits ← unsignedBelow 0x100000000 payload.Bits
  let protocol ← unsignedBelow 0x100000000 payload.Protocol
  let pulse ← unsignedBelow 0x100000000 payload.Pulse
  let rfOutPulseLength := UInt32.ofNat pulse
  if rfOutPulseLength ≠ 0 ∧ (rfOutPulseLength < minPulseLength ∨ rfOutPulseLength > maxPulseLength) then none else
  let rfOutBitLength := UInt32.ofNat bits
  if rfOutBitLength > maxBitLength then none else
  some ⟨UInt64.ofNat data, rfOutBitLength, UInt32.ofNat protocol, rfOutPulseLength⟩

def messageArrivedCallback (h : RfHandler) (payload : RfPayload) : RfHandler :=
  match commandOf payload with
  | some command => { h with pendingTx := h.pendingTx.put command }
  | none => h

end RfHandler

end CanSystems
