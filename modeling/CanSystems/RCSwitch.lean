import CanSystems.Lib.CArray
import Mathlib.Data.UInt
import Mathlib.Data.Vector.Basic

/-!
# The RF transceiver

A code goes out as pulses, and the two parts of a pulse tell a zero from a one.
The receiver is an interrupt handler that records how long each level lasted,
and a decoder that runs outside of it. A recorded frame changes hands through
`pendingChangeCount`: while that is not zero the buffer is the decoder's.
-/

namespace CanSystems

structure HighLow where
  high : UInt8
  low : UInt8
  deriving DecidableEq, Repr

structure RfProtocol where
  pulseLength : UInt16
  preambleFactor : UInt8
  preamble : HighLow
  headerFactor : UInt8
  header : HighLow
  zero : HighLow
  one : HighLow
  invertedSignal : Bool
  guardFactor : UInt16
  deriving DecidableEq, Repr

/-- What the transmitter does to its pin and to the receive interrupt. -/
inductive RfOutput
  | digitalWrite (high : Bool)
  | delayMicroseconds (duration : UInt32)
  | detachInterrupt
  | attachInterrupt
  deriving DecidableEq, Repr

structure RCSwitch where
  nTransmitterPin : Int32
  nRepeatTransmit : Int32
  nReceiverInterrupt : Int32
  protocol : RfProtocol
  deriving DecidableEq, Repr

namespace RCSwitch

def rcSwitchMaxChanges : ℕ := 131

def rcSwitchSeparationLimit : UInt32 := 3600

def nReceiveTolerance : UInt32 := 60

def princeton : RfProtocol := ⟨350, 0, ⟨0, 0⟩, 1, ⟨1, 31⟩, ⟨1, 3⟩, ⟨3, 1⟩, false, 0⟩

def proto : List RfProtocol := [princeton]

/-! ## The transmitter -/

def setProtocol (s : RCSwitch) (nProtocol : Int32) : RCSwitch :=
  let n := if nProtocol < 1 ∨ proto.length < nProtocol.toInt then 1 else nProtocol
  { s with protocol := proto.getD (n - 1).toInt.toNat princeton }

def setPulseLength (s : RCSwitch) (nPulseLength : Int32) : RCSwitch :=
  { s with protocol := { s.protocol with pulseLength := nPulseLength.toUInt32.toUInt16 } }

def new : RCSwitch := ⟨-1, 5, -1, princeton⟩

def level (s : RCSwitch) (high : Bool) (factor : UInt8) : List RfOutput :=
  if factor > 0 then [.digitalWrite high,
    .delayMicroseconds (s.protocol.pulseLength.toUInt32 * factor.toUInt32)] else []

def transmit (s : RCSwitch) (pulses : HighLow) : List RfOutput :=
  s.level (!s.protocol.invertedSignal) pulses.high ++ s.level s.protocol.invertedSignal pulses.low

/-- The bits of `code` below bit `n`, the highest first. -/
def sendBits (s : RCSwitch) (code : UInt64) : ℕ → List RfOutput
  | 0 => []
  | i + 1 =>
    s.transmit (if code &&& (1 <<< UInt64.ofNat i) ≠ 0 then s.protocol.one else s.protocol.zero) ++
      s.sendBits code i

def sendOnce (s : RCSwitch) (code : UInt64) (length : UInt32) : List RfOutput :=
  (List.replicate ((s.protocol.preambleFactor / 2) + (s.protocol.preambleFactor % 2)).toNat
    (s.transmit s.protocol.preamble)).flatten ++
  (List.replicate s.protocol.headerFactor.toNat (s.transmit s.protocol.header)).flatten ++
  s.sendBits code length.toInt32.toInt.toNat ++
  (if s.protocol.guardFactor > 0 then
    [.digitalWrite false, .delayMicroseconds
      (s.protocol.pulseLength.toUInt32 * s.protocol.guardFactor.toUInt32)] else [])

def send (s : RCSwitch) (code : UInt64) (length : UInt32) : List RfOutput :=
  if s.nTransmitterPin = -1 then [] else
  (if s.nReceiverInterrupt ≠ -1 then [.detachInterrupt] else []) ++
    (List.replicate s.nRepeatTransmit.toInt.toNat (s.sendOnce code length)).flatten ++ [.digitalWrite false] ++
    (if s.nReceiverInterrupt ≠ -1 then [.attachInterrupt] else [])

end RCSwitch

/-! ## The receiver -/

/-- The static part of the class, with the two variables of the interrupt handler. -/
structure RfReceiver where
  nReceivedValue : UInt64
  nReceivedBitlength : UInt32
  nReceivedDelay : UInt32
  nReceivedProtocol : UInt32
  timings : CArray UInt32 RCSwitch.rcSwitchMaxChanges
  buftimings : Vector UInt32 4
  pendingTimings : CArray UInt32 RCSwitch.rcSwitchMaxChanges
  pendingChangeCount : UInt32
  changeCount : UInt32
  lastTime : UInt32
  deriving DecidableEq

namespace RfReceiver

def init : RfReceiver :=
  ⟨0, 0, 0, 0, .replicate _ 0, .replicate 4 0, .replicate _ 0, 0, 0, 0⟩

def diff (a b : UInt32) : UInt32 := if a - b < 0x80000000 then a - b else b - a

def isPulse (delay delayTolerance high low : UInt32) (pulses : HighLow) : Bool :=
  diff high (delay * pulses.high.toUInt32) < delayTolerance && diff low (delay * pulses.low.toUInt32) <
    delayTolerance

/-- `none` is a reading outside of the buffer, `some none` a pair of durations that stands for no bit. -/
def decodeBits (pendingTimings : CArray UInt32 RCSwitch.rcSwitchMaxChanges) (pro : RfProtocol)
    (delay delayTolerance : UInt32) : (pairs : ℕ) → (i : ℕ) → UInt64 → Option (Option UInt64)
  | 0, _, code => some (some code)
  | pairs + 1, i, code => do
    let high ← pendingTimings.get i
    let low ← pendingTimings.get (i + 1)
    if isPulse delay delayTolerance high low pro.zero then
      decodeBits pendingTimings pro delay delayTolerance pairs (i + 2) (code <<< 1)
    else if isPulse delay delayTolerance high low pro.one then
      decodeBits pendingTimings pro delay delayTolerance pairs (i + 2) (code <<< 1 ||| 1)
    else some none

def firstTiming (pro : RfProtocol) : UInt32 := if pro.preambleFactor > 0 then pro.preambleFactor.toUInt32 + 1 else 0

/-- The index of the first data pulse behind the preamble and the header. -/
def firstDataTiming (pro : RfProtocol) : UInt32 :=
  (if pro.headerFactor > 0 then
    (if pro.invertedSignal then 2 else 1) + (if pro.headerFactor > 1 then (pro.headerFactor.toUInt32 - 1) * 2 else
      0)
  else 0) + firstTiming pro

def syncLengthInPulses (pro : RfProtocol) : UInt8 :=
  if pro.header.low > pro.header.high then pro.header.low else pro.header.high

/-- The base pulse length, from the pulse that the header or the preamble is known by. -/
def baseDelay (r : RfReceiver) (pro : RfProtocol) : Option UInt32 :=
  if syncLengthInPulses pro > 0 then
    (r.pendingTimings.get (firstTiming pro).toNat).map fun timing => timing / (syncLengthInPulses pro).toUInt32
  else if pro.preambleFactor > 0 then
    (r.pendingTimings.get (firstTiming pro - 2).toNat).map fun timing => timing / pro.preambleFactor.toUInt32
  else some 0

def bitChangeCount (pro : RfProtocol) (changeCount : UInt32) : UInt32 :=
  let changes := changeCount - firstDataTiming pro - 1 + (if pro.invertedSignal then 1 else 0)
  if changes > 128 then 128 else changes

def receiveProtocol (r : RfReceiver) (p : UInt32) (pro : RfProtocol) (changeCount : UInt32) :
    Option (Bool × RfReceiver) := do
  let delay ← r.baseDelay pro
  if delay = 0 then return (false, r)
  let delayTolerance := delay * RCSwitch.nReceiveTolerance / 100
  let changes := bitChangeCount pro changeCount
  let decoded ←
    decodeBits r.pendingTimings pro delay delayTolerance ((changes.toNat + 1) / 2) (firstDataTiming pro).toNat 0
  match decoded with
  | none => return (false, r)
  | some code =>
    if changes > 14 then
      return (true, { r with
        nReceivedValue := code, nReceivedBitlength := changes / 2, nReceivedDelay := delay, nReceivedProtocol :=
          p })
    else return (false, r)

def decodeWith (changeCount : UInt32) : List RfProtocol → UInt32 → RfReceiver → Option RfReceiver
  | [], _, r => some r
  | pro :: protos, p, r => do
    let (found, r) ← r.receiveProtocol p pro changeCount
    if found then return r else decodeWith changeCount protos (p + 1) r

def decodeRecorded (r : RfReceiver) (changeCount : UInt32) : Option RfReceiver :=
  decodeWith changeCount RCSwitch.proto 1 r

def available (r : RfReceiver) : Option (Bool × RfReceiver) := do
  let r ←
    if r.pendingChangeCount ≠ 0 then do
      let r ← r.decodeRecorded r.pendingChangeCount
      some { r with pendingChangeCount := 0 }
    else some r
  return (r.nReceivedValue ≠ 0, r)

def resetAvailable (r : RfReceiver) : RfReceiver := { r with nReceivedValue := 0 }

def handOverRecorded (r : RfReceiver) : Option RfReceiver :=
  if r.pendingChangeCount ≠ 0 ∨ r.changeCount = 0 then some r else do
  let recorded ← r.timings.read 0 r.changeCount.toNat
  let pendingTimings ← r.pendingTimings.write 0 recorded
  return { r with pendingTimings := pendingTimings, pendingChangeCount := r.changeCount }

def threeAlike (r : RfReceiver) : Bool :=
  diff r.buftimings[3] r.buftimings[2] < 50 && diff r.buftimings[2] r.buftimings[1] < 50

/-- Whether the latest durations are those the recorded frame began with. -/
def isRepeat (r : RfReceiver) (duration : UInt32) : Option Bool := do
  let first ← r.timings.get 0
  let second ← r.timings.get 1
  let third ← r.timings.get 2
  let fourth ← r.timings.get 3
  return diff duration first < 400 ||
    (diff r.buftimings[3] second < 50 && diff r.buftimings[2] third < 50 && diff r.buftimings[1] fourth < 50 &&
      r.changeCount > 25)

/-- Three durations that are alike are kept as the beginning of the next frame. -/
def startFrame (r : RfReceiver) : Option RfReceiver :=
  if r.threeAlike then do
    let timings ← r.timings.write 1 [r.buftimings[3], r.buftimings[2], r.buftimings[1]]
    return { r with timings := timings, changeCount := 4 }
  else some { r with changeCount := 0 }

/-- What the handler does at the end of a frame, up to where the next one is recorded. -/
def endFrame (r : RfReceiver) (duration : UInt32) : Option RfReceiver := do
  let same ← r.isRepeat duration
  let r ← if same then r.handOverRecorded else some r
  r.startFrame

def store (r : RfReceiver) (duration : UInt32) : Option RfReceiver :=
  if r.changeCount > 0 ∧ duration < 100 then do
    let last ← r.timings.get (r.changeCount - 1).toNat
    let timings ← r.timings.write (r.changeCount - 1).toNat [last + duration]
    return { r with timings := timings }
  else do
    let timings ← r.timings.write r.changeCount.toNat [duration]
    return { r with timings := timings, changeCount := r.changeCount + 1 }

def shifted (r : RfReceiver) (duration : UInt32) : RfReceiver :=
  { r with buftimings := #v[duration, r.buftimings[0], r.buftimings[1], r.buftimings[2]] }

def separates (r : RfReceiver) (duration : UInt32) : Bool :=
  duration > RCSwitch.rcSwitchSeparationLimit || (r.threeAlike && r.changeCount > 25)

def separate (r : RfReceiver) (duration : UInt32) : Option RfReceiver :=
  if r.separates duration then r.endFrame duration else some r

def clipped (r : RfReceiver) : RfReceiver :=
  if RCSwitch.rcSwitchMaxChanges ≤ r.changeCount.toNat then { r with changeCount := 0 } else r

def handleInterrupt (r : RfReceiver) (time : UInt32) : Option RfReceiver := do
  let duration := time - r.lastTime
  let r := r.shifted duration
  let r ← r.separate duration
  let r ← r.clipped.store duration
  return { r with lastTime := time }

end RfReceiver

end CanSystems
