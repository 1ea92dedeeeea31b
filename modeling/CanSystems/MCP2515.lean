import CanSystems.CANController

/-!
# The MCP2515 and its driver

The chip's registers are reached over SPI, one access at a time, and between two
accesses the chip goes on sending what waits in its transmit buffers. A frame
waits while the request bit of its buffer is set. The chip next takes the
waiting buffer of highest priority, the higher number among equals.
-/

namespace CanSystems

namespace MCP2515

def regBfpCtrl : Nat := 0x0C
def regTxRtsCtrl : Nat := 0x0D
def regCanStat : Nat := 0x0E
def regCanCtrl : Nat := 0x0F
def regCnf3 : Nat := 0x28
def regCnf2 : Nat := 0x29
def regCnf1 : Nat := 0x2A
def regCanInte : Nat := 0x2B
def regCanIntf : Nat := 0x2C

def flagIde : UInt8 := 0x08
def flagSrr : UInt8 := 0x10
def flagRtr : UInt8 := 0x40
def flagExide : UInt8 := 0x08
def flagRxm0 : UInt8 := 0x20
def flagRxm1 : UInt8 := 0x40
def flagBukt : UInt8 := 0x04
def flagTxReq : UInt8 := 0x08

def flagRxnIe (n : Nat) : UInt8 := 0x01 <<< UInt8.ofNat n
def flagRxnIf (n : Nat) : UInt8 := 0x01 <<< UInt8.ofNat n
def flagTxnIf (n : Nat) : UInt8 := 0x04 <<< UInt8.ofNat n

def regRxFnSidh (n : Nat) : Nat := 0x00 + n * 4
def regRxFnSidl (n : Nat) : Nat := 0x01 + n * 4
def regRxFnEid8 (n : Nat) : Nat := 0x02 + n * 4
def regRxFnEid0 (n : Nat) : Nat := 0x03 + n * 4

def regRxMnSidh (n : Nat) : Nat := 0x20 + n * 0x04
def regRxMnSidl (n : Nat) : Nat := 0x21 + n * 0x04
def regRxMnEid8 (n : Nat) : Nat := 0x22 + n * 0x04
def regRxMnEid0 (n : Nat) : Nat := 0x23 + n * 0x04

def regTxBnCtrl (n : Nat) : Nat := 0x30 + n * 0x10
def regTxBnSidh (n : Nat) : Nat := 0x31 + n * 0x10

def regRxBnCtrl (n : Nat) : Nat := 0x60 + n * 0x10
def regRxBnSidh (n : Nat) : Nat := 0x61 + n * 0x10
def regRxBnD0 (n : Nat) : Nat := 0x66 + n * 0x10

def rxCtrlMode (n : Nat) (mode : UInt8) : UInt8 := mode ||| if n = 0 then flagBukt else 0

def txBufferCount : Nat := 3

def txDrainTimeoutMs : UInt32 := 20

/-! ## The chip -/

/-! A buffer's registers follow each other: SIDH, SIDL, EID8, EID0, DLC and eight of data. -/

def standardId (regs : Nat → UInt8) (sidh : Nat) : BitVec 11 :=
  (regs sidh).toBitVec ++ (regs (sidh + 1)).toBitVec.extractLsb' 5 3

def extendedId (regs : Nat → UInt8) (sidh : Nat) : BitVec 29 :=
  ((regs sidh).toBitVec ++ (regs (sidh + 1)).toBitVec.extractLsb' 5 3 ++
    (regs (sidh + 1)).toBitVec.extractLsb' 0 2 ++
    (regs (sidh + 2)).toBitVec ++ (regs (sidh + 3)).toBitVec : BitVec (8 + 3 + 2 + 8 + 8))

/-- The bit of SIDL that tells an extended identifier: EXIDE to send or filter, IDE as received. -/
def hasExtendedId (regs : Nat → UInt8) (sidh : Nat) : Bool := (regs (sidh + 1)).toBitVec.getLsbD 3

def identAt (regs : Nat → UInt8) (sidh : Nat) : Identifier :=
  if hasExtendedId regs sidh then .extended (extendedId regs sidh) else .standard (standardId regs sidh)

def dataAt (regs : Nat → UInt8) (sidh : Nat) (length : Nat) : List UInt8 :=
  (List.range length).map fun i => regs (sidh + 5 + i)

def bytesOf (rtr : Bool) (dlc : BitVec 4) : Nat := if rtr then 0 else min 8 dlc.toNat

def txFrame (regs : Nat → UInt8) (n : Nat) : WireFrame :=
  let dlc := (regs (regTxBnSidh n + 4)).toBitVec
  { ident := identAt regs (regTxBnSidh n)
    rtr := dlc.getLsbD 6
    dlc := dlc.extractLsb' 0 4
    data := dataAt regs (regTxBnSidh n) (bytesOf (dlc.getLsbD 6) (dlc.extractLsb' 0 4)) }

/-- The frame in a receive buffer: a remote request is told by SRR in SIDL for a standard identifier, and by RTR
in DLC for an extended one. -/
def rxFrame (regs : Nat → UInt8) (n : Nat) : WireFrame :=
  let dlc := (regs (regRxBnSidh n + 4)).toBitVec
  let rtr := if hasExtendedId regs (regRxBnSidh n) then dlc.getLsbD 6 else
    (regs (regRxBnSidh n + 1)).toBitVec.getLsbD 4
  { ident := identAt regs (regRxBnSidh n)
    rtr := rtr
    dlc := dlc.extractLsb' 0 4
    data := dataAt regs (regRxBnSidh n) (bytesOf rtr (dlc.extractLsb' 0 4)) }

/-- The chip, and next to its registers what its transmit side has done. The requests are numbered as they come. -/
structure Chip where
  regs : Nat → UInt8
  accesses : Nat
  requests : Nat
  /-- The request that a buffer was given last. -/
  label : Nat → Nat
  /-- The requests that were carried over the bus, and what they were carried as. -/
  bus : List (Nat × WireFrame)
  /-- A buffer has been written while its request was waiting. -/
  disturbed : Bool

/-- What is not up to the driver: before each access, how many frames go out; whether the chip lets go of a
request that is taken back, or is sending it already; and the clock. -/
structure ChipIo where
  carried : Nat → Nat
  releases : Nat → Bool
  millis : Nat → UInt32

namespace Chip

def pending (chip : Chip) (n : Nat) : Bool := chip.regs (regTxBnCtrl n) &&& flagTxReq != 0

/-- The transmit priority of a buffer, the two low bits of its control register. -/
def priority (chip : Chip) (n : Nat) : UInt8 := chip.regs (regTxBnCtrl n) &&& 0x03

def buffers : List Nat := [2, 1, 0]

/-- The buffer that goes out next: none that waits has a higher priority, and none before it has the same. -/
def next (chip : Chip) : Option Nat :=
  buffers.find? fun n => chip.pending n && buffers.all fun m => !chip.pending m ||
    decide (chip.priority m ≤ chip.priority n)

def setReg (regs : Nat → UInt8) (address : Nat) (value : UInt8) : Nat → UInt8 :=
  fun a => if a = address then value else regs a

def carry (chip : Chip) : Chip :=
  match chip.next with
  | none => chip
  | some n =>
    { chip with
      regs := setReg (setReg chip.regs (regTxBnCtrl n) (chip.regs (regTxBnCtrl n) &&& ~~~flagTxReq)) regCanIntf
        (chip.regs regCanIntf ||| flagTxnIf n)
      bus := chip.bus ++ [(chip.label n, txFrame chip.regs n)] }

def carries : Nat → Chip → Chip
  | 0, chip => chip
  | frames + 1, chip => carries frames chip.carry

def settle (io : ChipIo) (chip : Chip) : Chip :=
  { carries (io.carried chip.accesses) chip with accesses := chip.accesses + 1 }

/-- The registers that can be written in configuration mode only: the filters and masks, the bit timing,
TXRTSCTRL. -/
def configuration (address : Nat) : Bool :=
  address < 0x0C || address == regTxRtsCtrl || (0x10 ≤ address && address < 0x1C) ||
    (0x20 ≤ address && address < 0x2B)

def inConfiguration (chip : Chip) : Bool := chip.regs regCanCtrl &&& 0xE0 == 0x80

def bufferOf (address : Nat) : Option Nat :=
  buffers.find? fun n => regTxBnCtrl n ≤ address && address < regTxBnCtrl n + 0x0E

def raised (chip : Chip) (address : Nat) (value : UInt8) : Option Nat :=
  (bufferOf address).filter fun n => address == regTxBnCtrl n && !chip.pending n && value &&& flagTxReq != 0

def struck (chip : Chip) (address : Nat) : Option Nat :=
  (bufferOf address).filter fun n => address != regTxBnCtrl n && chip.pending n

def store (chip : Chip) (address : Nat) (value : UInt8) : Chip :=
  if address = regCanStat || (configuration address && !chip.inConfiguration) then chip else
  { chip with
    regs := setReg chip.regs address value
    requests := if (chip.raised address value).isSome then chip.requests + 1 else chip.requests
    label := fun n => if chip.raised address value = some n then chip.requests else chip.label n
    disturbed := chip.disturbed || (chip.struck address).isSome }

def keepsRequest (chip : Chip) (address : Nat) (value : UInt8) : Bool :=
  (bufferOf address).any fun n => address == regTxBnCtrl n && chip.pending n && value &&& flagTxReq == 0

/-! ## The accesses -/

def readRegister (io : ChipIo) (chip : Chip) (address : Nat) : UInt8 × Chip :=
  ((chip.settle io).regs address, chip.settle io)

def writeRegister (io : ChipIo) (chip : Chip) (address : Nat) (value : UInt8) : Chip :=
  (chip.settle io).store address value

def modifyRegister (io : ChipIo) (chip : Chip) (address : Nat) (mask value : UInt8) : Chip :=
  let chip := chip.settle io
  let value := (chip.regs address &&& ~~~mask) ||| (value &&& mask)
  if chip.keepsRequest address value && !io.releases chip.accesses then chip else chip.store address value

def readBurst (io : ChipIo) (address : Nat) : Nat → Chip → List UInt8 × Chip
  | 0, chip => ([], chip)
  | length + 1, chip =>
    let (value, chip) := chip.readRegister io address
    let (rest, chip) := readBurst io (address + 1) length chip
    (value :: rest, chip)

def writeBurst (io : ChipIo) (address : Nat) : List UInt8 → Chip → Chip
  | [], chip => chip
  | value :: data, chip => writeBurst io (address + 1) data (chip.writeRegister io address value)

end Chip

end MCP2515

/-! ## The driver -/

structure MCP2515 extends CANController where
  txBuffersLeft : Nat
  chip : MCP2515.Chip
  txBuffersLeft_le : txBuffersLeft ≤ MCP2515.txBufferCount

namespace MCP2515

def init (regs : Nat → UInt8) : MCP2515 where
  toCANController := .init
  txBuffersLeft := txBufferCount
  chip := ⟨regs, 0, 0, fun _ => 0, [], false⟩
  txBuffersLeft_le := Nat.le_refl _

/-- The control and status registers as a reset leaves them; the chip is in configuration mode then. -/
def resetRegs (regs : Nat → UInt8) : Nat → UInt8 := fun a =>
  if a = regCanCtrl then 0x87 else
  if a = regCanStat then 0x80 else
  if a ∈ [regBfpCtrl, regTxRtsCtrl, 0x1C, 0x1D, regCnf3, regCnf2, regCnf1, regCanInte, regCanIntf, 0x2D,
    regTxBnCtrl 0, regTxBnCtrl 1, regTxBnCtrl 2, regRxBnCtrl 0, regRxBnCtrl 1] then 0x00 else regs a

def reset (chip : Chip) : Chip := { chip with regs := resetRegs chip.regs }

def cnfMapper : List ((UInt32 × UInt32) × (UInt8 × UInt8 × UInt8)) :=
  [((8000000, 1000000), (0x00, 0x80, 0x00)), ((8000000, 500000), (0x00, 0x90, 0x02)),
    ((8000000, 250000), (0x00, 0xB1, 0x05)), ((8000000, 200000), (0x00, 0xB4, 0x06)),
      ((8000000, 125000), (0x01, 0xB1, 0x05)), ((8000000, 100000), (0x01, 0xB4, 0x06)),
    ((8000000, 80000), (0x01, 0xBF, 0x07)), ((8000000, 50000), (0x03, 0xB4, 0x06)),
      ((8000000, 40000), (0x03, 0xBF, 0x07)),
    ((8000000, 20000), (0x07, 0xBF, 0x07)), ((8000000, 10000), (0x0F, 0xBF, 0x07)),
      ((8000000, 5000), (0x1F, 0xBF, 0x07)),
    ((16000000, 1000000), (0x00, 0xD0, 0x82)), ((16000000, 500000), (0x00, 0xF0, 0x86)),
      ((16000000, 250000), (0x41, 0xF1, 0x85)),
    ((16000000, 200000), (0x01, 0xFA, 0x87)), ((16000000, 125000), (0x03, 0xF0, 0x86)),
      ((16000000, 100000), (0x03, 0xFA, 0x87)),
    ((16000000, 80000), (0x03, 0xFF, 0x87)), ((16000000, 50000), (0x07, 0xFA, 0x87)),
      ((16000000, 40000), (0x07, 0xFF, 0x87)),
    ((16000000, 20000), (0x0F, 0xFF, 0x87)), ((16000000, 10000), (0x1F, 0xFF, 0x87)),
      ((16000000, 5000), (0x3F, 0xFF, 0x87))]

def writeAll (io : ChipIo) (writes : List (Nat × UInt8)) (chip : Chip) : Chip :=
  writes.foldl (fun chip w => chip.writeRegister io w.1 w.2) chip

def beginWrites (cnf : UInt8 × UInt8 × UInt8) : List (Nat × UInt8) :=
  [(regCnf1, cnf.1), (regCnf2, cnf.2.1), (regCnf3, cnf.2.2), (regCanInte, flagRxnIe 1 ||| flagRxnIe 0),
    (regBfpCtrl, 0x00), (regTxRtsCtrl, 0x00), (regRxBnCtrl 0, rxCtrlMode 0 (flagRxm1 ||| flagRxm0)),
      (regRxBnCtrl 1, rxCtrlMode 1 (flagRxm1 ||| flagRxm0)),
    (regCanCtrl, 0x00)]

def begin (io : ChipIo) (clockFrequency baudRate : UInt32) (mcp : MCP2515) : Bool × MCP2515 :=
  let mcp := { mcp with toCANController := mcp.toCANController.begin }
  let mode := ((reset mcp.chip).writeRegister io regCanCtrl 0x80).readRegister io regCanCtrl
  if mode.1 != 0x80 then (false, { mcp with chip := mode.2 }) else
  match cnfMapper.lookup (clockFrequency, baudRate) with
  | none => (false, { mcp with chip := mode.2 })
  | some cnf =>
    let mode := (writeAll io (beginWrites cnf) mode.2).readRegister io regCanCtrl
    if mode.1 != 0x00 then (false, { mcp with chip := mode.2 }) else
    (true, { mcp with chip := mode.2, txBuffersLeft := txBufferCount, txBuffersLeft_le := Nat.le_refl _ })

def readPending (io : ChipIo) : List Nat → Chip → List Nat × Chip
  | [], chip => ([], chip)
  | n :: rest, chip =>
    let (value, chip) := chip.readRegister io (regTxBnCtrl n)
    let (pending, chip) := readPending io rest chip
    (if value &&& flagTxReq != 0 then n :: pending else pending, chip)

def abort (io : ChipIo) (pending : List Nat) (chip : Chip) : Chip :=
  pending.foldl (fun chip n => chip.modifyRegister io (regTxBnCtrl n) flagTxReq 0x00) chip

/-- The rounds of `flushTx`; nothing is returned if they do not suffice. -/
def flushRounds (io : ChipIo) (startTime : UInt32) : Nat → Chip → Option Bool × Chip
  | 0, chip => (none, chip)
  | rounds + 1, chip =>
    let (pending, chip) := readPending io (List.range txBufferCount) chip
    if pending = [] then (some true, chip) else
    if io.millis chip.accesses - startTime ≥ txDrainTimeoutMs then (some false, abort io pending chip) else
    flushRounds io startTime rounds chip

def flushTx (io : ChipIo) (rounds : Nat) (chip : Chip) : Option Bool × Chip :=
  flushRounds io (io.millis chip.accesses) rounds chip

def reserve (mcp : MCP2515) (n : Nat) (hn : n < txBufferCount) : MCP2515 :=
  { mcp with txBuffersLeft := n, txBuffersLeft_le := Nat.le_of_lt hn }

theorem left_lt (mcp : MCP2515) (h : mcp.txBuffersLeft ≠ 0) : mcp.txBuffersLeft - 1 < txBufferCount := by
  have hle := mcp.txBuffersLeft_le
  omega

/-- The buffer for the next frame, `txBufferCount` if there is none. -/
def takeTxBuffer (io : ChipIo) (rounds : Nat) (mcp : MCP2515) : Option Nat × MCP2515 :=
  if h : mcp.txBuffersLeft = 0 then
    let flushed := flushTx io rounds mcp.chip
    let mcp := { mcp with chip := flushed.2 }
    match flushed.1 with
    | none => (none, mcp)
    | some false => (some txBufferCount, mcp)
    | some true => (some (txBufferCount - 1), mcp.reserve (txBufferCount - 1) (by decide))
  else (some (mcp.txBuffersLeft - 1), mcp.reserve (mcp.txBuffersLeft - 1) (mcp.left_lt h))

def idRegisters (c : CANController) : List UInt8 :=
  let id := c.txId
  if c.txExtended then
    [(id >>> 21).toUInt8, (((id >>> 18 &&& 0x07) <<< 5) ||| flagExide.toUInt32 ||| (id >>> 16 &&& 0x03)).toUInt8,
      (id >>> 8).toUInt8, id.toUInt8]
  else [(id >>> 3).toUInt8, (id <<< 5).toUInt8, 0x00, 0x00]

def dataRegisters (c : CANController) : List UInt8 :=
  if c.txRtr then [0x40 ||| c.txLength] else c.txLength :: c.txData.cells.take c.txLength.toNat

def frameBytes (c : CANController) : List UInt8 := idRegisters c ++ dataRegisters c

def loadBuffer (io : ChipIo) (n : Nat) (c : CANController) (chip : Chip) : Chip :=
  let chip := chip.writeBurst io (regTxBnSidh n) (frameBytes c)
  let chip := chip.modifyRegister io regCanIntf (flagTxnIf n) 0x00
  chip.writeRegister io (regTxBnCtrl n) flagTxReq

def endPacket (io : ChipIo) (rounds : Nat) (mcp : MCP2515) : Option Bool × MCP2515 :=
  let ended := mcp.toCANController.endPacket
  let mcp := { mcp with toCANController := ended.2 }
  if !ended.1 then (some false, mcp) else
  let taken := mcp.takeTxBuffer io rounds
  match taken.1 with
  | none => (none, taken.2)
  | some n =>
    if n ≥ txBufferCount then (some false, taken.2) else
    (some true, { taken.2 with chip := loadBuffer io n taken.2.toCANController taken.2.chip })

theorem length_readBurst (io : ChipIo) (address length : Nat) (chip : Chip) :
    (chip.readBurst io address length).1.length = length := by
  induction length generalizing address chip with
  | zero => rfl
  | succ length ih => exact congrArg (· + 1) (ih (address + 1) (chip.settle io))

def headerId (sidh sidl eid8 eid0 : UInt8) : UInt32 :=
  let idA : UInt32 := ((sidh.toUInt32 <<< (3 : UInt32)) &&& 0x07F8) ||| ((sidl.toUInt32 >>> (5 : UInt32)) &&& 0x07)
  if sidl &&& flagIde != 0 then
    (idA <<< 18) ||| (((sidl &&& 0x03).toUInt32 <<< 16) ||| (eid8.toUInt32 <<< 8) ||| eid0.toUInt32)
  else idA

def headerRtr (sidl dlc : UInt8) : Bool := if sidl &&& flagIde != 0 then dlc &&& flagRtr != 0 else
    sidl &&& flagSrr != 0

def clampDlc (dlc : UInt8) : UInt8 := if dlc &&& 0x0F > 8 then 8 else dlc &&& 0x0F

theorem clampDlc_le (dlc : UInt8) : (clampDlc dlc).toNat ≤ 8 := by
  rw [clampDlc]
  split
  · decide
  · rename_i h
    exact UInt8.not_lt.mp h

def rxLengthOf (rtr : Bool) (dlc : UInt8) : UInt8 := if rtr then 0 else clampDlc dlc

theorem rxLengthOf_le (rtr : Bool) (dlc : UInt8) : (rxLengthOf rtr dlc).toNat ≤ 8 := by
  rw [rxLengthOf]
  split
  · decide
  · exact clampDlc_le dlc

def rxWaiting (intf : UInt8) : Option Nat :=
  if intf &&& flagRxnIf 0 != 0 then some 0 else if intf &&& flagRxnIf 1 != 0 then some 1 else none

/-- The packet state after the frame in a receive buffer has been read. -/
def received (c : CANController) (header data : List UInt8) (hdata : data.length ≤ 8) : CANController :=
  let sidh := header.getD 0 0
  let sidl := header.getD 1 0
  let dlc := header.getD 4 0
  { c with
    rxExtended := sidl &&& flagIde != 0
    rxId := headerId sidh sidl (header.getD 2 0) (header.getD 3 0)
    rxRtr := headerRtr sidl dlc
    rxDlc := clampDlc dlc
    rxIndex := 0
    rxLength := rxLengthOf (headerRtr sidl dlc) dlc
    rxData := c.rxData.put 0 data (by omega)
    rxLength_le := rxLengthOf_le _ _ }

def parsePacket (io : ChipIo) (mcp : MCP2515) : UInt8 × MCP2515 :=
  let (intf, chip) := mcp.chip.readRegister io regCanIntf
  match rxWaiting intf with
  | none => (0, { mcp with toCANController := mcp.toCANController.clearRxState, chip := chip })
  | some n =>
    let header := chip.readBurst io (regRxBnSidh n) 5
    let length := rxLengthOf (headerRtr (header.1.getD 1 0) (header.1.getD 4 0)) (header.1.getD 4 0)
    let data := header.2.readBurst io (regRxBnD0 n) length.toNat
    let c := received mcp.toCANController header.1 data.1 (by
      rw [length_readBurst]
      exact rxLengthOf_le _ _)
    (c.rxDlc, { mcp with toCANController := c, chip := data.2.modifyRegister io regCanIntf (flagRxnIf n) 0x00 })

/-! ## Filters -/

def maskWrites (n : Nat) (mode sidh sidl eid8 eid0 : UInt8) : List (Nat × UInt8) :=
  [(regRxBnCtrl n, rxCtrlMode n mode), (regRxMnSidh n, sidh), (regRxMnSidl n, sidl), (regRxMnEid8 n, eid8),
    (regRxMnEid0 n, eid0)]

def filterWrites (n : Nat) (sidh sidl eid8 eid0 : UInt8) : List (Nat × UInt8) :=
  [(regRxFnSidh n, sidh), (regRxFnSidl n, sidl), (regRxFnEid8 n, eid8), (regRxFnEid0 n, eid0)]

/-- Configuration mode is asked for, the registers are written, and the chip goes back on the bus. -/
def configure (io : ChipIo) (writes : List (Nat × UInt8)) (chip : Chip) : Bool × Chip :=
  let (value, chip) := (chip.writeRegister io regCanCtrl 0x80).readRegister io regCanCtrl
  if value != 0x80 then (false, chip) else
  let (value, chip) := ((writeAll io writes chip).writeRegister io regCanCtrl 0x00).readRegister io regCanCtrl
  (value == 0x00, chip)

def filter (io : ChipIo) (id mask : UInt16) (mcp : MCP2515) : Bool × MCP2515 :=
  let id := id &&& 0x7FF
  let mask := mask &&& 0x7FF
  let (ok, chip) := configure io
    ((List.range 2).flatMap (fun n => maskWrites n flagRxm0 (mask >>> 3).toUInt8 (mask <<< 5).toUInt8 0x00 0x00) ++
      (List.range 6).flatMap fun n => filterWrites n (id >>> 3).toUInt8 (id <<< 5).toUInt8 0x00 0x00) mcp.chip
  (ok, { mcp with chip := chip })

def filterSidl (id : UInt32) : UInt8 :=
  ((((id >>> 18) &&& 0x03) <<< 5) ||| flagExide.toUInt32 ||| ((id >>> 16) &&& 0x03)).toUInt8

def filterExtended (io : ChipIo) (id mask : UInt32) (mcp : MCP2515) : Bool × MCP2515 :=
  let id := id &&& 0x1FFFFFFF
  let mask := mask &&& 0x1FFFFFFF
  let (ok, chip) := configure io
    ((List.range 2).flatMap (fun n => maskWrites n flagRxm1 (mask >>> 21).toUInt8 (filterSidl mask)
        ((mask >>> 8) &&& 0xFF).toUInt8 (mask &&& 0xFF).toUInt8) ++
      (List.range 6).flatMap fun n => filterWrites n (id >>> 21).toUInt8 (filterSidl id)
        ((id >>> 8) &&& 0xFF).toUInt8 (id &&& 0xFF).toUInt8) mcp.chip
  (ok, { mcp with chip := chip })

end MCP2515

end CanSystems
