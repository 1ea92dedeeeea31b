import CanSystems.CANController

/-!
# The ESP32's CAN peripheral and its driver

The registers are in memory. From 0x10 on an address stands for the acceptance
registers in reset mode; in operation a write there goes to the transmit buffer
and a read comes from the receive buffer.
-/

namespace CanSystems

namespace ESP32SJA1000

def regMod : Nat := 0x00
def regCmr : Nat := 0x01
def regSr : Nat := 0x02
def regSff : Nat := 0x10
def regEff : Nat := 0x10

def modResetMode : UInt8 := 0x01

def srReceiveBuffer : UInt8 := 0x01
def srTxBufferFree : UInt8 := 0x04
def srTxComplete : UInt8 := 0x08

def regAcrN (n : Nat) : Nat := 0x10 + n
def regAmrN (n : Nat) : Nat := 0x14 + n

/-! ## The chip -/

def windowFrame (window : Nat → UInt8) : WireFrame :=
  let info := (window regSff).toBitVec
  let dlc := info.extractLsb' 0 4
  let length := if info.getLsbD 6 then 0 else min 8 dlc.toNat
  { ident :=
      if info.getLsbD 7 then
        .extended ((window (regEff + 1)).toBitVec ++ (window (regEff + 2)).toBitVec ++
          (window (regEff + 3)).toBitVec ++
          (window (regEff + 4)).toBitVec.extractLsb' 3 5 : BitVec (8 + 8 + 8 + 5))
      else .standard ((window (regSff + 1)).toBitVec ++ (window (regSff + 2)).toBitVec.extractLsb' 5 3)
    rtr := info.getLsbD 6
    dlc := dlc
    data := (List.range length).map fun i => window ((if info.getLsbD 7 then regEff + 5 else regSff + 3) + i) }

structure Chip where
  regs : Nat → UInt8
  acceptance : Nat → UInt8
  txWindow : Nat → UInt8
  rxWindow : Nat → UInt8
  /-- What the chip has been asked to send. -/
  transmitted : List WireFrame

namespace Chip

def isInResetMode (chip : Chip) : Bool := chip.regs regMod &&& modResetMode != 0

def setReg (regs : Nat → UInt8) (address : Nat) (value : UInt8) : Nat → UInt8 := fun a => if a = address then
    value else regs a

def onCommand (chip : Chip) (command : UInt8) : Chip :=
  if chip.isInResetMode then chip else
  let chip :=
    if command &&& 0x11 != 0 then
      { chip with
        transmitted := chip.transmitted ++ [windowFrame chip.txWindow]
        regs := setReg chip.regs regSr (chip.regs regSr &&& ~~~(srTxComplete ||| srTxBufferFree)) }
    else chip
  if command &&& 0x04 != 0 then { chip with regs := setReg chip.regs regSr (chip.regs regSr &&&
    ~~~srReceiveBuffer) } else chip

def readRegister (chip : Chip) (address : Nat) : UInt8 :=
  if address = regCmr then 0 else
  if address < 0x10 then chip.regs address else
  if chip.isInResetMode then chip.acceptance address else chip.rxWindow address

def writeRegister (chip : Chip) (address : Nat) (value : UInt8) : Chip :=
  if address < 0x10 then
    let chip := { chip with regs := setReg chip.regs address value }
    if address = regCmr then chip.onCommand value else chip
  else if chip.isInResetMode then { chip with acceptance := setReg chip.acceptance address value }
  else { chip with txWindow := setReg chip.txWindow address value }

def modifyRegister (chip : Chip) (address : Nat) (mask value : UInt8) : Chip :=
  chip.writeRegister address ((chip.readRegister address &&& ~~~mask) ||| value)

/-- The single acceptance filter, which `begin` chooses and nothing after it changes: a mask bit that is set is not
compared. -/
def accepts (chip : Chip) (id : BitVec 29) (rtr : Bool) : Prop :=
  let code := (chip.acceptance (regAcrN 0)).toBitVec ++ (chip.acceptance (regAcrN 1)).toBitVec ++
    (chip.acceptance (regAcrN 2)).toBitVec ++ (chip.acceptance (regAcrN 3)).toBitVec
  let mask := (chip.acceptance (regAmrN 0)).toBitVec ++ (chip.acceptance (regAmrN 1)).toBitVec ++
    (chip.acceptance (regAmrN 2)).toBitVec ++ (chip.acceptance (regAmrN 3)).toBitVec
  -- the identifier, the remote request bit and two bits that are not used
  ∀ i : Fin 30, mask.getLsbD (i + 2) = false → code.getLsbD (i + 2) = (id ++ BitVec.ofBool rtr).getLsbD i

end Chip

end ESP32SJA1000

/-! ## The driver -/

structure ESP32SJA1000 extends CANController where
  loopbackEnabled : Bool
  txPending : Bool
  txStartedAt : UInt32
  chip : ESP32SJA1000.Chip

namespace ESP32SJA1000

def init (regs : Nat → UInt8) : ESP32SJA1000 where
  toCANController := .init
  loopbackEnabled := false
  txPending := false
  txStartedAt := 0
  chip := ⟨regs, fun _ => 0, fun _ => 0, fun _ => 0, []⟩

def writeData (dataReg : Nat) : List UInt8 → Chip → Chip
  | [], chip => chip
  | value :: data, chip => writeData (dataReg + 1) data (chip.writeRegister dataReg value)

def header (c : CANController) : List UInt8 :=
  let id := c.txId
  let info := (if c.txRtr then 0x40 else 0x00) ||| (0x0F &&& c.txLength)
  if c.txExtended then [0x80 ||| info, (id >>> 21).toUInt8, (id >>> 13).toUInt8, (id >>> 5).toUInt8,
    (id <<< 3).toUInt8]
  else [info, (id >>> 3).toUInt8, (id <<< 5).toUInt8]

def endPacket (now : UInt32) (sja : ESP32SJA1000) : Bool × ESP32SJA1000 :=
  let ended := sja.toCANController.endPacket
  let c := ended.2
  if !ended.1 then (false, { sja with toCANController := c }) else
  let chip := writeData regSff (header c ++ c.txData.cells.take c.txLength.toNat) sja.chip
  let chip := chip.modifyRegister regCmr 0x1F (if sja.loopbackEnabled then 0x10 else 0x01)
  (true, { sja with toCANController := c, chip := chip, txPending := true, txStartedAt := now })

def clampDlc (dlc : UInt8) : UInt8 := if dlc > 8 then 8 else dlc

def rxLengthOf (rtr : Bool) (dlc : UInt8) : UInt8 := if rtr then 0 else clampDlc dlc

theorem rxLengthOf_le (rtr : Bool) (dlc : UInt8) : (rxLengthOf rtr dlc).toNat ≤ 8 := by
  rw [rxLengthOf, clampDlc]
  split
  · decide
  · split
    · decide
    · rename_i h
      exact UInt8.not_lt.mp h

/-- The packet state after the frame behind `read` has been read. -/
def received (c : CANController) (read : Nat → UInt8) : CANController :=
  let sff := read regSff
  let extended := sff &&& 0x80 != 0
  let rtr := sff &&& 0x40 != 0
  let dataReg := if extended then regEff + 5 else regSff + 3
  { c with
    rxExtended := extended
    rxRtr := rtr
    rxDlc := clampDlc (sff &&& 0x0F)
    rxIndex := 0
    rxId :=
      if extended then
        ((read (regEff + 1)).toUInt32 <<< 21) ||| ((read (regEff + 2)).toUInt32 <<< 13) |||
          ((read (regEff + 3)).toUInt32 <<< 5) ||| ((read (regEff + 4)).toUInt32 >>> 3)
      else ((read (regSff + 1)).toUInt32 <<< 3) ||| (((read (regSff + 2)).toUInt32 >>> 5) &&& 0x07)
    rxLength := rxLengthOf rtr (sff &&& 0x0F)
    rxData := c.rxData.put 0 ((List.range (rxLengthOf rtr (sff &&& 0x0F)).toNat).map fun i => read (dataReg + i))
      (by
      rw [List.length_map, List.length_range, Nat.zero_add]
      exact rxLengthOf_le _ _)
    rxLength_le := rxLengthOf_le _ _ }

def parsePacket (sja : ESP32SJA1000) : UInt8 × ESP32SJA1000 :=
  if sja.chip.readRegister regSr &&& 0x01 != 0x01 then
    (0, { sja with toCANController := sja.toCANController.clearRxState }) else
  let c := received sja.toCANController sja.chip.readRegister
  (c.rxDlc, { sja with toCANController := c, chip := sja.chip.modifyRegister regCmr 0x04 0x04 })

/-! ## Modes and filters -/

def writeAll (writes : List (Nat × UInt8)) (chip : Chip) : Chip :=
  writes.foldl (fun chip w => chip.writeRegister w.1 w.2) chip

def configure (writes : List (Nat × UInt8)) (chip : Chip) : Chip :=
  (writeAll writes (chip.modifyRegister regMod 0x17 0x01)).modifyRegister regMod 0x17 0x00

def filter (id mask : UInt16) (sja : ESP32SJA1000) : ESP32SJA1000 :=
  let id := id &&& 0x7FF
  let amr := ~~~(mask &&& 0x7FF)
  { sja with
    chip := configure
      [(regAcrN 0, (id >>> 3).toUInt8), (regAcrN 1, (id <<< 5).toUInt8), (regAcrN 2, 0x00), (regAcrN 3, 0x00),
        (regAmrN 0, (amr >>> 3).toUInt8), (regAmrN 1, ((amr <<< 5) ||| 0x1F).toUInt8), (regAmrN 2, 0xFF),
          (regAmrN 3, 0xFF)]
      sja.chip }

def filterExtended (id mask : UInt32) (sja : ESP32SJA1000) : ESP32SJA1000 :=
  let id := id &&& 0x1FFFFFFF
  let amr := ~~~(mask &&& 0x1FFFFFFF)
  { sja with
    chip := configure
      [(regAcrN 0, (id >>> 21).toUInt8), (regAcrN 1, (id >>> 13).toUInt8), (regAcrN 2, (id >>> 5).toUInt8),
        (regAcrN 3, (id <<< 3).toUInt8), (regAmrN 0, (amr >>> 21).toUInt8), (regAmrN 1, (amr >>> 13).toUInt8),
        (regAmrN 2, (amr >>> 5).toUInt8), (regAmrN 3, ((amr <<< 3) ||| 0x07).toUInt8)]
      sja.chip }

end ESP32SJA1000

end CanSystems
