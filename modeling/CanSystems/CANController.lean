import CanSystems.Lib.CArray

/-!
# What both CAN drivers keep of a frame

`CANController` holds the packet that is being built and the one that was
received last; the two drivers on top of it move them to and from the registers
of their chips. A frame on the bus is a `WireFrame`, whatever chip it comes from.
-/

namespace CanSystems

inductive Identifier
  | standard (id : BitVec 11)
  | extended (id : BitVec 29)
  deriving DecidableEq, Repr

namespace Identifier

def isExtended : Identifier → Bool
  | standard _ => false
  | extended _ => true

def toUInt32 : Identifier → UInt32
  | standard id => UInt32.ofBitVec (id.setWidth 32)
  | extended id => UInt32.ofBitVec (id.setWidth 32)

end Identifier

structure WireFrame where
  ident : Identifier
  rtr : Bool
  dlc : BitVec 4
  data : List UInt8
  deriving DecidableEq, Repr

structure CANController where
  packetBegun : Bool
  txId : UInt32
  txExtended : Bool
  txRtr : Bool
  txDlc : UInt8
  txLength : UInt8
  txData : CArray UInt8 8
  rxId : UInt32
  rxExtended : Bool
  rxRtr : Bool
  rxDlc : UInt8
  rxLength : UInt8
  rxIndex : UInt8
  rxData : CArray UInt8 8
  txDlc_le : txDlc.toNat ≤ 8
  txLength_le : txLength.toNat ≤ 8
  rxLength_le : rxLength.toNat ≤ 8
  deriving DecidableEq

namespace CANController

def noId : UInt32 := 0xFFFFFFFF

def init : CANController where
  packetBegun := false
  txId := noId
  txExtended := false
  txRtr := false
  txDlc := 0
  txLength := 0
  txData := .replicate 8 0
  rxId := noId
  rxExtended := false
  rxRtr := false
  rxDlc := 0
  rxLength := 0
  rxIndex := 0
  rxData := .replicate 8 0
  txDlc_le := by decide
  txLength_le := by decide
  rxLength_le := by decide

def clearRxState (c : CANController) : CANController :=
  { c with
    rxId := noId
    rxExtended := false
    rxRtr := false
    rxDlc := 0
    rxLength := 0
    rxIndex := 0
    rxLength_le := by decide }

def begin (c : CANController) : CANController :=
  { c with
    packetBegun := false
    txId := noId
    txExtended := false
    txRtr := false
    txDlc := 0
    txLength := 0
    txDlc_le := by decide
    txLength_le := by decide }.clearRxState

/-! ## Sending -/

def openPacket (c : CANController) (id : UInt32) (extended : Bool) (dlc : UInt8) (rtr : Bool)
    (hdlc : dlc.toNat ≤ 8) :
    CANController :=
  { c with
    packetBegun := true
    txId := id
    txExtended := extended
    txRtr := rtr
    txDlc := dlc
    txLength := 0
    txData := .replicate 8 0
    txDlc_le := hdlc
    txLength_le := by decide }

def beginPacket (c : CANController) (id : UInt16) (dlc : UInt8) (rtr : Bool) : Bool × CANController :=
  if id > 0x7FF then (false, c) else
  if hdlc : dlc > 8 then (false, c) else
  (true, c.openPacket id.toUInt32 false dlc rtr (UInt8.not_lt.mp hdlc))

def beginExtendedPacket (c : CANController) (id : UInt32) (dlc : UInt8) (rtr : Bool) : Bool × CANController :=
  if id > 0x1FFFFFFF then (false, c) else
  if hdlc : dlc > 8 then (false, c) else
  (true, c.openPacket id true dlc rtr (UInt8.not_lt.mp hdlc))

def spaceAvailable (c : CANController) : Nat := 8 - c.txLength.toNat

theorem toNat_written (c : CANController) (buffer : List UInt8) :
    (c.txLength + UInt8.ofNat (min buffer.length c.spaceAvailable)).toNat =
      c.txLength.toNat + min buffer.length c.spaceAvailable := by
  have hle := c.txLength_le
  rw [UInt8.toNat_add, UInt8.toNat_ofNat']
  simp only [spaceAvailable]
  omega

theorem write_fits (c : CANController) (buffer : List UInt8) :
    c.txLength.toNat + (buffer.take (min buffer.length c.spaceAvailable)).length ≤ 8 := by
  have hle := c.txLength_le
  rw [List.length_take, spaceAvailable]
  omega

def write (c : CANController) (buffer : List UInt8) : Nat × CANController :=
  if c.packetBegun = false then (0, c) else
  let size := min buffer.length c.spaceAvailable
  (size,
    { c with
      txData := c.txData.put c.txLength.toNat (buffer.take size) (c.write_fits buffer)
      txLength := c.txLength + UInt8.ofNat size
      txLength_le := by
        have hfits := c.write_fits buffer
        rw [List.length_take, Nat.min_eq_left (Nat.min_le_left _ _)] at hfits
        rw [toNat_written]
        exact hfits })

def endPacket (c : CANController) : Bool × CANController :=
  if c.packetBegun = false then (false, c) else
  (true, { c with packetBegun := false, txLength := c.txDlc, txLength_le := c.txDlc_le })

/-! ## Receiving -/

def packetId (c : CANController) : UInt32 := c.rxId

def packetExtended (c : CANController) : Bool := c.rxExtended

def packetRtr (c : CANController) : Bool := c.rxRtr

def packetDlc (c : CANController) : UInt8 := c.rxDlc

def available (c : CANController) : Int := c.rxLength.toNat - c.rxIndex.toNat

theorem index_lt (c : CANController) (h : c.available > 0) : c.rxIndex.toNat < c.rxData.cells.length := by
  have hle := c.rxLength_le
  have hsize := c.rxData.size
  rw [available] at h
  omega

def readBytes (c : CANController) : Nat → List UInt8 × CANController
  | 0 => ([], c)
  | length + 1 =>
    if h : c.available > 0 then
      let rest := readBytes { c with rxIndex := c.rxIndex + 1 } length
      (c.rxData.cells.get ⟨c.rxIndex.toNat, c.index_lt h⟩ :: rest.1, rest.2)
    else ([], c)

theorem readBytes_eq (c : CANController) (length : Nat) :
    (c.readBytes length).1 = ((c.rxData.cells.take c.rxLength.toNat).drop c.rxIndex.toNat).take length := by
  induction length generalizing c with
  | zero => rw [List.take_zero, readBytes]
  | succ length ih =>
    have hle := c.rxLength_le
    have hsize := c.rxData.size
    rw [readBytes]
    split
    · rename_i h
      have hlt := c.index_lt h
      have hnext : (c.rxIndex + 1).toNat = c.rxIndex.toNat + 1 := by
        rw [UInt8.toNat_add]
        exact Nat.mod_eq_of_lt (by rw [UInt8.toNat_one]; omega)
      have hspan : c.rxIndex.toNat < (c.rxData.cells.take c.rxLength.toNat).length := by
        rw [available] at h
        rw [List.length_take]
        omega
      rw [List.drop_eq_getElem_cons hspan, List.take_succ_cons, List.getElem_take]
      dsimp only [List.get_eq_getElem]
      rw [ih]
      dsimp only
      rw [hnext]
    · rename_i h
      rw [available] at h
      rw [List.drop_eq_nil_of_le (by rw [List.length_take]; omega), List.take_nil]

/-! ## The frame in the packet state -/

def txFrame (c : CANController) : WireFrame where
  ident := if c.txExtended then .extended (c.txId.toBitVec.setWidth 29) else .standard (c.txId.toBitVec.setWidth 11)
  rtr := c.txRtr
  dlc := c.txDlc.toBitVec.setWidth 4
  data := if c.txRtr then [] else c.txData.cells.take c.txDlc.toNat

/-- The frame received last is `f`, none of it read yet. -/
structure Holds (c : CANController) (f : WireFrame) : Prop where
  id : c.packetId = f.ident.toUInt32
  extended : c.packetExtended = f.ident.isExtended
  rtr : c.packetRtr = f.rtr
  dlc : c.packetDlc = UInt8.ofBitVec (f.dlc.setWidth 8)
  data : ∀ length, (c.readBytes length).1 = f.data.take length

end CANController

end CanSystems
