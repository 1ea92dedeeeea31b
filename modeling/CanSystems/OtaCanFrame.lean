import CanSystems.OTA

/-!
# Frames of an update on the bus

The eight data bytes of the frames the two ends exchange. Both ends use the same
pack and unpack functions, so a round trip gives the fields back.
-/

namespace CanSystems

inductive CanCmd
  | PING | RESTART | FW_VERSION | BUTTON_EVENT | OTA_START | OTA_SEND | OTA_END | RGB_LED | ROUND_TIME_MAX
  | SET_CAN_ID | ANNOUNCE
  | driver (value : UInt16)
  deriving DecidableEq, Repr

inductive Response
  | NACK | ACK
  deriving DecidableEq, Repr

abbrev CanData := Vector UInt8 8

structure CanFrame where
  cmd : CanCmd
  data : CanData
  deriving DecidableEq, Repr

def Response.toByte : Response → UInt8
  | .NACK => 0
  | .ACK => 1

/-- The frame `send(command, response)` puts on the bus. -/
def CanFrame.answer (cmd : CanCmd) (response : Response) : CanFrame :=
  ⟨cmd, #v[response.toByte, 0, 0, 0, 0, 0, 0, 0]⟩

def CanFrame.isAck (frame : CanFrame) : Bool := frame.data[0] == Response.ACK.toByte

@[simp] theorem isAck_answer (cmd : CanCmd) (response : Response) :
    (CanFrame.answer cmd response).isAck = (response == .ACK) := by
  cases response <;> rfl

@[simp] theorem cmd_answer (cmd : CanCmd) (response : Response) : (CanFrame.answer cmd response).cmd = cmd := rfl

namespace OtaCanFrame

def dataPieceSize : Nat := 7

structure StartFrame where
  storageNumber : UInt16
  fwSize : UInt32
  fwCrc : UInt16
  deriving DecidableEq, Repr

structure SendFrame where
  data : FwPiece
  sequence : UInt8
  deriving DecidableEq, Repr

def padPiece (bytes : List UInt8) : FwPiece := Vector.ofFn fun i => bytes.getD i.val 0

def packStart (fields : StartFrame) : CanData :=
  #v[(fields.storageNumber &&& 0xFF).toUInt8,
     ((fields.storageNumber >>> 8) &&& 0xFF).toUInt8,
     (fields.fwSize &&& 0xFF).toUInt8,
     ((fields.fwSize >>> 8) &&& 0xFF).toUInt8,
     ((fields.fwSize >>> 16) &&& 0xFF).toUInt8,
     ((fields.fwSize >>> 24) &&& 0xFF).toUInt8,
     (fields.fwCrc &&& 0xFF).toUInt8,
     ((fields.fwCrc >>> 8) &&& 0xFF).toUInt8]

def unpackStart (canData : CanData) : StartFrame where
  storageNumber := canData[0].toUInt16 ||| (canData[1].toUInt16 <<< 8)
  fwSize := canData[2].toUInt32 ||| (canData[3].toUInt32 <<< 8) ||| (canData[4].toUInt32 <<< 16) |||
    (canData[5].toUInt32 <<< 24)
  fwCrc := canData[6].toUInt16 ||| (canData[7].toUInt16 <<< 8)

def bytesOf (canData : CanData) : UInt8 × UInt8 × UInt8 × UInt8 × UInt8 × UInt8 × UInt8 × UInt8 :=
  (canData[0], canData[1], canData[2], canData[3], canData[4], canData[5], canData[6], canData[7])

def packSend (fields : SendFrame) : CanData :=
  Vector.ofFn fun i => if h : i.val < 7 then fields.data[i.val] else fields.sequence

def unpackSend (canData : CanData) : SendFrame where
  data := Vector.ofFn fun i => canData[i.val]
  sequence := canData[7]

theorem take_padPiece {bytes : List UInt8} (h : bytes.length ≤ 7) :
    (padPiece bytes).toList.take bytes.length = bytes := by
  apply List.ext_getElem (by simp; omega)
  intro i h₁ h₂
  simp [padPiece, h₂]

/-! ## Round trips -/

theorem lowByte_u16 (x : UInt16) : (x &&& 0xFF).toUInt8 = x.toUInt8 := by
  apply UInt8.toNat_inj.mp
  have hlt : x.toNat &&& 255 < 256 := Nat.lt_of_le_of_lt Nat.and_le_right (by decide)
  rw [UInt16.toNat_toUInt8, UInt16.toNat_toUInt8, UInt16.toNat_and]
  exact (Nat.mod_eq_of_lt hlt).trans (Nat.and_two_pow_sub_one_eq_mod _ 8)

theorem lowByte_u32 (x : UInt32) : (x &&& 0xFF).toUInt8 = x.toUInt8 := by
  apply UInt8.toNat_inj.mp
  have hlt : x.toNat &&& 255 < 256 := Nat.lt_of_le_of_lt Nat.and_le_right (by decide)
  rw [UInt32.toNat_toUInt8, UInt32.toNat_toUInt8, UInt32.toNat_and]
  exact (Nat.mod_eq_of_lt hlt).trans (Nat.and_two_pow_sub_one_eq_mod _ 8)

theorem u16_of_bytes (x : UInt16) :
    (x &&& 0xFF).toUInt8.toUInt16 ||| (((x >>> 8) &&& 0xFF).toUInt8.toUInt16 <<< 8) = x := by
  apply UInt16.toBitVec_inj.mp
  simp only [lowByte_u16, UInt16.toBitVec_or, UInt16.toBitVec_shiftLeft, UInt16.toBitVec_shiftRight,
    UInt8.toBitVec_toUInt16, UInt16.toBitVec_toUInt8]
  ext i hi
  simp
  grind

theorem u32_of_bytes (x : UInt32) :
    (x &&& 0xFF).toUInt8.toUInt32 ||| (((x >>> 8) &&& 0xFF).toUInt8.toUInt32 <<< 8) |||
      (((x >>> 16) &&& 0xFF).toUInt8.toUInt32 <<< 16) ||| (((x >>> 24) &&& 0xFF).toUInt8.toUInt32 <<< 24) = x := by
  apply UInt32.toBitVec_inj.mp
  simp only [lowByte_u32, UInt32.toBitVec_or, UInt32.toBitVec_shiftLeft, UInt32.toBitVec_shiftRight,
    UInt8.toBitVec_toUInt32, UInt32.toBitVec_toUInt8]
  ext i hi
  simp
  grind

@[simp] theorem unpackStart_packStart (fields : StartFrame) : unpackStart (packStart fields) = fields := by
  have hstorage := u16_of_bytes fields.storageNumber
  have hsize := u32_of_bytes fields.fwSize
  have hcrc := u16_of_bytes fields.fwCrc
  cases fields
  simp only [unpackStart, packStart, StartFrame.mk.injEq]
  exact ⟨hstorage, hsize, hcrc⟩

@[simp] theorem unpackSend_packSend (fields : SendFrame) : unpackSend (packSend fields) = fields := by
  cases fields
  simp only [unpackSend, packSend, SendFrame.mk.injEq]
  constructor
  · ext i hi
    simp
  · simp

end OtaCanFrame

end CanSystems
