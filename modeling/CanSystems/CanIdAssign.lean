import CanSystems.OtaCanFrame

/-!
# The SET_CAN_ID frame

What the gateway packs into the frame and by which rules a node obeys it. The
frame names the address the node holds now and the one it should take; the
address of a node that has none is folded out of its unique id.
-/

namespace CanSystems

abbrev Uid := Vector UInt8 8

/-- A frame with the addresses of its two ends, the source's `to` and `from`. -/
structure BusFrame where
  receiver : UInt16
  cmd : CanCmd
  sender : UInt16
  data : CanData
  deriving DecidableEq, Repr

namespace CanIdAssign

def idMask : UInt16 := 0x3FF
def provisionalBase : UInt16 := 0x300

def provisionalId (uid : Uid) : UInt16 := provisionalBase ||| (crcOf uid.toList &&& 0xFF)

def isProvisionalId (id : UInt16) : Bool := decide (provisionalBase ≤ id) && decide (id ≤ idMask)

structure Request where
  expectedLocal : UInt16
  newLocal : UInt16
  reservedClear : Bool
  deriving DecidableEq, Repr

def pack (fields : Request) : CanData :=
  #v[(fields.expectedLocal &&& 0xFF).toUInt8,
     ((fields.expectedLocal >>> 8) &&& 0xFF).toUInt8,
     (fields.newLocal &&& 0xFF).toUInt8,
     ((fields.newLocal >>> 8) &&& 0xFF).toUInt8,
     0, 0, 0, 0]

def unpack (canData : CanData) : Request :=
  let (b₀, b₁, b₂, b₃, b₄, b₅, b₆, b₇) := OtaCanFrame.bytesOf canData
  { expectedLocal := b₀.toUInt16 ||| (b₁.toUInt16 <<< 8)
    newLocal := b₂.toUInt16 ||| (b₃.toUInt16 <<< 8)
    reservedClear := b₄ == 0 && b₅ == 0 && b₆ == 0 && b₇ == 0 }

def isAssignableId (id : UInt16) : Bool := id != 0 && decide (id ≤ idMask) && !isProvisionalId id

def isAcceptable (request : Request) (currentLocal currentMaster senderId : UInt16) : Bool :=
  -- Only the master may renumber a node.
  if senderId ≠ currentMaster then false else
  if request.reservedClear = false then false else
  if request.expectedLocal ≠ currentLocal then false else
  if isAssignableId request.newLocal = false then false else
  if request.newLocal = currentMaster then false else true

/-! ## What the rules give -/

@[simp] theorem unpack_pack (fields : Request) : unpack (pack fields) = { fields with reservedClear := true } := by
  have hexpected := OtaCanFrame.u16_of_bytes fields.expectedLocal
  have hnew := OtaCanFrame.u16_of_bytes fields.newLocal
  cases fields
  simp only [unpack, pack, Request.mk.injEq]
  exact ⟨hexpected, hnew, rfl⟩

theorem newLocal_unpack_answer (cmd : CanCmd) (response : Response) :
    (unpack (CanFrame.answer cmd response).data).newLocal = 0 := by
  cases response <;> simp [unpack, OtaCanFrame.bytesOf, CanFrame.answer]

theorem isAcceptable_iff {request : Request} {currentLocal currentMaster senderId : UInt16} :
    isAcceptable request currentLocal currentMaster senderId = true ↔
      senderId = currentMaster ∧ request.reservedClear = true ∧ request.expectedLocal = currentLocal ∧
        isAssignableId request.newLocal = true ∧ request.newLocal ≠ currentMaster := by
  unfold isAcceptable
  constructor
  · intro h
    repeat' split at h
    all_goals try cases h
    rename_i hsender hclear hexpected hassignable hmaster
    exact ⟨not_not.mp hsender, by simpa using hclear, not_not.mp hexpected, by simpa using hassignable, hmaster⟩
  · rintro ⟨hsender, hclear, hexpected, hassignable, hmaster⟩
    simp [hsender, hclear, hexpected, hassignable, hmaster]

theorem provisionalId_masked (uid : Uid) : provisionalId uid &&& idMask = provisionalId uid := by
  have hlow : (crcOf uid.toList &&& 0xFF).toNat < 2 ^ 10 := by
    rw [UInt16.toNat_and]
    exact Nat.lt_of_le_of_lt Nat.and_le_right (by decide)
  have hlt : (provisionalId uid).toNat < 2 ^ 10 := by
    rw [provisionalId, UInt16.toNat_or]
    exact Nat.or_lt_two_pow (by decide) hlow
  apply UInt16.toNat_inj.mp
  rw [UInt16.toNat_and]
  exact (Nat.and_two_pow_sub_one_eq_mod _ 10).trans (Nat.mod_eq_of_lt hlt)

theorem masked_le (id : UInt16) : id &&& idMask ≤ idMask := by
  apply UInt16.le_iff_toNat_le.mpr
  rw [UInt16.toNat_and]
  exact Nat.and_le_right

theorem isProvisionalId_provisionalId (uid : Uid) : isProvisionalId (provisionalId uid) = true := by
  have hbase : provisionalBase ≤ provisionalId uid := by
    apply UInt16.le_iff_toNat_le.mpr
    rw [provisionalId, UInt16.toNat_or]
    exact Nat.left_le_or
  have hmask : provisionalId uid ≤ idMask := by
    rw [← provisionalId_masked uid]
    exact masked_le _
  simp [isProvisionalId, hbase, hmask]

theorem isAssignableId_iff {id : UInt16} :
    isAssignableId id = true ↔ id ≠ 0 ∧ id ≤ idMask ∧ isProvisionalId id = false := by
  simp [isAssignableId, and_assoc]

theorem assignable_masked {id : UInt16} (h : isAssignableId id = true) : id &&& idMask = id := by
  have hle := UInt16.le_iff_toNat_le.mp (isAssignableId_iff.mp h).2.1
  apply UInt16.toNat_inj.mp
  rw [UInt16.toNat_and]
  exact (Nat.and_two_pow_sub_one_eq_mod _ 10).trans (Nat.mod_eq_of_lt (Nat.lt_of_le_of_lt hle (by decide)))

theorem assignable_ne_provisionalId {id : UInt16} (h : isAssignableId id = true) (uid : Uid) :
    id ≠ provisionalId uid := by
  intro heq
  have hfalse := (isAssignableId_iff.mp h).2.2
  rw [heq, isProvisionalId_provisionalId] at hfalse
  cases hfalse

end CanIdAssign

end CanSystems
