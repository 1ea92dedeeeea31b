import CanSystems.Common
import CanSystems.Crc16
import CanSystems.SPIFlash
import Mathlib.Data.Vector.Basic

/-!
# The node's firmware store

`OTA` keeps the first two bytes of an image in memory until its checksum has
been found right, since the bootloader takes an image whose first bytes are a
jump. `flashPointer` is the write cursor while pieces come in and the read
cursor of the closing check. `start` bounds the size by `programMemorySize`, so
the cursor arithmetic is that of the naturals.
-/

namespace CanSystems

inductive OtaState
  | IDLE | START | STORE | CHECK | VALID | INVALID
  deriving DecidableEq, Repr

abbrev FwPiece := Vector UInt8 7

structure OTA where
  flash : SPIFlash
  firstFwBytes : Vector UInt8 2
  fwSize : Nat
  fwCrc : UInt16
  flashPointer : Nat
  crc16 : ImageCrc
  flashBlockBeginAddress : Nat
  stallTimer : UInt32
  otaState : OtaState

namespace OTA

def flashBlockTobytes : Nat := 32 * 1024
def stallTimeoutTime : UInt32 := Time.minToMs 3
def checkChunkSize : Nat := 32
/-- `board_upload.maximum_size` of the node's build. -/
def programMemorySize : Nat := 32256
def fwPieceSize : Nat := 7
def sizeofFirstFwBytes : Nat := 2

def init (flash : SPIFlash) : OTA where
  flash := flash
  firstFwBytes := #v[0, 0]
  fwSize := 0
  fwCrc := 0
  flashPointer := 0
  crc16 := Crc16.init
  flashBlockBeginAddress := 0
  stallTimer := 0
  otaState := .IDLE

def start (ota : OTA) (now : UInt32) (flashBlockNumber : UInt16) (fwSize : UInt32) (fwCrc : UInt16) : Bool × OTA :=
  if fwSize = 0 then (false, ota) else
  if programMemorySize < fwSize.toNat then (false, ota) else
  let (capacity, flash) := ota.flash.capacity
  if capacity < (flashBlockNumber.toUInt32 * UInt32.ofNat flashBlockTobytes + fwSize).toNat then
    (false, { ota with flash := flash })
  else
    match flash.chipErase with
    | (false, flash) => (false, { ota with flash := flash })
    | (true, flash) => (true, { ota with
        flash := flash
        fwSize := fwSize.toNat
        fwCrc := fwCrc
        flashBlockBeginAddress := flashBlockNumber.toNat * flashBlockTobytes
        flashPointer := 0
        stallTimer := now
        otaState := .START })

/-- The loop that keeps the first bytes in memory: what it leaves of the piece, the
bytes kept, and the cursor. -/
def keepFirst : List UInt8 → Vector UInt8 2 → Nat → List UInt8 × Vector UInt8 2 × Nat
  | [], first, pointer => ([], first, pointer)
  | b :: bs, first, pointer =>
    if h : pointer < 2 then keepFirst bs (first.set pointer b) (pointer + 1) else (b :: bs, first, pointer)

def storeNextData (ota : OTA) (now : UInt32) (sequence : UInt8) (fwData : FwPiece) : Bool × OTA :=
  if ota.fwSize ≤ ota.flashPointer then (false, ota) else
  if UInt8.ofNat ota.flashPointer ≠ sequence then (false, ota) else
  let expectedDataSize := min (ota.fwSize - ota.flashPointer) fwPieceSize
  let (rest, first, pointer) := keepFirst (fwData.toList.take expectedDataSize) ota.firstFwBytes ota.flashPointer
  let ota := { ota with firstFwBytes := first, flashPointer := pointer }
  if rest = [] then (true, { ota with stallTimer := now }) else
  match ota.flash.writeBytes (ota.flashBlockBeginAddress + pointer) rest with
  | (false, flash) => (false, { ota with flash := flash, otaState := .INVALID })
  | (true, flash) => (true, { ota with flash := flash, flashPointer := pointer + rest.length, stallTimer := now })

def readNextCheckChunk (ota : OTA) : OTA :=
  let chunkSize := min (ota.fwSize - ota.flashPointer) checkChunkSize
  if h : ota.flashPointer < 2 then
    { ota with crc16 := ota.crc16.next [ota.firstFwBytes[ota.flashPointer]], flashPointer := ota.flashPointer + 1 }
  else
    let (_, readBuffer, flash) := ota.flash.readBytes (ota.flashBlockBeginAddress + ota.flashPointer) chunkSize
    { ota with flash := flash, crc16 := ota.crc16.next readBuffer, flashPointer := ota.flashPointer + chunkSize }

def finishCheck (ota : OTA) : OTA :=
  if ota.fwCrc ≠ ota.crc16.get then { ota with otaState := .INVALID } else
  let (writeBackOk, flash) := ota.flash.writeBytes ota.flashBlockBeginAddress ota.firstFwBytes.toList
  let (readBackOk, dataReadBack, flash) := flash.readBytes ota.flashBlockBeginAddress sizeofFirstFwBytes
  if writeBackOk && readBackOk && ota.firstFwBytes.toList == dataReadBack then
    { ota with flash := flash, otaState := .VALID }
  else { ota with flash := flash, otaState := .INVALID }

def waitingOnSomebody (ota : OTA) : Bool := ota.otaState == .START || ota.otaState == .STORE

def stalled (ota : OTA) (now : UInt32) : Bool :=
  ota.waitingOnSomebody && Time.hasElapsed now ota.stallTimer stallTimeoutTime

def checkChunk (ota : OTA) : OTA :=
  if ota.flashPointer < ota.fwSize then ota.readNextCheckChunk else ota

def run (ota : OTA) (now : UInt32) : OTA :=
  if ota.stalled now then { ota with otaState := .INVALID } else
  match ota.otaState with
  | .IDLE => ota
  | .START =>
    let (busy, flash) := ota.flash.busy
    if busy then { ota with flash := flash } else { ota with flash := flash, otaState := .STORE }
  | .STORE =>
    if ota.flashPointer = ota.fwSize then
      { ota with flashPointer := 0, crc16 := ota.crc16.reset, otaState := .CHECK }
    else ota
  | .CHECK =>
    let ota := ota.checkChunk
    if ota.flashPointer = ota.fwSize then ota.finishCheck else ota
  | .VALID => { ota with otaState := .IDLE }
  | .INVALID =>
    { ota with
      flash := ota.flash.chipErase.2
      fwSize := 0
      fwCrc := 0
      flashPointer := 0
      flashBlockBeginAddress := 0
      otaState := .IDLE }

def isOwnFw (ota : OTA) : Bool := ota.flashBlockBeginAddress == 0

/-! ## What the loop over the first bytes leaves -/

theorem keepFirst_rest : ∀ (data : List UInt8) (first : Vector UInt8 2) (pointer : Nat),
    (keepFirst data first pointer).1 = data.drop (2 - pointer)
  | [], _, _ => by simp [keepFirst]
  | b :: bs, first, pointer => by
    unfold keepFirst
    split
    · rename_i h
      rw [keepFirst_rest, show 2 - pointer = (2 - (pointer + 1)) + 1 by omega, List.drop_succ_cons]
    · rw [show 2 - pointer = 0 by omega, List.drop_zero]

theorem keepFirst_pointer : ∀ (data : List UInt8) (first : Vector UInt8 2) (pointer : Nat),
    (keepFirst data first pointer).2.2 = pointer + min (2 - pointer) data.length
  | [], _, _ => by simp [keepFirst]
  | b :: bs, first, pointer => by
    unfold keepFirst
    split
    · rw [keepFirst_pointer, List.length_cons]; omega
    · simp only; omega

theorem keepFirst_get : ∀ (data : List UInt8) (first : Vector UInt8 2) (pointer i : Nat) (hi : i < 2),
    (keepFirst data first pointer).2.1[i] = if pointer ≤ i then data.getD (i - pointer) first[i] else first[i]
  | [], _, _, _, _ => by simp [keepFirst]
  | b :: bs, first, pointer, i, hi => by
    unfold keepFirst
    split
    · rw [keepFirst_get, Vector.getElem_set]
      by_cases h : pointer = i
      · subst h; simp
      · by_cases hle : pointer ≤ i
        · have : i - pointer = (i - (pointer + 1)) + 1 := by omega
          simp [h, hle, this, show pointer + 1 ≤ i by omega]
        · simp [h, hle, show ¬ pointer + 1 ≤ i by omega]
    · simp only; rw [if_neg (by omega)]

/-! ## What a call can do -/

/-- `start` refuses and changes at most the flash's waiting answers, or it erases and opens a transfer. -/
theorem start_cases (ota : OTA) (now : UInt32) (block : UInt16) (size : UInt32) (crc : UInt16) :
    (∃ flash, SPIFlash.SameChip ota.flash flash ∧
      ota.start now block size crc = (false, { ota with flash := flash })) ∨
    (∃ flash, flash.mem = Nor.erased ∧ flash.densityCode = ota.flash.densityCode ∧ flash.issued = ota.flash.issued ∧
      size ≠ 0 ∧ size.toNat ≤ programMemorySize ∧
      (block.toUInt32 * UInt32.ofNat flashBlockTobytes + size).toNat ≤ ota.flash.capacity.1 ∧
      ota.start now block size crc = (true, { ota with
        flash := flash, fwSize := size.toNat, fwCrc := crc,
        flashBlockBeginAddress := block.toNat * flashBlockTobytes,
        flashPointer := 0, stallTimer := now, otaState := .START })) := by
  have hcap := ota.flash.capacity_same
  have herase := ota.flash.capacity.2.chipErase_spec
  unfold start
  split
  · exact Or.inl ⟨_, .refl _, rfl⟩
  split
  · exact Or.inl ⟨_, .refl _, rfl⟩
  rename_i hpos hsize
  simp only
  split
  · exact Or.inl ⟨_, hcap, rfl⟩
  rename_i hfit
  split <;> rename_i g hg <;> rw [hg] at herase
  · exact Or.inl ⟨_, ⟨herase.2.2.trans hcap.mem, herase.1.trans hcap.densityCode, herase.2.1.trans hcap.issued⟩,
      rfl⟩
  · exact Or.inr ⟨_, herase.2.2, herase.1.trans hcap.densityCode, herase.2.1.trans hcap.issued, hpos,
      Nat.not_lt.mp hsize, Nat.not_lt.mp hfit, rfl⟩

/-- A piece is taken when the cursor is inside the image and the sequence is its low byte. -/
def continues (ota : OTA) (sequence : UInt8) : Prop :=
  ota.flashPointer < ota.fwSize ∧ UInt8.ofNat ota.flashPointer = sequence

instance (ota : OTA) (sequence : UInt8) : Decidable (ota.continues sequence) :=
  inferInstanceAs (Decidable (_ ∧ _))

theorem storeNextData_refused {ota : OTA} {now : UInt32} {sequence : UInt8} {fwData : FwPiece}
    (h : ¬ ota.continues sequence) : ota.storeNextData now sequence fwData = (false, ota) := by
  unfold storeNextData
  by_cases h₁ : ota.fwSize ≤ ota.flashPointer
  · rw [if_pos h₁]
  · rw [if_neg h₁, if_pos fun e => h ⟨Nat.not_le.mp h₁, e⟩]

/-- What a taken piece does, from what the loop over the first bytes leaves of it. -/
theorem storeNextData_taken {ota : OTA} (now : UInt32) {sequence : UInt8} (fwData : FwPiece)
    {k : List UInt8 × Vector UInt8 2 × Nat} (h : ota.continues sequence)
    (hk : keepFirst (fwData.toList.take (min (ota.fwSize - ota.flashPointer) fwPieceSize)) ota.firstFwBytes
      ota.flashPointer = k) :
    ota.storeNextData now sequence fwData =
      if k.1 = [] then (true, { ota with firstFwBytes := k.2.1, flashPointer := k.2.2, stallTimer := now })
      else if (ota.flash.writeBytes (ota.flashBlockBeginAddress + k.2.2) k.1).1 then
        (true, { ota with
          firstFwBytes := k.2.1
          flash := (ota.flash.writeBytes (ota.flashBlockBeginAddress + k.2.2) k.1).2
          flashPointer := k.2.2 + k.1.length
          stallTimer := now })
      else
        (false, { ota with
          firstFwBytes := k.2.1
          flash := (ota.flash.writeBytes (ota.flashBlockBeginAddress + k.2.2) k.1).2
          flashPointer := k.2.2
          otaState := .INVALID }) := by
  subst hk
  unfold storeNextData
  rw [if_neg (Nat.not_le.mpr h.1), if_neg (not_not_intro h.2)]
  simp only
  split
  · rfl
  · split <;> rename_i g hg <;> rw [hg] <;> rfl

/-- What is left of a piece for the flash lies inside the image, past its first bytes. -/
theorem keepFirst_inside {ota : OTA} {fwData : FwPiece} {k : List UInt8 × Vector UInt8 2 × Nat}
    (hlt : ota.flashPointer < ota.fwSize)
    (hk : keepFirst (fwData.toList.take (min (ota.fwSize - ota.flashPointer) fwPieceSize)) ota.firstFwBytes
      ota.flashPointer = k) : k.2.2 + k.1.length ≤ ota.fwSize ∧ (k.1 ≠ [] → 2 ≤ k.2.2) := by
  subst hk
  rw [keepFirst_rest, keepFirst_pointer, List.length_drop, List.length_take]
  refine ⟨by omega, fun hr => ?_⟩
  rw [ne_eq, List.drop_eq_nil_iff, List.length_take] at hr
  omega

/-- A piece is refused, or it stays in memory, or what it holds past the first bytes is
written inside the image. -/
theorem storeNextData_cases (ota : OTA) (now : UInt32) (sequence : UInt8) (fwData : FwPiece) :
    ota.storeNextData now sequence fwData = (false, ota) ∨
    ∃ first pointer rest, ota.continues sequence ∧ pointer + rest.length ≤ ota.fwSize ∧
      ((rest = [] ∧ ota.storeNextData now sequence fwData =
          (true, { ota with firstFwBytes := first, flashPointer := pointer, stallTimer := now })) ∨
       (rest ≠ [] ∧ 2 ≤ pointer ∧ ∃ ok flash,
          ota.flash.writeBytes (ota.flashBlockBeginAddress + pointer) rest = (ok, flash) ∧
          ota.storeNextData now sequence fwData =
            if ok then (true, { ota with
              firstFwBytes := first, flash := flash, flashPointer := pointer + rest.length, stallTimer := now })
            else (false, { ota with
              firstFwBytes := first, flash := flash, flashPointer := pointer, otaState := .INVALID }))) := by
  by_cases hc : ota.continues sequence
  swap
  · exact Or.inl (storeNextData_refused hc)
  right
  have hcall := storeNextData_taken now fwData hc rfl
  generalize hk : keepFirst _ _ _ = k at hcall
  obtain ⟨hfit, hpast⟩ := keepFirst_inside hc.1 hk
  refine ⟨k.2.1, k.2.2, k.1, hc, hfit, ?_⟩
  by_cases hr : k.1 = []
  · exact Or.inl ⟨hr, hcall.trans (if_pos hr)⟩
  · exact Or.inr ⟨hr, hpast hr, _, _, rfl, hcall.trans (if_neg hr)⟩

/-- A piece that continues the image moves the cursor by its share of the image, or the chip
refuses it and the transfer is over. -/
theorem storeNextData_advance {ota : OTA} {sequence : UInt8} (h : ota.continues sequence) (now : UInt32)
    (fwData : FwPiece) :
    (∃ next, ota.storeNextData now sequence fwData = (true, next) ∧ next.otaState = ota.otaState ∧
      next.fwSize = ota.fwSize ∧ next.stallTimer = now ∧
      next.flashPointer = ota.flashPointer + min (ota.fwSize - ota.flashPointer) fwPieceSize) ∨
    (∃ next, ota.storeNextData now sequence fwData = (false, next) ∧ next.otaState = .INVALID) := by
  let data := fwData.toList.take (min (ota.fwSize - ota.flashPointer) fwPieceSize)
  have hlen : data.length = min (ota.fwSize - ota.flashPointer) fwPieceSize := by
    simp only [data, List.length_take, Vector.length_toList, fwPieceSize]; omega
  have hrest := keepFirst_rest data ota.firstFwBytes ota.flashPointer
  have hpointer := keepFirst_pointer data ota.firstFwBytes ota.flashPointer
  have hcall := storeNextData_taken now fwData h rfl
  rw [show keepFirst _ _ _ = keepFirst data ota.firstFwBytes ota.flashPointer from rfl] at hcall
  generalize keepFirst data ota.firstFwBytes ota.flashPointer = k at hrest hpointer hcall
  have hdrop : k.1.length = data.length - (2 - ota.flashPointer) := by rw [hrest, List.length_drop]
  by_cases hr : k.1 = []
  · refine Or.inl ⟨_, hcall.trans (if_pos hr), rfl, rfl, rfl, ?_⟩
    rw [hr, List.length_nil] at hdrop
    simp only [hpointer]; omega
  rw [if_neg hr] at hcall
  have hpos : 0 < k.1.length := List.length_pos_iff.mpr hr
  cases hw : (ota.flash.writeBytes (ota.flashBlockBeginAddress + k.2.2) k.1).1 with
  | true =>
    refine Or.inl ⟨_, hcall.trans (if_pos hw), rfl, rfl, rfl, ?_⟩
    simp only [hpointer]; omega
  | false => exact Or.inr ⟨_, hcall.trans (if_neg (by simp [hw])), rfl⟩

end OTA

end CanSystems
