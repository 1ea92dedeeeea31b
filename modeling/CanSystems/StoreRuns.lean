import CanSystems.HeldImage
import CanSystems.Lib.Machine

/-!
# Runs of the firmware store

Any order of calls is a run. `Watch` runs the store and remembers what the store
itself does not: the arguments of the last `start` that was granted, and whether
the block must stay unbootable because its checksum has not been found right yet.
-/

namespace CanSystems

inductive OtaCall
  | start (now : UInt32) (flashBlockNumber : UInt16) (fwSize : UInt32) (fwCrc : UInt16)
  | storeNextData (now : UInt32) (sequence : UInt8) (fwData : FwPiece)
  | run (now : UInt32)

/-- The arguments of a `start`. -/
structure Transfer where
  flashBlockNumber : UInt16
  fwSize : UInt32
  fwCrc : UInt16
  deriving DecidableEq, Repr

def Transfer.blockBegin (t : Transfer) : Nat := t.flashBlockNumber.toNat * OTA.flashBlockTobytes

namespace OTA

/-- This pass calls `finishCheck`, and `finishCheck` finds the checksums equal. -/
def findsEqual (ota : OTA) : Prop :=
  ota.otaState = .CHECK ∧ ota.checkChunk.flashPointer = ota.checkChunk.fwSize ∧
    ota.checkChunk.fwCrc = ota.checkChunk.crc16.get

instance (ota : OTA) : Decidable ota.findsEqual := inferInstanceAs (Decidable (_ ∧ _))

end OTA

structure Watch where
  ota : OTA
  opened : Option Transfer
  guarded : Bool

namespace Watch

def init (flash : SPIFlash) : Watch := ⟨OTA.init flash, none, false⟩

def step (w : Watch) : OtaCall → Watch
  | .start now block size crc =>
    match w.ota.start now block size crc with
    | (false, ota) => { w with ota := ota }
    | (true, ota) => { ota := ota, opened := some ⟨block, size, crc⟩, guarded := true }
  | .storeNextData now sequence fwData => { w with ota := (w.ota.storeNextData now sequence fwData).2 }
  | .run now =>
    { w with ota := w.ota.run now, guarded := w.guarded && !decide w.ota.findsEqual }

end Watch

namespace OTA

/-! ## A pass, state by state -/

theorem stalled_of_check {ota : OTA} (h : ota.otaState = .CHECK) (now : UInt32) : ota.stalled now = false := by
  simp [stalled, waitingOnSomebody, h]

theorem run_check {ota : OTA} (h : ota.otaState = .CHECK) (now : UInt32) :
    ota.run now = if ota.checkChunk.flashPointer = ota.checkChunk.fwSize then ota.checkChunk.finishCheck
      else ota.checkChunk := by
  unfold run
  simp only [stalled_of_check h, h, Bool.false_eq_true, if_false]

/-- Outside CHECK a pass keeps the memory or erases it, and keeps the transfer or forgets it. -/
theorem run_outside_check {ota : OTA} (h : ota.otaState ≠ .CHECK) (now : UInt32) :
    (SPIFlash.SameChip ota.flash (ota.run now).flash ∧ (ota.run now).firstFwBytes = ota.firstFwBytes ∧
      (ota.run now).fwSize = ota.fwSize ∧ (ota.run now).fwCrc = ota.fwCrc ∧
      (ota.run now).flashBlockBeginAddress = ota.flashBlockBeginAddress ∧
      ((ota.run now).otaState = .INVALID ∨ (ota.run now).otaState = .IDLE ∨
       (ota.otaState = .START ∧ (ota.run now).otaState = .START) ∨
       (ota.otaState = .START ∧ (ota.run now).otaState = .STORE) ∨
       (ota.otaState = .STORE ∧ (ota.run now).otaState = .STORE) ∨
       (ota.otaState = .STORE ∧ (ota.run now).otaState = .CHECK ∧
         (ota.run now).flashPointer = 0 ∧ (ota.run now).crc16 = Crc16.init))) ∨
    ((ota.run now).flash = ota.flash.chipErase.2 ∧ (ota.run now).fwSize = 0 ∧
      (ota.run now).flashBlockBeginAddress = 0 ∧ (ota.run now).otaState = .IDLE) := by
  unfold run
  split
  · exact Or.inl ⟨.refl _, rfl, rfl, rfl, rfl, Or.inl rfl⟩
  cases hs : ota.otaState with
  | IDLE => exact Or.inl ⟨.refl _, rfl, rfl, rfl, rfl, Or.inr (Or.inl hs)⟩
  | START =>
    have hchip := ota.flash.busy_same
    simp only
    split
    · exact Or.inl ⟨hchip, rfl, rfl, rfl, rfl, by simp⟩
    · exact Or.inl ⟨hchip, rfl, rfl, rfl, rfl, by simp⟩
  | STORE =>
    simp only
    split
    · exact Or.inl ⟨.refl _, rfl, rfl, rfl, rfl, by simp [Crc16.reset]⟩
    · exact Or.inl ⟨.refl _, rfl, rfl, rfl, rfl, by simp [hs]⟩
  | CHECK => exact absurd hs h
  | VALID => exact Or.inl ⟨.refl _, rfl, rfl, rfl, rfl, by simp⟩
  | INVALID => exact Or.inr ⟨rfl, rfl, rfl, rfl⟩

/-- The three states of a transfer between its `start` and its verdict. -/
def underway (state : OtaState) : Prop := state = .START ∨ state = .STORE ∨ state = .CHECK

/-- A pass that leaves a transfer under way, or VALID, found one under way, and it keeps the
declared values. -/
theorem run_underway {ota : OTA} {now : UInt32}
    (h : underway (ota.run now).otaState ∨ (ota.run now).otaState = .VALID) :
    underway ota.otaState ∧ (ota.run now).fwSize = ota.fwSize ∧ (ota.run now).fwCrc = ota.fwCrc := by
  by_cases hs : ota.otaState = .CHECK
  · refine ⟨Or.inr (Or.inr hs), ?_⟩
    have hsame := ota.checkChunk_same
    rw [run_check hs]
    split
    · rcases ota.checkChunk.finishCheck_cases with ⟨-, he⟩ | ⟨-, flash, state, -, he, -⟩
      all_goals rw [he]; exact ⟨hsame.size, hsame.crc⟩
    · exact ⟨hsame.size, hsame.crc⟩
  · rcases run_outside_check hs now with
      ⟨-, -, hsize, hcrc, -, hst | hst | ⟨ho, -⟩ | ⟨ho, -⟩ | ⟨ho, -⟩ | ⟨ho, -⟩⟩ | ⟨-, -, -, hst⟩
    · simp [underway, hst] at h
    · simp [underway, hst] at h
    · exact ⟨Or.inl ho, hsize, hcrc⟩
    · exact ⟨Or.inl ho, hsize, hcrc⟩
    · exact ⟨Or.inr (Or.inl ho), hsize, hcrc⟩
    · exact ⟨Or.inr (Or.inl ho), hsize, hcrc⟩
    · simp [underway, hst] at h

end OTA

end CanSystems
