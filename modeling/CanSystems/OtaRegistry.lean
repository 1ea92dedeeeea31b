import Mathlib.Logic.Function.Basic
import Mathlib.Data.Fintype.Basic
import CanSystems.CanOta

/-!
# One upload, many targets

An uploaded file is queued for every target that expects it, and the targets
take their turns one at a time from their own `run`. The size and the checksum
of the image are computed by the first of them and kept here for the rest. A
target without a file name is not registered, so it is never queued and never
counted.
-/

namespace CanSystems

/-- A gateway as the registry sees it, with its own copy of the image facts. -/
structure OtaTarget where
  otaQueued : Bool
  canOta : CanOta
  image : OtaImageInfo
  deriving DecidableEq, Repr

structure OtaRegistry (n : Nat) where
  targets : Fin n → OtaTarget
  batchImage : OtaImageInfo

def OtaTarget.init : OtaTarget := ⟨false, CanOta.init, .empty⟩

namespace OtaRegistry

variable {n : Nat} (fwFileName : Fin n → Option String)

def init : OtaRegistry n := ⟨fun _ => .init, .empty⟩

/-- The registry with target `i` changed. -/
def put (r : OtaRegistry n) (i : Fin n) (target : OtaTarget) : OtaRegistry n :=
  ⟨Function.update r.targets i target, r.batchImage⟩

@[simp] theorem put_targets (r : OtaRegistry n) (i : Fin n) (target : OtaTarget) :
    (r.put i target).targets = Function.update r.targets i target := rfl

theorem put_put (r : OtaRegistry n) (i : Fin n) (target target' : OtaTarget) :
    (r.put i target).put i target' = r.put i target' := by simp [put]

def queueForFile (r : OtaRegistry n) : Option String → OtaRegistry n
  | none => r
  | some fileName =>
    { targets := fun i => { r.targets i with otaQueued := fwFileName i == some fileName }, batchImage := .empty }

def anyInProgress (r : OtaRegistry n) : Bool :=
  decide (∃ i, (fwFileName i).isSome ∧ (r.targets i).canOta.isOtaInProgress)

def claimStart (r : OtaRegistry n) (i : Fin n) (online : Bool) : Option OtaImageInfo × OtaRegistry n :=
  if (r.targets i).otaQueued = false then (none, r) else
  if r.anyInProgress fwFileName then (none, r) else
  let r := r.put i { r.targets i with otaQueued := false }
  if online then (some r.batchImage, r) else (none, r)

def isFileInUse (r : OtaRegistry n) : Option String → Bool
  | none => false
  | some fileName =>
    decide (∃ i, fwFileName i = some fileName ∧
      ((r.targets i).otaQueued ∨ (r.targets i).canOta.isOtaInProgress))

def reportImage (r : OtaRegistry n) (image : OtaImageInfo) : OtaRegistry n := { r with batchImage := image }

def deliver (r : OtaRegistry n) (i : Fin n) (frame : CanFrame) : OtaRegistry n :=
  r.put i { r.targets i with canOta := (r.targets i).canOta.handleOtaCanFrames frame }

/-! ## The update in `CanMqttGateway::run` -/

/-- The start of the pass: a target that is not sending asks for its turn. -/
def takeTurn (r : OtaRegistry n) (fs : LittleFS) (i : Fin n) (online : Bool) (now : UInt32) : OtaRegistry n :=
  if (r.targets i).canOta.isOtaInProgress then r else
  match r.claimStart fwFileName i online with
  | (none, r) => r
  | (some image, r) =>
    r.put i { r.targets i with
      canOta := ((r.targets i).canOta.startOta now fs (fwFileName i) 0 (some image)).2
      image := image }

/-- What the pass of a target leaves, and whether the report is still to come. -/
structure TargetRun (n : Nat) where
  registry : OtaRegistry n
  pass : Pass
  owesReport : Bool

def runTarget (r : OtaRegistry n) (fs : LittleFS) (i : Fin n) (online : Bool) (now : UInt32) (io : PassIo) :
    TargetRun n :=
  let r := r.takeTurn fwFileName fs i online now
  let checksumWasKnown := (r.targets i).image.valid
  let pass := (r.targets i).canOta.runOta io (r.targets i).image
  { registry := r.put i { r.targets i with canOta := pass.ota, image := pass.image }
    pass := pass
    owesReport := !checksumWasKnown && pass.image.valid }

/-! ## What the calls can do -/

theorem claimStart_cases (r : OtaRegistry n) (i : Fin n) (online : Bool) :
    r.claimStart fwFileName i online = (none, r) ∨
    ((r.targets i).otaQueued = true ∧ r.anyInProgress fwFileName = false ∧
      ∃ image, (image = none ∨ image = some r.batchImage) ∧
        r.claimStart fwFileName i online =
          (image, r.put i { r.targets i with otaQueued := false })) := by
  unfold claimStart
  split
  · exact Or.inl rfl
  split
  · exact Or.inl rfl
  rename_i hqueued hfree
  refine Or.inr ⟨by simpa using hqueued, by simpa using hfree, ?_⟩
  cases online
  · exact ⟨none, Or.inl rfl, rfl⟩
  · exact ⟨_, Or.inr rfl, rfl⟩

/-- A turn changes nothing, is lost, or starts the transfer with the facts known so far. -/
theorem takeTurn_cases (r : OtaRegistry n) (fs : LittleFS) (i : Fin n) (online : Bool) (now : UInt32) :
    r.takeTurn fwFileName fs i online now = r ∨
    ((r.targets i).otaQueued = true ∧ (r.targets i).canOta.isOtaInProgress = false ∧
      r.anyInProgress fwFileName = false ∧ ∃ target, r.takeTurn fwFileName fs i online now =
        r.put i target ∧ target.otaQueued = false ∧
        (target = { r.targets i with otaQueued := false } ∨
          (target.image = r.batchImage ∧
            target.canOta = ((r.targets i).canOta.startOta now fs (fwFileName i) 0 (some r.batchImage)).2))) := by
  unfold takeTurn
  split
  · exact Or.inl rfl
  rename_i hidle
  rcases claimStart_cases fwFileName r i online with h | ⟨hqueued, hfree, image, himage, h⟩
  · rw [h]; exact Or.inl rfl
  right
  refine ⟨hqueued, by simpa using hidle, hfree, ?_⟩
  rcases himage with rfl | rfl
  · rw [h]; exact ⟨_, rfl, rfl, Or.inl rfl⟩
  · rw [h]
    refine ⟨_, r.put_put i _ _, ?_, Or.inr ⟨rfl, ?_⟩⟩ <;> simp

theorem isFileInUse_eq_false {r : OtaRegistry n} {fileName : String} :
    r.isFileInUse fwFileName (some fileName) = false ↔ ∀ i, fwFileName i = some fileName →
      (r.targets i).otaQueued = false ∧ (r.targets i).canOta.isOtaInProgress = false := by
  simp [isFileInUse]

theorem anyInProgress_eq_false {r : OtaRegistry n} :
    r.anyInProgress fwFileName = false ↔
      ∀ i, (fwFileName i).isSome → (r.targets i).canOta.isOtaInProgress = false := by
  simp [anyInProgress]

end OtaRegistry

end CanSystems
