import CanSystems.Lib.Machine
import CanSystems.MqttCommon
import CanSystems.OtaRegistry

/-!
# A file with a reader

The upload and the targets on one board. Messages, passes of the upload, passes
of the targets and answers from the bus come in any order; the files a target
finds when it opens one are an argument of its pass. A transfer that can still
end in a rename has a name no target waits for or reads, in every run in which
no upload of a target's file begins while the success of the one before it is
waiting to be announced.
-/

namespace CanSystems

open Machine

structure Board (n : Nat) where
  common : MqttCommon
  registry : OtaRegistry n

inductive BoardEvent (n : Nat)
  | message (io : CommonIo) (payload : Payload)
  | commonRun (io : CheckIo)
  | targetRun (i : Fin n) (files : LittleFS) (online : Bool) (startTime : UInt32) (io : PassIo)
  | answer (i : Fin n) (frame : CanFrame)

/-- The transfer can end in a rename: it is writing the temp file, or checking it. -/
def DataTransfer.CanRename (dt : DataTransfer) : Prop :=
  dt.transferState = .CHECK ∨ dt.transferState = .STORING ∧ dt.receivedFile = some .w

namespace Board

variable {n : Nat} (fwFileName : Fin n → Option String) (pioEnv : String) (md5 : Md5)

def init (tempFile : Option (List UInt8)) : Board n := ⟨.init tempFile, .init⟩

/-- What the upload leaves, with the file it queued. A restart is one of all objects. -/
def afterCommon (s : Board n) (r : CommonResult) : Board n :=
  ⟨r.common, if r.restarted then .init else s.registry.queueForFile fwFileName r.queued⟩

def step (s : Board n) : BoardEvent n → Board n
  | .message io payload =>
    s.afterCommon fwFileName (s.common.messageArrivedCallback pioEnv io
      (fun name => s.registry.isFileInUse fwFileName (some name)) payload)
  | .commonRun io => s.afterCommon fwFileName (s.common.run md5 io)
  | .targetRun i files online startTime io =>
    let r := s.registry.runTarget fwFileName files i online startTime io
    { s with registry := if r.owesReport then r.registry.reportImage r.pass.image else r.registry }
  | .answer i frame => { s with registry := s.registry.deliver i frame }

/-- No target that expects this file waits for it or has it in transfer. -/
def NoReader (r : OtaRegistry n) (fileName : String) : Prop :=
  ∀ i, fwFileName i = some fileName →
    (r.targets i).otaQueued = false ∧ (r.targets i).canOta.isOtaInProgress = false

/-- The claimed property of one step. A pass queues a file before it renames one, so the registry is the one
the step leaves. -/
def ReplacesNoReader (s : Board n) (e : BoardEvent n) : Prop :=
  ∀ io name bytes, e = .commonRun io → (s.common.run md5 io).renamed = some (name, bytes) →
    NoReader fwFileName (s.step fwFileName pioEnv md5 e).registry name

/-- No upload of a target's file opens the temp file while a success is waiting to be announced, and none fails to
open its storage while a check is live, too. -/
def Announced (s : Board n) : BoardEvent n → Prop
  | .message io payload => s.common.isFileCheckDone = true → s.common.isFileValid = true → payload.cmd = none →
      ∀ name fileSize fileMd5, payload.name = some name → payload.fileSize = some fileSize →
        payload.md5 = some fileMd5 →
        MqttCommon.acceptsBuild pioEnv name payload.binId = true → (∃ i, fwFileName i = some name) →
        DataTransfer.checkBegin (fun name => s.registry.isFileInUse fwFileName (some name)) fileSize (some fileMd5)
          (some name) = .ok (fileMd5, name) →
        if s.common.dataTransfer.storageReady io.begin fileSize name then FileName.isOwnFirmwareFileName name = true
        else s.common.dataTransfer.transferState ≠ .CHECK
  | _ => True

end Board

/-! ## What the targets do to a file without readers -/

theorem CanOta.runOta_idle {ota : CanOta} (h : ota.isOtaInProgress = false) (io : PassIo) (image : OtaImageInfo) :
    (ota.runOta io image).ota.isOtaInProgress = false := by
  replace h : ota.transferState = .IDLE := by simpa [isOtaInProgress] using h
  rcases ota.runOta_cases io image with ⟨ht, -⟩ | ⟨-, h'⟩ | ⟨hs, -⟩ | ⟨hs, -⟩ | ⟨hs, -⟩ | ⟨hs, -⟩
  · simp [timesOut, otaInProgress, h] at ht
  · rw [h']
    simp [isOtaInProgress, h]
  · rw [h] at hs; cases hs
  · rw [h] at hs; cases hs
  · rw [h] at hs; cases hs
  · rcases hs with hs | hs <;> rw [h] at hs <;> cases hs

namespace Board

variable {n : Nat} {fwFileName : Fin n → Option String}

theorem noReader_of_not_inUse {r : OtaRegistry n} {fileName : String}
    (h : r.isFileInUse fwFileName (some fileName) = false) : NoReader fwFileName r fileName :=
  (OtaRegistry.isFileInUse_eq_false fwFileName).mp h

theorem NoReader.put {r : OtaRegistry n} {fileName : String} (h : NoReader fwFileName r fileName) {i : Fin n}
    {target : OtaTarget} (hqueued : target.otaQueued = true → (r.targets i).otaQueued = true)
    (hprogress : (r.targets i).otaQueued = false → (r.targets i).canOta.isOtaInProgress = false →
      target.canOta.isOtaInProgress = false) :
    NoReader fwFileName (r.put i target) fileName := by
  intro j hj
  obtain ⟨hq, hp⟩ := h j hj
  by_cases hji : j = i
  · subst hji
    simp only [OtaRegistry.put_targets, Function.update_self]
    refine ⟨?_, hprogress hq hp⟩
    cases ht : target.otaQueued with
    | false => rfl
    | true => rw [hqueued ht] at hq; cases hq
  · simp only [OtaRegistry.put_targets, Function.update_of_ne hji]
    exact ⟨hq, hp⟩

theorem NoReader.takeTurn {r : OtaRegistry n} {fileName : String} (h : NoReader fwFileName r fileName)
    (files : LittleFS)
    (i : Fin n) (online : Bool) (now : UInt32) :
    NoReader fwFileName (r.takeTurn fwFileName files i online now) fileName := by
  rcases OtaRegistry.takeTurn_cases fwFileName r files i online now with he | ⟨hqueued, -, -, target, he, hout,
    -⟩ <;>
    rw [he]
  · exact h
  · refine h.put (fun ht => ?_) (fun hq => ?_)
    · rw [hout] at ht; cases ht
    · rw [hqueued] at hq; cases hq

theorem NoReader.runTarget {r : OtaRegistry n} {fileName : String} (h : NoReader fwFileName r fileName)
    (files : LittleFS)
    (i : Fin n) (online : Bool) (now : UInt32) (io : PassIo) :
    NoReader fwFileName (r.runTarget fwFileName files i online now io).registry fileName :=
  (h.takeTurn files i online now).put (fun hq => hq) (fun _ hp => CanOta.runOta_idle hp io _)

theorem NoReader.deliver {r : OtaRegistry n} {fileName : String} (h : NoReader fwFileName r fileName) (i : Fin n)
    (frame : CanFrame) : NoReader fwFileName (r.deliver i frame) fileName := by
  refine h.put (fun hq => hq) (fun _ hp => ?_)
  have hidle : (r.targets i).canOta.transferState = .IDLE := by simpa [CanOta.isOtaInProgress] using hp
  simpa only [CanOta.handleOtaCanFrames_of_ne (by rw [hidle]; decide)] using hp

end Board

/-! ## What the calls do to a transfer that can end in a rename -/

namespace DataTransfer

theorem CanRename.of_state {dt : DataTransfer} (h : dt.CanRename) :
    dt.transferState = .CHECK ∨ dt.transferState = .STORING :=
  h.imp_right fun h => h.1

theorem not_canRename {dt : DataTransfer} (h : dt.transferState = .IDLE ∨ dt.transferState = .CLEANUP) :
    ¬ dt.CanRename := by
  intro hc
  rcases hc.of_state with hs | hs <;> rw [hs] at h <;> simp at h

theorem storeBase64_canRename (dt : DataTransfer) (io : StoreIo) (filePieceNumber : UInt32)
    (fileData : Option (List UInt8)) :
    let r := dt.storeBase64 io filePieceNumber fileData
    (r.dt.CanRename → dt.CanRename ∧ r.dt.fileNameLocal = dt.fileNameLocal) ∧
    (r.checked ≠ none → ¬ r.dt.CanRename) := by
  intro r
  rcases dt.storeBase64_cases io filePieceNumber fileData with ⟨-, hr⟩ | ⟨-, -, hr⟩ |
    ⟨hstate, -, ⟨e, -, hr⟩ | ⟨-, -, -, hclean, -⟩ | ⟨bytes, -, -, hopen, hr⟩⟩
  · rw [show r = _ from hr]
    exact ⟨fun h => ⟨h, rfl⟩, by simp⟩
  · rw [show r = _ from hr]
    exact ⟨fun h => ⟨h, rfl⟩, by simp⟩
  · rw [show r = _ from hr]
    exact ⟨fun h => ⟨h, rfl⟩, by simp⟩
  · have hnot := not_canRename (Or.inr hclean)
    exact ⟨fun h => absurd h hnot, fun _ => hnot⟩
  cases hr with
  | more left hr =>
    rw [show r = _ from hr]
    exact ⟨fun h => ⟨h, rfl⟩, by simp⟩
  | firmware left fw hr =>
    rw [show r = _ from hr]
    have hnot : ¬ CanRename { dt.stored io bytes with update := none, transferState := .CLEANUP } :=
      not_canRename (Or.inr rfl)
    exact ⟨fun h => absurd h hnot, fun _ => hnot⟩
  | file left fw all temp size hr =>
    rw [show r = _ from hr]
    rcases hopen with hfw | ⟨-, hw⟩
    · rw [fw] at hfw; cases hfw
    · exact ⟨fun _ => ⟨Or.inr ⟨hstate, hw⟩, rfl⟩, by simp⟩

theorem runValidityCheck_canRename (md5 : Md5) (dt : DataTransfer) (io : CheckIo) :
    let r := dt.runValidityCheck md5 io
    (r.dt.CanRename → dt.CanRename ∧ r.dt.fileNameLocal = dt.fileNameLocal) ∧
    (r.checked ≠ none → ¬ r.dt.CanRename) ∧
      (∀ name bytes, r.renamed = some (name, bytes) → dt.CanRename ∧ name = dt.fileNameLocal) := by
  intro r
  rcases dt.runValidityCheck_cases md5 io with ⟨-, hr⟩ | ⟨-, ⟨-, hr⟩ | ⟨-, hr⟩ | ⟨hstate, -, hr⟩ | ⟨hstate, -, hr⟩⟩
  · rw [show r = _ from hr]
    have hnot : ¬ (cleanupTransfer { dt with transferState := .CLEANUP }).dt.CanRename := not_canRename (Or.inl rfl)
    exact ⟨fun h => absurd h hnot, fun _ => hnot, by simp [cleanupTransfer]⟩
  · rw [show r = _ from hr]
    exact ⟨fun h => ⟨h, rfl⟩, by simp, by simp⟩
  · rw [show r = _ from hr]
    exact ⟨fun h => ⟨h, rfl⟩, by simp, by simp⟩
  · rw [show r = _ from hr]
    refine ⟨fun _ => ⟨Or.inl hstate, ?_⟩, by simp, by simp⟩
    unfold readChunk
    split
    · split <;> rfl
    · rfl
  · rw [show r = _ from hr]
    rcases dt.finishCheck_cases md5 io with ⟨dt', hf, hclean, -⟩ | ⟨bytes, -, -, hf⟩ <;> rw [hf]
    · have hnot := not_canRename (Or.inr hclean)
      exact ⟨fun h => absurd h hnot, fun _ => hnot, by simp⟩
    · have hnot : ¬ CanRename { dt with transferState := .CLEANUP, receivedFile := none, tempFile := none } :=
        not_canRename (Or.inr rfl)
      exact ⟨fun h => absurd h hnot, fun _ => hnot, fun name _ h => ⟨Or.inl hstate, by simp at h; exact h.1.symm⟩⟩

/-- After a `begin` that passed its checks a rename can only come of the name it was given. -/
theorem begin_canRename (dt : DataTransfer) (io : BeginIo) (fileInUse : String → Bool) (fileSize : UInt32)
    (fileMd5 : List UInt8) (fileName : String) :
    let dt' := (dt.begin io fileInUse fileSize (some fileMd5) (some fileName)).2
    dt'.CanRename → (dt.CanRename ∧ dt'.fileNameLocal = dt.fileNameLocal) ∨
      (dt'.fileNameLocal = fileName ∧ checkBegin fileInUse fileSize (some fileMd5) (some fileName) = .ok
        (fileMd5, fileName) ∧
        if dt.storageReady io fileSize fileName then FileName.isOwnFirmwareFileName fileName = false
        else dt.transferState = .CHECK) := by
  intro dt' hcan
  rcases dt.begin_cases io fileInUse fileSize (some fileMd5) (some fileName) with ⟨e, -, hb⟩ |
    ⟨md5', name, hcheck, ⟨hready, dt'', hb, hstate, hclosed, -, hname, -⟩ | ⟨-, -, hb⟩ | ⟨hready, hown, hb⟩⟩
  · rw [show dt' = _ from congrArg Prod.snd hb] at hcan ⊢
    exact Or.inl ⟨hcan, rfl⟩
  · obtain ⟨-, h₁, h₂, -⟩ := checkBegin_ok hcheck
    cases h₁; cases h₂
    rw [show dt' = _ from congrArg Prod.snd hb] at hcan ⊢
    refine Or.inr ⟨hname, hcheck, ?_⟩
    rw [hready]
    rcases hcan with hs | ⟨-, hw⟩
    · exact hstate ▸ hs
    · simp only [hclosed] at hw
      cases hw
  · rw [show dt' = _ from congrArg Prod.snd hb] at hcan
    rcases hcan with hs | ⟨-, hw⟩
    · cases hs
    · cases hw
  · obtain ⟨-, h₁, h₂, hvalid, -⟩ := checkBegin_ok hcheck
    cases h₁; cases h₂
    rw [show dt' = _ from congrArg Prod.snd hb]
    exact Or.inr ⟨copyName_of_valid hvalid, hcheck, by rw [hready]; exact hown⟩

end DataTransfer

/-! ## The invariant -/

namespace Board

variable {n : Nat} {fwFileName : Fin n → Option String} {pioEnv : String} {md5 : Md5} {s : Board n}

structure Unread (fwFileName : Fin n → Option String) (s : Board n) : Prop where
  free : s.common.dataTransfer.CanRename → NoReader fwFileName s.registry s.common.dataTransfer.fileNameLocal
  pending : s.common.isFileCheckDone = true → s.common.isFileValid = true → s.common.dataTransfer.CanRename →
    ∀ i, fwFileName i ≠ some s.common.dataTransfer.fileNameLocal

theorem unread_init (tempFile : Option (List UInt8)) : Unread fwFileName (init tempFile) :=
  ⟨fun h => absurd h (DataTransfer.not_canRename (Or.inl rfl)),
    fun _ _ h => absurd h (DataTransfer.not_canRename (Or.inl rfl))⟩

namespace Unread

/-- The transfer goes on under its name, and no success is reported while it can end in a rename. -/
theorem transfer (h : Unread fwFileName s) {c : MqttCommon}
    (hcan : c.dataTransfer.CanRename → s.common.dataTransfer.CanRename ∧
      c.dataTransfer.fileNameLocal = s.common.dataTransfer.fileNameLocal)
    (hflags : c.dataTransfer.CanRename → c.isFileCheckDone = s.common.isFileCheckDone ∧
      c.isFileValid = s.common.isFileValid) : Unread fwFileName ⟨c, s.registry⟩ where
  free hc := by
    obtain ⟨hs, hname⟩ := hcan hc
    exact hname ▸ h.free hs
  pending hdone hvalid hc := by
    obtain ⟨hs, hname⟩ := hcan hc
    obtain ⟨hd, hv⟩ := hflags hc
    exact hname ▸ h.pending (hd ▸ hdone) (hv ▸ hvalid) hs

theorem registry (h : Unread fwFileName s) {r : OtaRegistry n}
    (hr : ∀ name, NoReader fwFileName s.registry name → NoReader fwFileName r name) :
    Unread fwFileName ⟨s.common, r⟩ :=
  ⟨fun hc => hr _ (h.free hc), h.pending⟩

theorem fileValidCb (h : Unread fwFileName s) (dt : DataTransfer) {checked : Option Bool}
    (hcan : dt.CanRename → s.common.dataTransfer.CanRename ∧ dt.fileNameLocal = s.common.dataTransfer.fileNameLocal)
    (hchecked : checked ≠ none → ¬ dt.CanRename) :
    Unread fwFileName ⟨{ s.common with dataTransfer := dt }.fileValidCb checked, s.registry⟩ := by
  cases checked with
  | none => exact h.transfer hcan (fun _ => ⟨rfl, rfl⟩)
  | some isValid => exact h.transfer hcan (fun hc => absurd hc (hchecked (by simp)))

theorem checkPass (h : Unread fwFileName s) (md5 : Md5) (io : CheckIo) (answers : List ResultMessage)
    (queued : Option String) :
    Unread fwFileName ⟨(s.common.checkPass md5 io answers queued).common, s.registry⟩ ∧
    ∀ name bytes, (s.common.checkPass md5 io answers queued).renamed = some (name, bytes) →
      NoReader fwFileName s.registry name := by
  obtain ⟨hcan, hchecked, hrenamed⟩ := s.common.dataTransfer.runValidityCheck_canRename md5 io
  refine ⟨h.fileValidCb _ hcan hchecked, fun name bytes hr => ?_⟩
  obtain ⟨hc, rfl⟩ := hrenamed name bytes hr
  exact h.free hc

theorem announce (h : Unread fwFileName s) (hdone : s.common.isFileCheckDone = true) (dt : DataTransfer)
    (hdt : dt = s.common.dataTransfer.getErrorCode.2) :
    (∀ queued, queued = none ∨ s.common.isFileValid = true ∧ queued = some dt.getFileName →
      Unread fwFileName ⟨{ s.common with isFileCheckDone := false, dataTransfer := dt },
        s.registry.queueForFile fwFileName queued⟩) := by
  subst hdt
  rintro queued (rfl | ⟨hvalid, rfl⟩)
  · exact ⟨h.free, fun hd => by cases hd⟩
  · exact ⟨fun hc i hi => absurd hi (h.pending hdone hvalid hc i), fun hd => by cases hd⟩

theorem commonRun (h : Unread fwFileName s) (md5 : Md5) (io : CheckIo) :
    Unread fwFileName (s.afterCommon fwFileName (s.common.run md5 io)) ∧
    ∀ name bytes, (s.common.run md5 io).renamed = some (name, bytes) →
      NoReader fwFileName (s.afterCommon fwFileName (s.common.run md5 io)).registry name := by
  unfold MqttCommon.run
  split
  · exact h.checkPass md5 io [] none
  rename_i hdone
  have hannounce := h.announce (by simpa using hdone) _ rfl
  simp only
  split
  · exact (hannounce none (Or.inl rfl)).checkPass md5 io _ none
  rename_i hvalid
  split
  · exact ⟨unread_init _, fun _ _ hr => by cases hr⟩
  · exact (hannounce (some _) (Or.inr ⟨by simpa using hvalid, rfl⟩)).checkPass md5 io _ _

theorem handlePiece (h : Unread fwFileName s) (io : StoreIo) (filePieceNumber : UInt32)
    (filePieceB64 : List UInt8) :
    Unread fwFileName (s.afterCommon fwFileName (s.common.handlePiece io filePieceNumber filePieceB64)) := by
  obtain ⟨hcan, hchecked⟩ := s.common.dataTransfer.storeBase64_canRename io filePieceNumber (some filePieceB64)
  exact h.fileValidCb (s.common.dataTransfer.storeBase64 io filePieceNumber (some filePieceB64)).dt.getErrorCode.2
    hcan hchecked

theorem handleStart (h : Unread fwFileName s) {io : CommonIo} {payload : Payload} {name : String}
    {fileSize : UInt32}
    {fileMd5 : List UInt8} (hcmd : payload.cmd = none) (hname : payload.name = some name)
    (hsize : payload.fileSize = some fileSize) (hmd5 : payload.md5 = some fileMd5)
    (hannounced : s.Announced fwFileName pioEnv (.message io payload)) :
    Unread fwFileName (s.afterCommon fwFileName (s.common.handleStart pioEnv io.begin
      (fun name => s.registry.isFileInUse fwFileName (some name)) name fileSize fileMd5 payload.binId)) := by
  unfold MqttCommon.handleStart
  split
  · exact h
  rename_i hbuild
  have hbegin := s.common.dataTransfer.begin_canRename io.begin
    (fun name => s.registry.isFileInUse fwFileName (some name)) fileSize fileMd5 name
  generalize s.common.dataTransfer.begin io.begin (fun name => s.registry.isFileInUse fwFileName (some name))
    fileSize
    (some fileMd5) (some name) = r at hbegin ⊢
  refine ⟨fun (hc : r.2.CanRename) => ?_, fun hdone hvalid (hc : r.2.CanRename) i hi => ?_⟩
  · rcases hbegin hc with ⟨hold, hsame⟩ | ⟨hnew, hcheck, -⟩
    · exact hsame ▸ h.free hold
    · exact hnew ▸ noReader_of_not_inUse (DataTransfer.checkBegin_ok hcheck).2.2.2.2
  · rcases hbegin hc with ⟨hold, hsame⟩ | ⟨hnew, hcheck, hready⟩
    · exact h.pending hdone hvalid hold i (hsame ▸ hi)
    · have := hannounced hdone hvalid hcmd name fileSize fileMd5 hname hsize hmd5 (by simpa using hbuild)
        ⟨i, hi.trans (congrArg some hnew)⟩ hcheck
      split at hready <;> rename_i hr
      · rw [if_pos hr, hready] at this
        cases this
      · rw [if_neg hr] at this
        exact this hready

theorem message (h : Unread fwFileName s) {io : CommonIo} {payload : Payload}
    (hannounced : s.Announced fwFileName pioEnv (.message io payload)) :
    Unread fwFileName (s.step fwFileName pioEnv md5 (.message io payload)) := by
  simp only [Board.step, MqttCommon.messageArrivedCallback]
  cases hcmd : payload.cmd with
  | some cmd =>
    simp only [MqttCommon.dispatchCommand]
    split
    · exact unread_init _
    · exact h
  | none =>
    simp only
    split
    · rename_i name fileSize fileMd5 hname hsize hmd5
      exact h.handleStart hcmd hname hsize hmd5 hannounced
    · split
      · exact h.handlePiece io.store _ _
      · exact h

theorem step (h : Unread fwFileName s) (e : BoardEvent n) (hannounced : s.Announced fwFileName pioEnv e) :
    Unread fwFileName (s.step fwFileName pioEnv md5 e) := by
  cases e with
  | message io payload => exact h.message hannounced
  | commonRun io => exact (h.commonRun md5 io).1
  | targetRun i files online startTime io =>
    refine h.registry fun name hfree => ?_
    have := hfree.runTarget files i online startTime io
    split
    · exact this
    · exact this
  | answer i frame => exact h.registry fun name hfree => hfree.deliver i frame

theorem replacesNoReader (h : Unread fwFileName s) (e : BoardEvent n) :
    s.ReplacesNoReader fwFileName pioEnv md5 e := by
  rintro io name bytes rfl hr
  exact (h.commonRun md5 io).2 name bytes hr

end Unread

end Board

open Board in
/-- No file with a reader is replaced, in every run in which each success is announced before the next upload of a
target's file begins. -/
theorem replaced_file_has_no_reader {n : Nat} (fwFileName : Fin n → Option String) (pioEnv : String) (md5 : Md5)
    (tempFile : Option (List UInt8)) (es : List (BoardEvent n)) (e : BoardEvent n)
    (h : Meets (step fwFileName pioEnv md5) (Announced fwFileName pioEnv) (init tempFile) es) :
    (run (step fwFileName pioEnv md5) (init tempFile) es).ReplacesNoReader fwFileName pioEnv md5 e :=
  Unread.replacesNoReader
    (run_inv (I := Unread fwFileName) (fun _ e hI hG => hI.step e hG) (unread_init tempFile) h) e

/-! ## Runs on one byte -/

def alertNames : Fin 1 → Option String := fun _ => some FileName.canAlertFwLocation

def uploadA : List (BoardEvent 1) :=
  [.message .smooth ⟨none, none, some FileName.canAlertFwLocation, some 1, some md5OfA, none, none⟩,
   .message .smooth ⟨none, none, none, none, none, some 0, some (ascii "QQ==")⟩,
   .commonRun .smooth]

/-- The target is queued, takes its turn, is refused by the node and gives up. -/
def refusedTurn : List (BoardEvent 1) :=
  [.commonRun .smooth, .commonRun .smooth, .targetRun 0 (fun _ => some oneByte) true 0 .smooth,
   .targetRun 0 (fun _ => some oneByte) true 0 .smooth, .answer 0 (.answer .OTA_START .NACK),
   .targetRun 0 (fun _ => some oneByte) true 0 .smooth]

open Board in
theorem replaced_file_has_no_reader_secondUpload :
    let s := run (step alertNames "esp32" sampleMd5) (init none) (uploadA ++ refusedTurn ++ uploadA)
    (s.common.run sampleMd5 .smooth).renamed = some (FileName.canAlertFwLocation, [0x41]) ∧
    s.ReplacesNoReader alertNames "esp32" sampleMd5 (.commonRun .smooth) :=
  ⟨by decide +kernel,
    replaced_file_has_no_reader alertNames "esp32" sampleMd5 none (uploadA ++ refusedTurn ++ uploadA)
      (.commonRun .smooth)
      ⟨fun hdone => absurd hdone (by decide +kernel), fun hdone => absurd hdone (by decide +kernel), trivial,
        trivial, trivial, trivial, trivial, trivial, trivial, fun hdone => absurd hdone (by decide +kernel),
        fun hdone => absurd hdone (by decide +kernel), trivial, trivial⟩⟩

/-- The second upload begins before the pass that announces the first and queues its file. -/
def unannouncedUpload : List (BoardEvent 1) :=
  uploadA ++ [.commonRun .smooth] ++ uploadA.take 1 ++ [.commonRun .smooth] ++ uploadA.drop 1

open Board in
theorem replaced_file_may_have_a_reader :
    ¬ ∀ (n : Nat) (fwFileName : Fin n → Option String) (pioEnv : String) (md5 : Md5)
      (tempFile : Option (List UInt8))
      (es : List (BoardEvent n)) (e : BoardEvent n),
      (run (step fwFileName pioEnv md5) (init tempFile) es).ReplacesNoReader fwFileName pioEnv md5 e := by
  intro h
  have hfree := h 1 alertNames "esp32" sampleMd5 none unannouncedUpload (.commonRun .smooth) .smooth
    FileName.canAlertFwLocation [0x41] rfl (by decide +kernel) 0 rfl
  exact absurd hfree.1 (by decide +kernel)

end CanSystems
