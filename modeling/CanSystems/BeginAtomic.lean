import CanSystems.DataTransfer

/-!
# A `begin` that returns false

A refusal by the checks at the front leaves everything but the error alone. Where
the storage cannot be opened the facts of the new file are there already, and the
state is the old one: a transfer that was in STORING or CHECK goes on under the
size, the name and the MD5 of the refused file (`begin_overwrites`).
-/

namespace CanSystems

namespace DataTransfer

def SameTransfer (dt dt' : DataTransfer) : Prop :=
  dt' = { dt with dataTransferErrState := dt'.dataTransferErrState }

/-- There is a transfer that `storeBase64` or `runValidityCheck` goes on with. -/
def Live (dt : DataTransfer) : Prop := dt.transferState = .STORING ∨ dt.transferState = .CHECK

/-- The counters, the name or the MD5 are those of the call, which has passed the checks and so has written them. -/
def HasFactsOf (dt : DataTransfer) (fileInUse : String → Bool) (fileSize : UInt32) (fileMd5 : Option (List UInt8))
    (fileName : Option String) : Prop :=
  ∃ md5 name, checkBegin fileInUse fileSize fileMd5 fileName = .ok (md5, name) ∧
    (dt.fileSizeLocal = fileSize ∧ dt.nextFilePieceNumberLocal = 0 ∧ dt.remainingFileSizeLocal = fileSize ∨
      dt.fileNameLocal = name ∨ dt.fileMd5Local = md5.take (fileMd5Size - 1))

/-- The transfer is as it was or is over, and no transfer goes on under the facts of the call. -/
def AllOrNothing (dt dt' : DataTransfer) (fileInUse : String → Bool) (fileSize : UInt32)
    (fileMd5 : Option (List UInt8))
    (fileName : Option String) : Prop :=
  (SameTransfer dt dt' ∨ ¬ dt'.Live) ∧ ¬ (dt'.Live ∧ dt'.HasFactsOf fileInUse fileSize fileMd5 fileName)

def SpoilsNothing (dt : DataTransfer) (fileInUse : String → Bool) (fileSize : UInt32)
    (fileMd5 : Option (List UInt8))
    (fileName : Option String) : Prop :=
  (∃ e, checkBegin fileInUse fileSize fileMd5 fileName = .error e) ∨ ¬ dt.Live

theorem openStorage_unopened {dt dt' : DataTransfer} {io : BeginIo} (hclosed : dt.receivedFile = none)
    (h : dt.openStorage io = (false, dt')) :
    ∃ err, dt' = { dt with
      isFwTransfer := false
      tempFile := if dt.isFwTransfer = true ∨ io.openOk = false then dt.tempFile else some []
      dataTransferErrState := err } := by
  unfold openStorage at h
  by_cases hfw : dt.isFwTransfer = true
  · rw [if_pos hfw] at h
    split at h
    · cases h
      exact ⟨(dt.setError .FW_UPGRADE_BEGIN_FAILED).dataTransferErrState, by simp [hfw, setError]⟩
    rename_i hbegin
    split at h
    · cases h
      -- The updater was free, or it would not have begun.
      have hfree : dt.update = none := by
        simpa using (by simpa using hbegin : io.updateBeginOk = true ∧ dt.update = none).2
      exact ⟨(dt.setError .FW_UPGRADE_SET_MD5_FAILED).dataTransferErrState, by simp [hfw, setError, hfree]⟩
    · cases h
  · rw [if_neg hfw] at h
    replace hfw : dt.isFwTransfer = false := by simpa using hfw
    split at h
    · rename_i hopen
      cases h
      refine ⟨(dt.setError .TEMP_FILE_OPENING_ERROR).dataTransferErrState, ?_⟩
      rw [if_pos (Or.inr hopen)]
      simp [setError, ← hfw]
    rename_i hopen
    split at h
    · cases h
      refine ⟨(dt.setError .NOT_ENOUGH_STORAGE).dataTransferErrState, ?_⟩
      rw [if_neg (by simp [hfw, hopen])]
      simp [setError, ← hfw, hclosed]
    · cases h

theorem begin_unopened {dt dt' : DataTransfer} {io : BeginIo} {fileInUse : String → Bool} {fileSize : UInt32}
    {fileMd5 : Option (List UInt8)} {fileName : Option String} {md5 : List UInt8} {name : String}
    (hcheck : checkBegin fileInUse fileSize fileMd5 fileName = .ok (md5, name))
    (h : dt.begin io fileInUse fileSize fileMd5 fileName = (false, dt')) :
    ∃ err, dt' = { dt with
      fileSizeLocal := fileSize
      fileMd5Local := md5.take (fileMd5Size - 1)
      nextFilePieceNumberLocal := 0
      remainingFileSizeLocal := fileSize
      fileNameLocal := name
      receivedFile := none
      isFwTransfer := false
      update := if dt.isFwTransfer then none else dt.update
      tempFile := if FileName.isOwnFirmwareFileName name = true ∨ io.openOk = false then dt.tempFile else some []
      dataTransferErrState := err } := by
  have hname := copyName_of_valid (checkBegin_ok hcheck).2.2.2.1
  unfold begin at h
  rw [hcheck] at h
  obtain ⟨err, rfl⟩ := openStorage_unopened rfl h
  refine ⟨err, ?_⟩
  unfold adopt
  rw [hname]

/-- A `begin` that returns false leaves the transfer as it was, or has ended it, exactly where it spoils nothing. -/
theorem begin_all_or_nothing_iff {dt dt' : DataTransfer} {io : BeginIo} {fileInUse : String → Bool}
    {fileSize : UInt32}
    {fileMd5 : Option (List UInt8)} {fileName : Option String}
    (h : dt.begin io fileInUse fileSize fileMd5 fileName = (false, dt')) :
    AllOrNothing dt dt' fileInUse fileSize fileMd5 fileName ↔
      dt.SpoilsNothing fileInUse fileSize fileMd5 fileName := by
  unfold AllOrNothing SpoilsNothing HasFactsOf
  cases hcheck : checkBegin fileInUse fileSize fileMd5 fileName with
  | error e =>
    have hresult : dt' = dt.setError e := by
      unfold begin at h
      rw [hcheck] at h
      cases h
      rfl
    refine ⟨fun _ => Or.inl ⟨e, rfl⟩, fun _ => ⟨Or.inl ?_, ?_⟩⟩
    · rw [hresult]
      rfl
    · rintro ⟨-, md5, name, hok, -⟩
      cases hok
  | ok arguments =>
    obtain ⟨md5, name⟩ := arguments
    obtain ⟨err, rfl⟩ := begin_unopened hcheck h
    constructor
    · rintro ⟨-, hover⟩
      right
      intro hlive
      exact hover ⟨hlive, md5, name, rfl, Or.inr (Or.inl rfl)⟩
    · rintro (⟨e, herror⟩ | hover)
      · cases herror
      · exact ⟨Or.inr hover, fun hspoilt => hover hspoilt.1⟩

/-- One file is being stored, and the temp file cannot be opened for another. -/
def overwritten : DataTransfer :=
  ((DataTransfer.init none).begin .smooth (fun _ => false) 3 (some md5OfA) (some FileName.canAlertFwLocation)).2

def unopened : Bool × DataTransfer :=
  overwritten.begin { BeginIo.smooth with openOk := false } (fun _ => false) 5 (some md5OfNothing)
    (some FileName.tubeConfigLocation)

theorem begin_overwrites :
    unopened.1 = false ∧ ¬ AllOrNothing overwritten unopened.2 (fun _ => false) 5 (some md5OfNothing)
        (some FileName.tubeConfigLocation) ∧ unopened.2.transferState = .STORING ∧
      unopened.2.fileNameLocal = FileName.tubeConfigLocation ∧ unopened.2.fileSizeLocal = 5 := by
  refine ⟨by decide +kernel, ?_, by decide +kernel, by decide +kernel, by decide +kernel⟩
  rintro ⟨hsame | hover, -⟩
  · have hsize := congrArg DataTransfer.fileSizeLocal hsame
    revert hsize
    decide +kernel
  · exact hover (Or.inl (by decide +kernel))

/-- The checks refuse an empty file, and the transfer that is going on is as it was. -/
theorem begin_all_or_nothing_empty :
    AllOrNothing overwritten
      (overwritten.begin .smooth (fun _ => false) 0 (some md5OfA) (some FileName.canAlertFwLocation)).2
      (fun _ => false) 0 (some md5OfA) (some FileName.canAlertFwLocation) := by
  have hrefused : overwritten.begin .smooth (fun _ => false) 0 (some md5OfA) (some FileName.canAlertFwLocation) =
      (false, (overwritten.begin .smooth (fun _ => false) 0 (some md5OfA)
        (some FileName.canAlertFwLocation)).2) := by
    decide +kernel
  exact (begin_all_or_nothing_iff hrefused).mpr (Or.inl ⟨_, rfl⟩)

end DataTransfer

end CanSystems
