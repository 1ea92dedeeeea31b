import CanSystems.Lib.Machine
import CanSystems.MqttCommon

/-!
# What a finished file sets off

The success of an upload waits in two flags for the next pass, which restarts
the device for its own firmware and queues any other file for the targets. What
was uploaded does not wait with it: whether to restart, and the name, are those
of the last upload that was begun (`acts_on_another_file`). The observer notes
what the success was.
-/

namespace CanSystems

/-! ## The name stays with the transfer -/

namespace DataTransfer

theorem write_fileNameLocal (dt : DataTransfer) (io : StoreIo) (bytes : List UInt8) :
    (dt.write io bytes).2.fileNameLocal = dt.fileNameLocal := by
  obtain ⟨n, tempFile, update, hwrite, -⟩ := dt.write_spec io bytes
  rw [hwrite]

theorem finalizeTransfer_fileNameLocal (dt : DataTransfer) (io : StoreIo) :
    (dt.finalizeTransfer io).dt.fileNameLocal = dt.fileNameLocal := by
  unfold finalizeTransfer
  repeat' split
  all_goals first | rfl | skip
  all_goals
    simp only
    split
    all_goals rfl

theorem storePiece_fileNameLocal (dt : DataTransfer) (io : StoreIo) (bytes : List UInt8) :
    (dt.storePiece io bytes).dt.fileNameLocal = dt.fileNameLocal := by
  have hwrite := dt.write_fileNameLocal io bytes
  unfold storePiece
  split
  · rfl
  simp only
  split
  · exact hwrite
  split
  · rw [finalizeTransfer_fileNameLocal]
    exact hwrite
  · exact hwrite

theorem storeBase64_fileNameLocal (dt : DataTransfer) (io : StoreIo) (filePieceNumber : UInt32)
    (fileData : Option (List UInt8)) :
    (dt.storeBase64 io filePieceNumber fileData).dt.fileNameLocal = dt.fileNameLocal := by
  unfold storeBase64
  split
  · rfl
  split
  · rfl
  split
  · rfl
  split
  · rfl
  · exact dt.storePiece_fileNameLocal io _

theorem readChunk_fileNameLocal (dt : DataTransfer) (io : CheckIo) :
    (dt.readChunk io).fileNameLocal = dt.fileNameLocal := by
  unfold readChunk
  split
  · split
    all_goals rfl
  · rfl

theorem finishCheck_fileNameLocal (md5 : Md5) (dt : DataTransfer) (io : CheckIo) :
    (finishCheck md5 dt io).dt.fileNameLocal = dt.fileNameLocal := by
  unfold finishCheck
  simp only
  split
  · rfl
  split
  · rfl
  split
  all_goals rfl

theorem runValidityCheck_fileNameLocal (md5 : Md5) (dt : DataTransfer) (io : CheckIo) :
    (runValidityCheck md5 dt io).dt.fileNameLocal = dt.fileNameLocal := by
  rcases dt.runValidityCheck_cases md5 io with ⟨-, h⟩ | ⟨-, ⟨-, h⟩ | ⟨-, h⟩ | ⟨-, -, h⟩ | ⟨-, -, h⟩⟩
  · rw [h]
    rfl
  · rw [h]
  · rw [h]
  · rw [h]
    exact dt.readChunk_fileNameLocal io
  · rw [h]
    exact finishCheck_fileNameLocal md5 dt io

end DataTransfer

namespace MqttCommon

/-- The pass has no success to act on, restarts the device, or queues the file and goes on. -/
theorem run_cases (md5 : Md5) (c : MqttCommon) (io : CheckIo) :
    ((c.isFileCheckDone && c.isFileValid) = false ∧ ∃ answers err, c.run md5 io =
      checkPass md5 { c with
        isFileCheckDone := false
        dataTransfer := { c.dataTransfer with dataTransferErrState := err } } io answers none) ∨
    ((c.isFileCheckDone && c.isFileValid) = true ∧ c.isRestartRequired = true ∧ ∃ answers,
      c.run md5 io = c.reboot answers) ∨
    ((c.isFileCheckDone && c.isFileValid) = true ∧ c.isRestartRequired = false ∧ ∃ answers,
      c.run md5 io = checkPass md5 { c with
        isFileCheckDone := false
        dataTransfer := { c.dataTransfer with dataTransferErrState := 0 } } io answers
          (some c.dataTransfer.fileNameLocal)) := by
  obtain ⟨dt, done, valid, restart⟩ := c
  cases done with
  | false => exact Or.inl ⟨rfl, [], dt.dataTransferErrState, rfl⟩
  | true =>
    cases valid with
    | false => exact Or.inl ⟨rfl, _, 0, rfl⟩
    | true =>
      cases restart with
      | true => exact Or.inr (Or.inl ⟨rfl, rfl, _, rfl⟩)
      | false => exact Or.inr (Or.inr ⟨rfl, rfl, _, rfl⟩)

end MqttCommon

/-! ## What a success finds -/

def Payload.isStart (payload : Payload) : Bool :=
  payload.cmd.isNone && payload.name.isSome && payload.fileSize.isSome && payload.md5.isSome

/-- What a success was: an image the updater accepted, with the build its begin message named, or a file renamed
into place. -/
inductive Finished
  | firmware (binId : Option String)
  | renamed (name : String)
  deriving DecidableEq, Repr

namespace MqttCommon

variable (pioEnv : String)

def pending (c : MqttCommon) : Bool := c.isFileCheckDone && c.isFileValid

def Latched (c : MqttCommon) (finished : Option Finished) : Prop :=
  c.pending = true →
    (finished = some (.firmware (some pioEnv)) ∧ c.isRestartRequired = true) ∨
    (finished = some (.renamed c.dataTransfer.fileNameLocal) ∧ c.isRestartRequired = false)

/-- An image that is streamed asks for the restart and is of this build; a file that is written or checked asks for
none. -/
structure Carried (c : MqttCommon) (binId : Option String) : Prop where
  streaming : c.dataTransfer.transferState = .STORING → c.dataTransfer.isFwTransfer = true →
    c.isRestartRequired = true ∧ binId = some pioEnv ∧ c.dataTransfer.update.isSome = true
  writing : c.dataTransfer.transferState = .STORING → c.dataTransfer.isFwTransfer = false →
    c.dataTransfer.receivedFile = some .w → c.isRestartRequired = false
  checking : c.dataTransfer.transferState = .CHECK → c.isRestartRequired = false

variable {pioEnv}

theorem carried_of_rest {c : MqttCommon} (binId : Option String)
    (h : c.dataTransfer.transferState = .IDLE ∨ c.dataTransfer.transferState = .CLEANUP) :
    c.Carried pioEnv binId := by
  constructor
  all_goals
    intro hstate
    rcases h with h | h
    all_goals
      rw [h] at hstate
      cases hstate

theorem latched_of_done {c : MqttCommon} (finished : Option Finished) (h : c.isFileCheckDone = false) :
    c.Latched pioEnv finished := by
  intro hpending
  rw [pending, h] at hpending
  cases hpending

theorem Carried.fileValidCb {c : MqttCommon} {binId : Option String} (h : c.Carried pioEnv binId)
    (checked : Option Bool) : (c.fileValidCb checked).Carried pioEnv binId := by
  cases checked with
  | none => exact h
  | some isValid => exact ⟨h.streaming, h.writing, h.checking⟩

theorem Carried.consumed {c : MqttCommon} {binId : Option String} (h : c.Carried pioEnv binId) (err : UInt32) :
    ({ c with
      isFileCheckDone := false
      dataTransfer := { c.dataTransfer with dataTransferErrState := err } } : MqttCommon).Carried pioEnv binId :=
  ⟨h.streaming, h.writing, h.checking⟩

theorem Latched.transfer {c : MqttCommon} {finished : Option Finished} (h : c.Latched pioEnv finished)
    {dt : DataTransfer} (hname : dt.fileNameLocal = c.dataTransfer.fileNameLocal) :
    ({ c with dataTransfer := dt } : MqttCommon).Latched pioEnv finished := by
  intro hpending
  rcases h hpending with hfirmware | ⟨hrenamed, hno⟩
  · exact Or.inl hfirmware
  · right
    rw [← hname] at hrenamed
    exact ⟨hrenamed, hno⟩

theorem Latched.unsuccessful {c : MqttCommon} {finished : Option Finished} (h : c.Latched pioEnv finished)
    {dt : DataTransfer} {checked : Option Bool} (hname : dt.fileNameLocal = c.dataTransfer.fileNameLocal)
    (hchecked : checked ≠ some true) :
    ({ c with dataTransfer := dt }.fileValidCb checked).Latched pioEnv finished := by
  cases checked with
  | none => exact h.transfer hname
  | some isValid =>
    cases isValid with
    | true => exact absurd rfl hchecked
    | false =>
      intro hpending
      simp [pending, fileValidCb] at hpending

/-- What a finished file leaves noted: its own name, or the success before it. -/
def renamedOr (renamed : Option (String × List UInt8)) (finished : Option Finished) : Option Finished :=
  match renamed with
  | some (name, _) => some (.renamed name)
  | none => finished

theorem carried_checkPass {c : MqttCommon} {binId : Option String} (h : c.Carried pioEnv binId) (md5 : Md5)
    (io : CheckIo) (answers : List ResultMessage) (queued : Option String) :
    (checkPass md5 c io answers queued).common.Carried pioEnv binId := by
  apply Carried.fileValidCb
  rcases c.dataTransfer.runValidityCheck_cases md5 io with ⟨-, hr⟩ | ⟨-,
    ⟨hs, hr⟩ | ⟨hs, hr⟩ | ⟨hs, -, hr⟩ | ⟨hs, -, hr⟩⟩
  · rw [hr]
    exact carried_of_rest _ (Or.inl rfl)
  · rw [hr]
    exact carried_of_rest _ (Or.inl hs)
  · rw [hr]
    exact h
  · rw [hr]
    rcases c.dataTransfer.readChunk_cases io with ⟨handle, sum, hread⟩ | ⟨hclean, -⟩
    · rw [hread]
      refine ⟨?_, ?_, fun _ => h.checking hs⟩
      all_goals
        intro hstoring
        rw [hs] at hstoring
        cases hstoring
    · exact carried_of_rest _ (Or.inr hclean)
  · rw [hr]
    apply carried_of_rest
    right
    rcases c.dataTransfer.finishCheck_cases md5 io with ⟨dt, hf, hclean, -⟩ | ⟨bytes, -, -, hf⟩
    · rw [hf]
      exact hclean
    · rw [hf]

theorem latched_checkPass {c : MqttCommon} {binId : Option String} {finished : Option Finished}
    (h : c.Carried pioEnv binId) (hl : c.Latched pioEnv finished) (md5 : Md5) (io : CheckIo)
    (answers : List ResultMessage) (queued : Option String) :
    (checkPass md5 c io answers queued).common.Latched pioEnv
      (renamedOr (checkPass md5 c io answers queued).renamed finished) := by
  have hname := c.dataTransfer.runValidityCheck_fileNameLocal md5 io
  unfold checkPass
  rcases c.dataTransfer.runValidityCheck_cases md5 io with ⟨-, hr⟩ | ⟨-,
    ⟨hs, hr⟩ | ⟨hs, hr⟩ | ⟨hs, -, hr⟩ | ⟨hs, -, hr⟩⟩
  · rw [hr] at hname ⊢
    apply hl.unsuccessful hname
    simp [DataTransfer.cleanupTransfer]
  · rw [hr] at hname ⊢
    exact hl.transfer hname
  · rw [hr] at hname ⊢
    exact hl.transfer hname
  · rw [hr] at hname ⊢
    exact hl.transfer hname
  · rcases c.dataTransfer.finishCheck_cases md5 io with ⟨dt, hf, -, -⟩ | ⟨bytes, -, -, hf⟩
    · rw [hr, hf] at hname ⊢
      exact hl.transfer hname
    · rw [hr, hf]
      exact fun _ => Or.inr ⟨rfl, h.checking hs⟩

/-! ## The messages -/

def imageOr (image : Option (List UInt8)) (binId : Option String) (finished : Option Finished) : Option Finished :=
  match image with
  | some _ => some (.firmware binId)
  | none => finished

theorem Carried.setError {c : MqttCommon} {binId : Option String} (h : c.Carried pioEnv binId)
    (e : DataTransferError) :
    ({ c with dataTransfer := c.dataTransfer.setError e } : MqttCommon).Carried pioEnv binId :=
  ⟨h.streaming, h.writing, h.checking⟩

theorem carried_handlePiece {c : MqttCommon} {binId : Option String} (h : c.Carried pioEnv binId) (io : StoreIo)
    (filePieceNumber : UInt32) (filePieceB64 : List UInt8) :
    (c.handlePiece io filePieceNumber filePieceB64).common.Carried pioEnv binId := by
  have hclear {dt : DataTransfer} (hdt : ({ c with dataTransfer := dt } : MqttCommon).Carried pioEnv binId) :
      ({ c with dataTransfer := dt.getErrorCode.2 } : MqttCommon).Carried pioEnv binId :=
    ⟨hdt.streaming, hdt.writing, hdt.checking⟩
  unfold handlePiece
  apply Carried.fileValidCb
  apply hclear
  rcases c.dataTransfer.storeBase64_cases io filePieceNumber (some filePieceB64) with ⟨-, hr⟩ | ⟨-, -, hr⟩ |
    ⟨hstate, -, ⟨e, -, hr⟩ | ⟨-, -, -, hclean, -⟩ | ⟨bytes, -, -, hopen, hstored⟩⟩
  · rw [hr]
    exact h.setError _
  · rw [hr]
    exact h.setError _
  · rw [hr]
    exact h.setError _
  · exact carried_of_rest _ (Or.inr hclean)
  cases hstored with
  | more _ hr =>
    rw [hr]
    refine ⟨?_, h.writing, h.checking⟩
    intro hs hfw
    obtain ⟨hrestart, hbuild, hupdate⟩ := h.streaming hs hfw
    refine ⟨hrestart, hbuild, ?_⟩
    have hfw : c.dataTransfer.isFwTransfer = true := hfw
    simp [DataTransfer.stored, hfw, hupdate]
  | firmware _ _ hr =>
    rw [hr]
    exact carried_of_rest _ (Or.inr rfl)
  | file _ hfw _ _ _ hr =>
    rw [hr]
    refine ⟨?_, ?_, ?_⟩
    · intro hs
      cases hs
    · intro hs
      cases hs
    · intro _
      rcases hopen with hopen | ⟨-, hopen⟩
      · rw [hfw] at hopen
        cases hopen
      · exact h.writing hstate hfw hopen

theorem latched_handlePiece {c : MqttCommon} {binId : Option String} {finished : Option Finished}
    (h : c.Carried pioEnv binId) (hl : c.Latched pioEnv finished) (io : StoreIo) (filePieceNumber : UInt32)
    (filePieceB64 : List UInt8) :
    (c.handlePiece io filePieceNumber filePieceB64).common.Latched pioEnv
      (imageOr (c.handlePiece io filePieceNumber filePieceB64).image binId finished) := by
  have hname := c.dataTransfer.storeBase64_fileNameLocal io filePieceNumber (some filePieceB64)
  unfold handlePiece
  rcases c.dataTransfer.storeBase64_cases io filePieceNumber (some filePieceB64) with ⟨-, hr⟩ | ⟨-, -, hr⟩ |
    ⟨hstate, -, ⟨e, -, hr⟩ | ⟨-, hchecked, himage, -, -⟩ | ⟨bytes, -, -, hopen, hstored⟩⟩
  · rw [hr]
    exact hl.transfer rfl
  · rw [hr]
    exact hl.transfer rfl
  · rw [hr]
    exact hl.transfer rfl
  · simp only
    rw [hchecked, himage]
    exact hl.transfer hname
  cases hstored with
  | more _ hr =>
    rw [hr]
    exact hl.transfer rfl
  | firmware _ hfw hr =>
    obtain ⟨hrestart, hbuild, hupdate⟩ := h.streaming hstate hfw
    obtain ⟨image, himage⟩ := Option.isSome_iff_exists.mp hupdate
    rw [hr]
    intro _
    left
    refine ⟨?_, hrestart⟩
    simp [imageOr, DataTransfer.stored, hfw, himage, hbuild]
  | file _ _ _ _ _ hr =>
    rw [hr]
    exact hl.transfer rfl

/-- The start of an upload is refused with nothing touched, fails with its storage closed, or begins it. -/
inductive Started (pioEnv : String) (c : MqttCommon) (io : BeginIo) (fileInUse : String → Bool) (fileName : String)
    (fileSize : UInt32) (fileMd5 : List UInt8) (binId : Option String) (r : CommonResult) : Prop
  | refused (reason : ¬ (acceptsBuild pioEnv fileName binId = true ∧
        DataTransfer.checkBegin fileInUse fileSize (some fileMd5) (some fileName) = .ok (fileMd5, fileName)))
      (nack : r.answers.any (·.ack) = false) (err : UInt32)
      (result : r.common = { c with dataTransfer := { c.dataTransfer with dataTransferErrState := err } })
  | failed (build : acceptsBuild pioEnv fileName binId = true)
      (checked : DataTransfer.checkBegin fileInUse fileSize (some fileMd5) (some fileName) = .ok
        (fileMd5, fileName))
      (storage : c.dataTransfer.storageReady io fileSize fileName = false) (nack : r.answers.any (·.ack) = false)
      (dt : DataTransfer) (result : r.common = { c with dataTransfer := dt })
      (state : dt.transferState = c.dataTransfer.transferState) (closed : dt.receivedFile = none)
      (file : dt.isFwTransfer = false) (name : dt.fileNameLocal = fileName)
  | begun (build : acceptsBuild pioEnv fileName binId = true)
      (checked : DataTransfer.checkBegin fileInUse fileSize (some fileMd5) (some fileName) = .ok
        (fileMd5, fileName))
      (storage : c.dataTransfer.storageReady io fileSize fileName = true) (ack : r.answers.any (·.ack) = true)
      (dt : DataTransfer)
      (result : r.common = { c with
        dataTransfer := dt, isRestartRequired := FileName.isOwnFirmwareFileName fileName })
      (state : dt.transferState = .STORING) (fw : dt.isFwTransfer = FileName.isOwnFirmwareFileName fileName)
      (image : dt.isFwTransfer = true → dt.update.isSome = true) (name : dt.fileNameLocal = fileName)

theorem handleStart_cases (pioEnv : String) (c : MqttCommon) (io : BeginIo) (fileInUse : String → Bool)
    (fileName : String) (fileSize : UInt32) (fileMd5 : List UInt8) (binId : Option String) :
    Started pioEnv c io fileInUse fileName fileSize fileMd5 binId
      (handleStart pioEnv c io fileInUse fileName fileSize fileMd5 binId) := by
  cases hbuild : acceptsBuild pioEnv fileName binId with
  | false =>
    have hr : handleStart pioEnv c io fileInUse fileName fileSize fileMd5 binId =
        ⟨c, [⟨false, 0⟩], none, none, none, false⟩ := if_pos hbuild
    rw [hr]
    refine .refused ?_ rfl c.dataTransfer.dataTransferErrState rfl
    rintro ⟨h, -⟩
    rw [hbuild] at h
    cases h
  | true =>
    have hr : handleStart pioEnv c io fileInUse fileName fileSize fileMd5 binId = _ := if_neg (by simp [hbuild])
    rw [hr]
    rcases c.dataTransfer.begin_cases io fileInUse fileSize (some fileMd5) (some fileName) with ⟨e, hcheck,
      hbegin⟩ |
      ⟨md5, name, hcheck, hbegin⟩
    · rw [hbegin]
      refine .refused ?_ rfl 0 rfl
      rintro ⟨-, h⟩
      rw [hcheck] at h
      cases h
    obtain ⟨-, hmd5, hname, hvalid, -⟩ := DataTransfer.checkBegin_ok hcheck
    cases hmd5
    cases hname
    have hcopy := DataTransfer.copyName_of_valid hvalid
    rcases hbegin with ⟨hstorage, dt, hbegin, hstate, hclosed, hfile, hname, -⟩ | ⟨hstorage, hown, hbegin⟩ |
      ⟨hstorage, hown, hbegin⟩
    · rw [hbegin]
      exact .failed hbuild hcheck hstorage rfl _ rfl hstate hclosed hfile hname
    · rw [hbegin]
      have hfw : FileName.isOwnFirmwareFileName (DataTransfer.copyName fileName) = FileName.isOwnFirmwareFileName
          fileName :=
        congrArg _ hcopy
      refine .begun hbuild hcheck hstorage rfl (DataTransfer.getErrorCode { c.dataTransfer.adopt fileSize fileMd5
        fileName with update := some [], transferTimeoutTimer := io.now, transferState := .STORING }).2 ?_ rfl hfw
        (fun _ => rfl) hcopy
      rw [← hfw]
      rfl
    · rw [hbegin]
      have hfw : FileName.isOwnFirmwareFileName (DataTransfer.copyName fileName) = FileName.isOwnFirmwareFileName
          fileName :=
        congrArg _ hcopy
      refine .begun hbuild hcheck hstorage rfl (DataTransfer.getErrorCode { c.dataTransfer.adopt fileSize fileMd5
        fileName with
          tempFile := some [], receivedFile := some .w, transferTimeoutTimer := io.now, transferState :=
            .STORING }).2
        ?_ rfl hfw ?_ hcopy
      · rw [← hfw]
        rfl
      · intro h
        have hyes : FileName.isOwnFirmwareFileName (DataTransfer.copyName fileName) = true := h
        rw [hfw, hown] at hyes
        cases hyes

theorem handleStart_unfinished (pioEnv : String) (c : MqttCommon) (io : BeginIo) (fileInUse : String → Bool)
    (fileName : String) (fileSize : UInt32) (fileMd5 : List UInt8) (binId : Option String) :
    (handleStart pioEnv c io fileInUse fileName fileSize fileMd5 binId).image = none ∧
      (handleStart pioEnv c io fileInUse fileName fileSize fileMd5 binId).renamed = none := by
  unfold handleStart
  split
  all_goals exact ⟨rfl, rfl⟩

/-- A message without a command and without the fields of a start is a piece, or leaves everything. -/
theorem messageArrivedCallback_other (pioEnv : String) (c : MqttCommon) (io : CommonIo) (fileInUse : String → Bool)
    {payload : Payload}
    (hcmd : payload.cmd = none) (hstart : payload.isStart = false) :
    (∃ filePieceNumber filePieceB64, messageArrivedCallback pioEnv c io fileInUse payload =
      c.handlePiece io.store filePieceNumber filePieceB64) ∨
    messageArrivedCallback pioEnv c io fileInUse payload = ⟨c, [], none, none, none, false⟩ := by
  unfold messageArrivedCallback
  rw [hcmd]
  simp only
  split
  · rename_i hname hsize hmd5
    simp [Payload.isStart, hcmd, hname, hsize, hmd5] at hstart
  · split
    · exact Or.inl ⟨_, _, rfl⟩
    · exact Or.inr rfl

theorem build_of_own {pioEnv fileName : String} {binId : Option String}
    (h : acceptsBuild pioEnv fileName binId = true)
    (hown : FileName.isOwnFirmwareFileName fileName = true) : binId = some pioEnv := by
  cases binId with
  | none => simp [acceptsBuild, hown] at h
  | some build => simpa [acceptsBuild] using h

theorem carried_handleStart {c : MqttCommon} {binId : Option String} (h : c.Carried pioEnv binId) (io : BeginIo)
    (fileInUse : String → Bool) (fileName : String) (fileSize : UInt32) (fileMd5 : List UInt8)
    (binId' : Option String) :
    (handleStart pioEnv c io fileInUse fileName fileSize fileMd5 binId').common.Carried pioEnv
      (if (handleStart pioEnv c io fileInUse fileName fileSize fileMd5 binId').answers.any (·.ack) then binId'
        else binId) := by
  cases handleStart_cases pioEnv c io fileInUse fileName fileSize fileMd5 binId' with
  | refused _ hnack err hr =>
    rw [hnack, hr]
    exact ⟨h.streaming, h.writing, h.checking⟩
  | failed _ _ _ hnack dt hr hstate hclosed hfile _ =>
    rw [hnack, hr]
    refine ⟨?_, ?_, ?_⟩
    · intro _ hfw
      rw [hfile] at hfw
      cases hfw
    · intro _ _ hopen
      rw [hclosed] at hopen
      cases hopen
    · intro hcheck
      exact h.checking (hstate.symm.trans hcheck)
  | begun hbuild _ _ hack dt hr hstate hfw himage _ =>
    rw [hack, hr]
    refine ⟨?_, ?_, ?_⟩
    · intro _ hown
      refine ⟨hfw.symm.trans hown, ?_, himage hown⟩
      exact build_of_own hbuild (hfw.symm.trans hown)
    · intro _ hfile _
      exact hfw.symm.trans hfile
    · intro hcheck
      rw [hstate] at hcheck
      cases hcheck

def StartKeeps (c : MqttCommon) (finished : Option Finished) (io : BeginIo) (fileSize : UInt32)
    (fileName : String) :
    Prop :=
  match finished with
  | some (.renamed name) => fileName = name ∧
      (FileName.isOwnFirmwareFileName fileName = true → c.dataTransfer.storageReady io fileSize fileName = false)
  | _ => FileName.isOwnFirmwareFileName fileName = false → c.dataTransfer.storageReady io fileSize fileName = false

theorem latched_handleStart_iff {c : MqttCommon} {finished : Option Finished} (hl : c.Latched pioEnv finished)
    (io : BeginIo) (fileInUse : String → Bool) (fileName : String) (fileSize : UInt32) (fileMd5 : List UInt8)
    (binId : Option String) :
    (handleStart pioEnv c io fileInUse fileName fileSize fileMd5 binId).common.Latched pioEnv finished ↔
      (c.pending = true → acceptsBuild pioEnv fileName binId = true →
        DataTransfer.checkBegin fileInUse fileSize (some fileMd5) (some fileName) = .ok (fileMd5, fileName) →
        c.StartKeeps finished io fileSize fileName) := by
  cases handleStart_cases pioEnv c io fileInUse fileName fileSize fileMd5 binId with
  | refused hreason _ err hr =>
    rw [hr]
    apply iff_of_true (hl.transfer rfl)
    intro _ hbuild hcheck
    exact absurd ⟨hbuild, hcheck⟩ hreason
  | failed hbuild hcheck hstorage _ dt hr _ _ _ hname =>
    rw [hr]
    constructor
    · intro hafter hpending _ _
      rcases hl hpending with ⟨hfirmware, -⟩ | ⟨hrenamed, -⟩
      · rw [hfirmware]
        exact fun _ => hstorage
      · rcases hafter hpending with ⟨hfirmware, -⟩ | ⟨hsame, -⟩
        · rw [hrenamed] at hfirmware
          cases hfirmware
        · rw [hsame, StartKeeps, hname]
          exact ⟨rfl, fun _ => hstorage⟩
    · intro hkeeps hpending
      have hkeeps := hkeeps hpending hbuild hcheck
      rcases hl hpending with hfirmware | ⟨hrenamed, hno⟩
      · exact Or.inl hfirmware
      · rw [hrenamed] at hkeeps ⊢
        right
        rw [hname, hkeeps.1]
        exact ⟨rfl, hno⟩
  | begun hbuild hcheck hstorage _ dt hr _ _ _ hname =>
    rw [hr]
    constructor
    · intro hafter hpending _ _
      rcases hl hpending with ⟨hfirmware, -⟩ | ⟨hrenamed, -⟩
      · rw [hfirmware] at hafter ⊢
        rcases hafter hpending with ⟨-, hown⟩ | ⟨hrenamed, -⟩
        · intro hfile
          rw [show FileName.isOwnFirmwareFileName fileName = true from hown] at hfile
          cases hfile
        · cases hrenamed
      · rcases hafter hpending with ⟨hfirmware, -⟩ | ⟨hsame, hfile⟩
        · rw [hrenamed] at hfirmware
          cases hfirmware
        · rw [hsame, StartKeeps, hname]
          refine ⟨rfl, ?_⟩
          intro hown
          rw [show FileName.isOwnFirmwareFileName fileName = false from hfile] at hown
          cases hown
    · intro hkeeps hpending
      have hkeeps := hkeeps hpending hbuild hcheck
      rcases hl hpending with ⟨hfirmware, -⟩ | ⟨hrenamed, -⟩
      · rw [hfirmware] at hkeeps ⊢
        refine Or.inl ⟨rfl, ?_⟩
        by_contra hfile
        have hclosed := hkeeps (Bool.eq_false_of_not_eq_true hfile)
        rw [hstorage] at hclosed
        cases hclosed
      · rw [hrenamed] at hkeeps ⊢
        refine Or.inr ⟨?_, ?_⟩
        · rw [hname, hkeeps.1]
        · by_contra hown
          have hclosed := hkeeps.2 (Bool.eq_true_of_not_eq_false hown)
          rw [hstorage] at hclosed
          cases hclosed

end MqttCommon

/-! ## The observer -/

structure FinishWatch where
  common : MqttCommon
  /-- The build named by the last message that began an upload. -/
  binId : Option String
  finished : Option Finished
  deriving DecidableEq, Repr

inductive CommonEvent
  | message (io : CommonIo) (fileInUse : String → Bool) (payload : Payload)
  | run (io : CheckIo)

namespace FinishWatch

variable (pioEnv : String) (md5 : Md5)

def init (tempFile : Option (List UInt8)) : FinishWatch := ⟨.init tempFile, none, none⟩

def result (w : FinishWatch) : CommonEvent → CommonResult
  | .message io fileInUse payload => w.common.messageArrivedCallback pioEnv io fileInUse payload
  | .run io => w.common.run md5 io

def begunBinId (w : FinishWatch) (e : CommonEvent) : Option String :=
  match e with
  | .message _ _ payload =>
    if payload.isStart && (w.result pioEnv md5 e).answers.any (·.ack) then payload.binId else w.binId
  | .run _ => w.binId

def success (w : FinishWatch) (e : CommonEvent) : Option Finished :=
  match (w.result pioEnv md5 e).image, (w.result pioEnv md5 e).renamed with
  | some _, _ => some (.firmware (w.begunBinId pioEnv md5 e))
  | none, some (name, _) => some (.renamed name)
  | none, none => w.finished

def step (w : FinishWatch) (e : CommonEvent) : FinishWatch :=
  ⟨(w.result pioEnv md5 e).common, w.begunBinId pioEnv md5 e, w.success pioEnv md5 e⟩

/-- The next pass restarts the device for a firmware of its own build only, and queues a finished file under the
name it has. -/
def ActsRight (w : FinishWatch) : Prop :=
  ∀ io : CheckIo,
    ((w.common.run md5 io).restarted = true →
      w.common.pending = true ∧ w.finished = some (.firmware (some pioEnv))) ∧
    (w.common.pending = true → (w.common.run md5 io).restarted = false →
      ∃ name, w.finished = some (.renamed name) ∧ (w.common.run md5 io).queued = some name)

/-- While a success waits, no upload is begun that changes what the pass will do: where it was a file, one of
another name, or of a firmware; where it was a firmware, one of a file. -/
def Undisturbed (w : FinishWatch) : CommonEvent → Prop
  | .message io fileInUse payload => w.common.pending = true → payload.cmd = none →
      ∀ name fileSize fileMd5, payload.name = some name → payload.fileSize = some fileSize →
        payload.md5 = some fileMd5 →
        MqttCommon.acceptsBuild pioEnv name payload.binId = true →
        DataTransfer.checkBegin fileInUse fileSize (some fileMd5) (some name) = .ok (fileMd5, name) →
        w.common.StartKeeps w.finished io.begin fileSize name
  | .run _ => True

theorem actsRight_iff (w : FinishWatch) : w.ActsRight pioEnv md5 ↔ w.common.Latched pioEnv w.finished := by
  constructor
  · intro hacts hpending
    obtain ⟨hreboot, hqueue⟩ := hacts .smooth
    rcases w.common.run_cases md5 .smooth with ⟨hnone, -⟩ | ⟨-, hrestart, answers, hrun⟩ | ⟨-, hrestart, answers,
      hrun⟩
    · exact absurd hpending (Bool.eq_false_iff.mp hnone)
    · rw [hrun] at hreboot
      exact Or.inl ⟨(hreboot rfl).2, hrestart⟩
    · rw [hrun] at hqueue
      obtain ⟨name, hfinished, hname⟩ := hqueue hpending rfl
      cases hname
      exact Or.inr ⟨hfinished, hrestart⟩
  · intro hlatched io
    rcases w.common.run_cases md5 io with ⟨hnone, answers, err, hrun⟩ | ⟨hpending, hrestart, answers, hrun⟩ |
      ⟨hpending, hrestart, answers, hrun⟩
    · rw [hrun]
      refine ⟨?_, ?_⟩
      · intro h
        cases h
      · intro hpending
        exact absurd hpending (Bool.eq_false_iff.mp hnone)
    · rcases hlatched hpending with ⟨hfirmware, -⟩ | ⟨-, hno⟩
      · rw [hrun]
        refine ⟨fun _ => ⟨hpending, hfirmware⟩, ?_⟩
        intro _ h
        cases h
      · rw [hrestart] at hno
        cases hno
    · rcases hlatched hpending with ⟨-, hyes⟩ | ⟨hrenamed, -⟩
      · rw [hrestart] at hyes
        cases hyes
      · rw [hrun]
        refine ⟨?_, fun _ _ => ⟨_, hrenamed, rfl⟩⟩
        intro h
        cases h

variable {pioEnv md5}

theorem step_run (w : FinishWatch) (io : CheckIo) :
    w.step pioEnv md5 (.run io) =
      ⟨(w.common.run md5 io).common, w.binId, MqttCommon.renamedOr (w.common.run md5 io).renamed w.finished⟩ := by
  have himage : (w.common.run md5 io).image = none := by
    rcases w.common.run_cases md5 io with ⟨-, answers, err, h⟩ | ⟨-, -, answers, h⟩ | ⟨-, -, answers, h⟩
    all_goals
      rw [h]
      rfl
  unfold step success result begunBinId
  simp only
  rw [himage]
  cases (w.common.run md5 io).renamed with
  | none => rfl
  | some file => rfl

/-- A message is a command, starts an upload, brings a piece or is not understood. -/
theorem step_message_cases (w : FinishWatch) (io : CommonIo) (fileInUse : String → Bool) (payload : Payload) :
    (∃ cmd, payload.cmd = some cmd ∧ w.step pioEnv md5 (.message io fileInUse payload) =
      ⟨(w.common.dispatchCommand cmd).common, w.binId, w.finished⟩) ∨
    (payload.cmd = none ∧ ∃ name fileSize fileMd5,
      payload.name = some name ∧ payload.fileSize = some fileSize ∧ payload.md5 = some fileMd5 ∧
      let r := w.common.handleStart pioEnv io.begin fileInUse name fileSize fileMd5 payload.binId
      w.step pioEnv md5 (.message io fileInUse payload) =
        ⟨r.common, if r.answers.any (·.ack) then payload.binId else w.binId, w.finished⟩) ∨
    (payload.isStart = false ∧ ∃ filePieceNumber filePieceB64,
      let r := w.common.handlePiece io.store filePieceNumber filePieceB64
      w.step pioEnv md5 (.message io fileInUse payload) =
        ⟨r.common, w.binId, MqttCommon.imageOr r.image w.binId w.finished⟩) ∨
    (payload.isStart = false ∧ w.step pioEnv md5 (.message io fileInUse payload) = w) := by
  cases hcmd : payload.cmd with
  | some cmd =>
    refine Or.inl ⟨cmd, rfl, ?_⟩
    simp only [step, success, result, begunBinId, Payload.isStart, MqttCommon.messageArrivedCallback, hcmd,
      MqttCommon.dispatchCommand]
    split
    · rfl
    · rfl
  | none =>
    right
    cases hstart : payload.isStart with
    | true =>
      simp only [Payload.isStart, Bool.and_eq_true, Option.isSome_iff_exists] at hstart
      obtain ⟨⟨⟨-, name, hname⟩, fileSize, hsize⟩, fileMd5, hmd5⟩ := hstart
      refine Or.inl ⟨rfl, name, fileSize, fileMd5, hname, hsize, hmd5, ?_⟩
      obtain ⟨himage, hrenamed⟩ := MqttCommon.handleStart_unfinished pioEnv w.common io.begin fileInUse name
        fileSize
        fileMd5 payload.binId
      simp only [step, success, result, begunBinId, Payload.isStart, MqttCommon.messageArrivedCallback, hcmd, hname,
        hsize, hmd5, himage, hrenamed]
      rfl
    | false =>
      right
      rcases MqttCommon.messageArrivedCallback_other pioEnv w.common io fileInUse hcmd hstart with
        ⟨piece, data, hr⟩ | hr
      · refine Or.inl ⟨rfl, piece, data, ?_⟩
        have hrenamed : (w.common.handlePiece io.store piece data).renamed = none := rfl
        simp only [step, success, result, begunBinId, hstart, hr, hrenamed]
        cases (w.common.handlePiece io.store piece data).image with
        | none => rfl
        | some image => rfl
      · refine Or.inr ⟨rfl, ?_⟩
        simp only [step, success, result, begunBinId, hstart, hr]
        rfl

theorem undisturbed_of_other (w : FinishWatch) {io : CommonIo} {fileInUse : String → Bool} {payload : Payload}
    (h : payload.isStart = false) : w.Undisturbed pioEnv (.message io fileInUse payload) := by
  intro _ hcmd name fileSize fileMd5 hname hsize hmd5
  simp [Payload.isStart, hcmd, hname, hsize, hmd5] at h

theorem carried_step {w : FinishWatch} (h : w.common.Carried pioEnv w.binId) (e : CommonEvent) :
    (w.step pioEnv md5 e).common.Carried pioEnv (w.step pioEnv md5 e).binId := by
  cases e with
  | run io =>
    rw [step_run]
    rcases w.common.run_cases md5 io with ⟨-, answers, err, hr⟩ | ⟨-, -, answers, hr⟩ | ⟨-, -, answers, hr⟩
    · rw [hr]
      exact MqttCommon.carried_checkPass (h.consumed err) md5 io answers none
    · rw [hr]
      exact MqttCommon.carried_of_rest _ (Or.inl rfl)
    · rw [hr]
      exact MqttCommon.carried_checkPass (h.consumed 0) md5 io answers (some w.common.dataTransfer.fileNameLocal)
  | message io fileInUse payload =>
    rcases w.step_message_cases io fileInUse payload with ⟨cmd, -, hr⟩ | ⟨-, name, fileSize, fileMd5, -, -, -, hr⟩ |
      ⟨-, piece, data, hr⟩ | ⟨-, hr⟩
    · rw [hr]
      unfold MqttCommon.dispatchCommand
      split
      · exact MqttCommon.carried_of_rest _ (Or.inl rfl)
      · exact h
    · rw [hr]
      exact MqttCommon.carried_handleStart h io.begin fileInUse name fileSize fileMd5 payload.binId
    · rw [hr]
      exact MqttCommon.carried_handlePiece h io.store piece data
    · rw [hr]
      exact h

theorem latched_step_iff {w : FinishWatch} (h : w.common.Carried pioEnv w.binId)
    (hl : w.common.Latched pioEnv w.finished) (e : CommonEvent) :
    (w.step pioEnv md5 e).common.Latched pioEnv (w.step pioEnv md5 e).finished ↔ w.Undisturbed pioEnv e := by
  cases e with
  | run io =>
    rw [step_run]
    refine iff_of_true ?_ trivial
    rcases w.common.run_cases md5 io with ⟨-, answers, err, hr⟩ | ⟨-, -, answers, hr⟩ | ⟨-, -, answers, hr⟩
    · rw [hr]
      exact MqttCommon.latched_checkPass (h.consumed err) (MqttCommon.latched_of_done _ rfl) md5 io answers none
    · rw [hr]
      exact MqttCommon.latched_of_done _ rfl
    · rw [hr]
      exact MqttCommon.latched_checkPass (h.consumed 0) (MqttCommon.latched_of_done _ rfl) md5 io answers
        (some w.common.dataTransfer.fileNameLocal)
  | message io fileInUse payload =>
    rcases w.step_message_cases io fileInUse payload with ⟨cmd, hcmd, hr⟩ |
      ⟨hcmd, name, fileSize, fileMd5, hname, hsize, hmd5, hr⟩ | ⟨hother, piece, data, hr⟩ | ⟨hother, hr⟩
    · rw [hr]
      refine iff_of_true ?_ ?_
      · unfold MqttCommon.dispatchCommand
        split
        · exact MqttCommon.latched_of_done _ rfl
        · exact hl
      · intro _ hnone
        rw [hcmd] at hnone
        cases hnone
    · rw [hr]
      rw [MqttCommon.latched_handleStart_iff hl]
      constructor
      · intro hkeeps hpending _ name' fileSize' fileMd5' hname' hsize' hmd5'
        rw [hname, Option.some.injEq] at hname'
        rw [hsize, Option.some.injEq] at hsize'
        rw [hmd5, Option.some.injEq] at hmd5'
        subst hname' hsize' hmd5'
        exact hkeeps hpending
      · intro hund hpending
        exact hund hpending hcmd name fileSize fileMd5 hname hsize hmd5
    · rw [hr]
      exact iff_of_true (MqttCommon.latched_handlePiece h hl io.store piece data) (w.undisturbed_of_other hother)
    · rw [hr]
      exact iff_of_true hl (w.undisturbed_of_other hother)

/-- Over any sequence of messages and passes, the pass that follows acts on what was finished exactly when no other
upload was begun in between. -/
theorem acts_on_finished_iff (tempFile : Option (List UInt8)) (es : List CommonEvent) :
    Machine.Meets (step pioEnv md5) (fun w e => (w.step pioEnv md5 e).ActsRight pioEnv md5) (init tempFile) es ↔
      Machine.Meets (step pioEnv md5) (Undisturbed pioEnv) (init tempFile) es := by
  apply Machine.meets_congr (I := fun w : FinishWatch =>
    w.common.Carried pioEnv w.binId ∧ w.common.Latched pioEnv w.finished)
  · rintro w e ⟨hc, -⟩ hacts
    exact ⟨carried_step hc e, (actsRight_iff pioEnv md5 _).mp hacts⟩
  · rintro w e ⟨hc, hl⟩
    exact (actsRight_iff pioEnv md5 _).trans (latched_step_iff hc hl e)
  · exact ⟨MqttCommon.carried_of_rest _ (Or.inl rfl), MqttCommon.latched_of_done _ rfl⟩

/-- One byte is uploaded as the tube configuration, up to the pass that renames it; then a certificate is begun. -/
def overwrittenName : List CommonEvent :=
  [.message .smooth (fun _ => false) ⟨none, none, some FileName.tubeConfigLocation, some 1, some md5OfA, none,
    none⟩,
   .message .smooth (fun _ => false) ⟨none, none, none, none, none, some 0, some (ascii "QQ==")⟩,
   .run .smooth, .run .smooth]

def certificateBegins : CommonEvent :=
  .message .smooth (fun _ => false) ⟨none, none, some FileName.mqttServerCertLocation, some 1, some md5OfA, none,
    none⟩

/-- The pass queues the certificate, of which no piece has come, in place of the configuration. -/
theorem acts_on_another_file :
    ¬ ∀ (pioEnv : String) (md5 : Md5) (tempFile : Option (List UInt8)) (es : List CommonEvent),
      Machine.Meets (step pioEnv md5) (fun w e => (w.step pioEnv md5 e).ActsRight pioEnv md5)
        (init tempFile) es := by
  intro h
  let w := (Machine.run (step "esp32" sampleMd5) (init none) overwrittenName).step "esp32" sampleMd5
    certificateBegins
  have hacts : w.ActsRight "esp32" sampleMd5 :=
    (Machine.Meets.append.mp (h "esp32" sampleMd5 none (overwrittenName ++ [certificateBegins]))).2.1
  have hpending : w.common.pending = true ∧ (w.common.run sampleMd5 .smooth).restarted = false := by decide +kernel
  have hdone : w.finished = some (.renamed FileName.tubeConfigLocation) ∧
      (w.common.run sampleMd5 .smooth).queued = some FileName.mqttServerCertLocation := by decide +kernel
  obtain ⟨name, hfinished, hqueued⟩ := (hacts .smooth).2 hpending.1 hpending.2
  rw [hdone.1] at hfinished
  rw [hdone.2] at hqueued
  cases hfinished
  revert hqueued
  decide

end FinishWatch

end CanSystems
