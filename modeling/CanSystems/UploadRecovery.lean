import CanSystems.LossyUpload

/-!
# What a lost answer costs an upload

While the device still waits for pieces, it refuses the repeat of a piece it has
stored as such, and the sender takes the refusal for the answer that was lost.
After the last piece the device waits for none, and its refusal says so.
-/

namespace CanSystems

open Machine

/-! ## The device, when all goes well -/

section
variable {w : UploadSetting} {c device : MqttCommon} {published : Option (String × List UInt8)}

/-- The device has stored the first `m` pieces, and all that it was told of the upload is right. -/
structure Keeping (w : UploadSetting) (c : MqttCommon) (m : Nat) : Prop where
  holding : Holding w.job c.dataTransfer m
  quiet : c.isFileCheckDone = false
  noError : c.dataTransfer.dataTransferErrState = 0
  fileSize : c.dataTransfer.fileSizeLocal = UInt32.ofNat w.job.size
  fileMd5 : c.dataTransfer.fileMd5Local = (w.md5 w.job.data).toList
  opened : c.dataTransfer.isFwTransfer = false → c.dataTransfer.receivedFile = some .w

/-- The device has all pieces and has not said so, with the most passes it still needs. -/
inductive Verifying (w : UploadSetting) (published : Option (String × List UInt8)) (c : MqttCommon) : ℕ → Prop
  | checking (pos : Nat) (state : c.dataTransfer.transferState = .CHECK) (quiet : c.isFileCheckDone = false)
      (noError : c.dataTransfer.dataTransferErrState = 0) (name : c.dataTransfer.fileNameLocal = w.job.name)
      (fileMd5 : c.dataTransfer.fileMd5Local = (w.md5 w.job.data).toList)
      (temp : c.dataTransfer.tempFile = some w.job.data) (handle : c.dataTransfer.receivedFile = some (.r pos))
      (sum : c.dataTransfer.md5 = w.job.data.take pos) (within : pos ≤ w.job.size) :
      Verifying w published c (w.job.size - pos + 2)
  | concluded (state : c.dataTransfer.transferState = .CLEANUP) (done : c.isFileCheckDone = true)
      (valid : c.isFileValid = true) (noError : c.dataTransfer.dataTransferErrState = 0)
      (real : published = some (w.job.name, w.job.data)) : Verifying w published c 1

structure Told (w : UploadSetting) (published : Option (String × List UInt8)) (c : MqttCommon) : Prop where
  idle : c.dataTransfer.transferState = .IDLE
  quiet : c.isFileCheckDone = false
  noError : c.dataTransfer.dataTransferErrState = 0
  real : published = some (w.job.name, w.job.data)

theorem UploadSetting.Takes.small (h : w.Takes device) : w.job.size < 2 ^ 32 :=
  h.room.trans (UInt32.toNat_lt _)

theorem UploadSetting.Takes.pieces_pos (h : w.Takes device) : 0 < w.job.pieces := by
  have := List.length_pos_iff.mpr h.nonempty
  simp only [Job.pieces, Job.size]
  omega

theorem checkBegin_eq {fileInUse : String → Bool} {fileSize : UInt32} {fileMd5 : List UInt8} {fileName : String}
    (hsize : fileSize ≠ 0) (hmd5 : fileMd5 ≠ []) (hallowed : FileName.isValidFileName fileName = true)
    (hunused : fileInUse fileName = false) :
    DataTransfer.checkBegin fileInUse fileSize (some fileMd5) (some fileName) = .ok (fileMd5, fileName) := by
  have hname : fileName ≠ "" := by
    rintro rfl
    revert hallowed
    decide
  simp [DataTransfer.checkBegin, hsize, hmd5, hname, hallowed, hunused]

theorem toList_ne_nil (sum : Vector UInt8 32) : sum.toList ≠ [] := by
  intro h
  have := congrArg List.length h
  simp at this

theorem UploadSetting.Takes.start (h : w.Takes device) (now : UInt32) :
    ∃ c err, device.messageArrivedCallback w.pioEnv (.succeeding w.freeSpace now) w.fileInUse
      (w.job.payload w.md5 .start) =
      ⟨c, [⟨true, err⟩], none, none, none, false⟩ ∧ Keeping w c 0 := by
  have hsmall := h.small
  have hpos := h.pieces_pos
  have hsize : (UInt32.ofNat w.job.size).toNat = w.job.size := UInt32.toNat_ofNat_of_lt' hsmall
  have hnonzero : UInt32.ofNat w.job.size ≠ 0 := by
    rw [ne_eq, ← UInt32.toNat_inj, hsize]
    simp only [Job.pieces] at hpos
    change ¬ _ = 0
    omega
  have hcheck := checkBegin_eq hnonzero (toList_ne_nil (w.md5 w.job.data)) h.allowed h.unused
  have hcopy := DataTransfer.copyName_of_valid h.allowed
  have hmd5 : (w.md5 w.job.data).toList.take (DataTransfer.fileMd5Size - 1) = (w.md5 w.job.data).toList :=
    List.take_of_length_le (by simp [DataTransfer.fileMd5Size])
  simp only [MqttCommon.messageArrivedCallback, Job.payload, Job.jsonUInt32, if_pos hsmall, MqttCommon.handleStart,
    h.build, Bool.true_eq_false, if_false]
  rcases device.dataTransfer.begin_cases (CommonIo.succeeding w.freeSpace now).begin w.fileInUse
    (UInt32.ofNat w.job.size)
    (some (w.md5 w.job.data).toList) (some w.job.name) with ⟨e, hrefused, -⟩ | ⟨sum, name, hok, hb⟩
  · rw [hcheck] at hrefused
    cases hrefused
  obtain ⟨rfl, rfl⟩ : (w.md5 w.job.data).toList = sum ∧ w.job.name = name := by
    rw [hcheck] at hok
    simpa using hok
  rcases hb with ⟨hready, -⟩ | ⟨-, hown, hb⟩ | ⟨-, hown, hb⟩
  · simp only [DataTransfer.storageReady, CommonIo.succeeding, h.closed, Option.isNone_none, Bool.or_true,
      Bool.and_true, UInt32.lt_iff_toNat_lt, hsize, h.room, decide_true, ite_self] at hready
    cases hready
  · rw [hb]
    refine ⟨_, _, rfl, ⟨⟨rfl, hcopy, rfl, rfl, hpos, hsmall, ?_⟩, h.rest.quiet, rfl, rfl, hmd5, fun hfw => ?_⟩⟩
    · rw [if_pos (by simp [DataTransfer.getErrorCode, DataTransfer.adopt, hcopy, hown])]
      exact ⟨by simp [DataTransfer.getErrorCode], by simpa [FileName.isOwnFirmwareFileName] using hown⟩
    · simp [DataTransfer.getErrorCode, DataTransfer.adopt, hcopy, hown] at hfw
  · rw [hb]
    refine ⟨_, _, rfl, ⟨⟨rfl, hcopy, rfl, rfl, hpos, hsmall, ?_⟩, h.rest.quiet, rfl, rfl, hmd5, fun _ => rfl⟩⟩
    rw [if_neg (by simp [DataTransfer.getErrorCode, DataTransfer.adopt, hcopy, hown])]
    simp [DataTransfer.getErrorCode]

/-! ## Pieces -/

theorem handlePiece_refused {io : StoreIo} {number : UInt32} {text : List UInt8} {e : DataTransferError}
    (h : c.dataTransfer.storeBase64 io number (some text) = ⟨false, c.dataTransfer.setError e, none, none⟩)
    (hno : c.dataTransfer.dataTransferErrState = 0) :
    c.handlePiece io number text = ⟨c, [⟨false, e.code⟩], none, none, none, false⟩ := by
  unfold MqttCommon.handlePiece
  rw [h]
  obtain ⟨dt, done, valid, restart⟩ := c
  cases dt
  simp only at hno
  subst hno
  simp [DataTransfer.getErrorCode, DataTransfer.setError, MqttCommon.fileValidCb]

theorem Keeping.small_piece {m k : Nat} (h : Keeping w c m) (hk : k ≤ m) : k < 2 ^ 32 := by
  have hmore := h.holding.more
  have hsmall := h.holding.small
  simp only [Job.pieces] at hmore
  omega

theorem messageArrivedCallback_piece (w : UploadSetting) (c : MqttCommon) (io : CommonIo) {k : Nat}
    (hk : k < 2 ^ 32) :
    c.messageArrivedCallback w.pioEnv io w.fileInUse (w.job.payload w.md5 (.piece (w.job.pieceAt k))) =
      c.handlePiece io.store (UInt32.ofNat k) (Base64.b64encode (w.job.bytesAt k)) := by
  have hk : (w.job.pieceAt k).number < 2 ^ 32 := hk
  simp only [MqttCommon.messageArrivedCallback, Job.payload, Job.jsonUInt32, if_pos hk]
  rfl

theorem Keeping.old_piece {m k : Nat} (h : Keeping w c m) (hk : k < m) (io : StoreIo) :
    c.handlePiece io (UInt32.ofNat k) (Base64.b64encode (w.job.bytesAt k)) =
      ⟨c, [⟨false, BaseTransfer.WRONG_FILE_PIECE_NUMBER⟩], none, none, none, false⟩ := by
  have hnumber : UInt32.ofNat k ≠ c.dataTransfer.nextFilePieceNumberLocal := by
    rw [h.holding.next]
    intro heq
    have := ofNat_injOn (h.small_piece hk.le) (h.small_piece (Nat.le_refl m)) heq
    omega
  rcases c.dataTransfer.storeBase64_cases io (UInt32.ofNat k) (some (Base64.b64encode (w.job.bytesAt k))) with
    ⟨hstate, -⟩ | ⟨-, -, hr⟩ | ⟨-, heq, -⟩
  · exact absurd h.holding.state hstate
  · exact handlePiece_refused hr h.noError
  · exact absurd heq hnumber

/-- A piece that comes after the last one was stored is refused, and not as a wrong piece number. -/
theorem handlePiece_not_storing (hstate : c.dataTransfer.transferState ≠ .STORING)
    (hno : c.dataTransfer.dataTransferErrState = 0) (io : StoreIo) (number : UInt32) (text : List UInt8) :
    c.handlePiece io number text = ⟨c, [⟨false, DataTransferError.BEGIN_NOT_CALLED.code⟩], none, none, none,
      false⟩ :=
  handlePiece_refused (by rw [DataTransfer.storeBase64, if_pos hstate]) hno

theorem storeBase64_succeeding {dt : DataTransfer} (number now : UInt32) (text : List UInt8) {bytes : List UInt8}
    (hstate : dt.transferState = .STORING) (hnumber : number = dt.nextFilePieceNumberLocal)
    (hleft : dt.remainingFileSizeLocal ≠ 0) (hdecode : DataTransfer.decodePiece (some text) = .ok bytes)
    (hroom : UInt32.ofNat bytes.length ≤ dt.remainingFileSizeLocal)
    (hopened : dt.isFwTransfer = false → dt.receivedFile = some .w) :
    dt.storeBase64 ⟨now, 0, true, true, 0⟩ number (some text) =
      if (dt.stored ⟨now, 0, true, true, 0⟩ bytes).remainingFileSizeLocal = 0 then
        (dt.stored ⟨now, 0, true, true, 0⟩ bytes).finalizeTransfer ⟨now, 0, true, true, 0⟩
      else ⟨true, dt.stored ⟨now, 0, true, true, 0⟩ bytes, none, none⟩ := by
  have hfits : ¬ UInt32.ofNat bytes.length > dt.remainingFileSizeLocal := by simpa using hroom
  have hwrite : dt.write ⟨now, 0, true, true, 0⟩ bytes = (bytes.length, { dt with
      update := if dt.isFwTransfer then dt.update.map (· ++ bytes) else dt.update
      tempFile := if dt.isFwTransfer then dt.tempFile else dt.tempFile.map (· ++ bytes) }) := by
    cases hfw : dt.isFwTransfer with
    | true => simp [DataTransfer.write, hfw]
    | false => simp [DataTransfer.write, hfw, hopened hfw]
  simp only [DataTransfer.storeBase64, hstate, hnumber, hleft, hdecode, DataTransfer.storePiece, if_neg hfits,
    hwrite, ne_eq, not_true, if_false, DataTransfer.stored]

theorem Keeping.next_piece {m : Nat} (h : Keeping w c m) (published : Option (String × List UInt8)) (now : UInt32) :
    ∃ c' err image, c.handlePiece ⟨now, 0, true, true, 0⟩ (UInt32.ofNat m) (Base64.b64encode (w.job.bytesAt m)) =
      ⟨c', [⟨true, err⟩], none, none, image, false⟩ ∧
      ((m + 1 < w.job.pieces ∧ image = none ∧ Keeping w c' (m + 1)) ∨
        (m + 1 = w.job.pieces ∧ ∃ n ≤ w.job.size + 2,
          Verifying w (image.map (FileName.otaFwLocation, ·) <|> published) c' n)) := by
  have hmore := h.holding.more
  have hsmall := h.holding.small
  have hlen := w.job.length_bytesAt m
  have hpos := w.job.length_bytesAt_pos hmore
  have hleft : (c.dataTransfer.remainingFileSizeLocal).toNat = w.job.size - 100 * m := by
    rw [h.holding.left]
    exact UInt32.toNat_ofNat_of_lt' (by simp only [UInt32.size]; omega)
  have hbytes : (UInt32.ofNat (w.job.bytesAt m).length).toNat = (w.job.bytesAt m).length :=
    UInt32.toNat_ofNat_of_lt' (by simp only [UInt32.size]; omega)
  have hstore := storeBase64_succeeding (UInt32.ofNat m) now (Base64.b64encode (w.job.bytesAt m)) h.holding.state
    h.holding.next.symm
    (by rw [ne_eq, ← UInt32.toNat_inj, hleft]; change ¬ _ = 0; omega)
    (DataTransfer.decodePiece_b64encode hpos (by omega))
    (by rw [UInt32.le_iff_toNat_le, hbytes, hleft]; omega) h.opened
  have hcontent := h.holding.take_stored ⟨now, 0, true, true, 0⟩
  unfold MqttCommon.handlePiece
  rw [hstore]
  split
  · rename_i hend
    have hlast := h.holding.last _ hend
    rw [hlast, w.job.take_pieces] at hcontent
    cases hfw : c.dataTransfer.isFwTransfer with
    | true =>
      rw [if_pos hfw] at hcontent
      have hfinal : (c.dataTransfer.stored ⟨now, 0, true, true, 0⟩ (w.job.bytesAt m)).finalizeTransfer
        ⟨now, 0, true, true, 0⟩ =
          ⟨true, { c.dataTransfer.stored ⟨now, 0, true, true, 0⟩ (w.job.bytesAt m) with
            update := none, transferState := .CLEANUP }, some true, some w.job.data⟩ := by
        rw [DataTransfer.finalizeTransfer, if_pos (show (DataTransfer.stored _ _ _).isFwTransfer = true from hfw)]
        simp [hcontent.1]
      rw [hfinal]
      exact ⟨_, _, _, rfl, Or.inr ⟨hlast, 1, by omega, .concluded rfl rfl rfl rfl (by simp [hcontent.2])⟩⟩
    | false =>
      rw [if_neg (by simp [hfw])] at hcontent
      have hfinal : (c.dataTransfer.stored ⟨now, 0, true, true, 0⟩ (w.job.bytesAt m)).finalizeTransfer
        ⟨now, 0, true, true, 0⟩ =
          ⟨true, { c.dataTransfer.stored ⟨now, 0, true, true, 0⟩ (w.job.bytesAt m) with
            receivedFile := some (.r 0), md5 := [], transferState := .CHECK, transferTimeoutTimer := now }, none,
              none⟩ := by
        have hsize : UInt32.ofNat w.job.data.length =
            (c.dataTransfer.stored ⟨now, 0, true, true, 0⟩ (w.job.bytesAt m)).fileSizeLocal := h.fileSize.symm
        rw [DataTransfer.finalizeTransfer, if_neg (by simpa [DataTransfer.stored] using hfw), hcontent]
        simp [hsize, hcontent]
      rw [hfinal]
      refine ⟨_, _, none, rfl, Or.inr
        ⟨hlast, _, ?_, .checking 0 rfl h.quiet rfl h.holding.name h.fileMd5 hcontent rfl rfl
        (Nat.zero_le _)⟩⟩
      omega
  · rename_i hmore'
    have hholding := h.holding.stored _ hmore'
    exact ⟨_, _, none, rfl, Or.inl ⟨hholding.more, rfl, hholding.withErrState 0, h.quiet, rfl, h.fileSize,
      h.fileMd5, h.opened⟩⟩

/-! ## Passes -/

theorem run_idle (hstate : c.dataTransfer.transferState = .IDLE) (hquiet : c.isFileCheckDone = false)
    (io : CheckIo) :
    c.run w.md5 io = ⟨{ c with dataTransfer := { c.dataTransfer with transferTimeoutTimer := io.now } }, [], none,
      none, none, false⟩ := by
  have hr : c.dataTransfer.runValidityCheck w.md5 io =
      ⟨{ c.dataTransfer with transferTimeoutTimer := io.now }, none, none⟩ := by
    simp [DataTransfer.runValidityCheck, DataTransfer.timesOut, hstate]
  rw [MqttCommon.run, if_pos hquiet, MqttCommon.checkPass, hr]
  rfl

theorem UploadSetting.Takes.run (h : w.Takes c) (io : CheckIo) :
    ∃ c', c.run w.md5 io = ⟨c', [], none, none, none, false⟩ ∧ w.Takes c' :=
  ⟨_, run_idle h.rest.idle h.rest.quiet io,
    ⟨⟨h.rest.idle, h.rest.quiet, h.rest.noError⟩, h.closed, h.build, h.allowed, h.unused, h.nonempty, h.room⟩⟩

theorem Told.run (h : Told w published c) (io : CheckIo) :
    ∃ c', c.run w.md5 io = ⟨c', [], none, none, none, false⟩ ∧ Told w published c' :=
  ⟨_, run_idle h.idle h.quiet io, ⟨h.idle, h.quiet, h.noError, h.real⟩⟩

theorem Keeping.run {m : Nat} (h : Keeping w c m) {io : CheckIo} (htime : c.dataTransfer.timesOut io.now = false) :
    c.run w.md5 io = ⟨c, [], none, none, none, false⟩ := by
  have hr : c.dataTransfer.runValidityCheck w.md5 io = ⟨c.dataTransfer, none, none⟩ := by
    simp [DataTransfer.runValidityCheck, htime, h.holding.state]
  rw [MqttCommon.run, if_pos h.quiet, MqttCommon.checkPass, hr]
  rfl

theorem Verifying.run {n : ℕ} (h : Verifying w published c n) {now : UInt32}
    (htime : c.dataTransfer.timesOut now = false) :
    ((c.run w.md5 ⟨now, true, true⟩).answers = [] ∧ ∃ n' < n,
      Verifying w ((c.run w.md5 ⟨now, true, true⟩).verified <|> published)
        (c.run w.md5 ⟨now, true, true⟩).common n') ∨
    (∃ err, (c.run w.md5 ⟨now, true, true⟩).answers = [⟨true, err⟩] ∧
      Told w ((c.run w.md5 ⟨now, true, true⟩).verified <|> published) (c.run w.md5 ⟨now, true, true⟩).common) := by
  cases h with
  | checking pos state quiet noError name fileMd5 temp handle sum within =>
    left
    have havailable : c.dataTransfer.available = w.job.size - pos := by
      simp [DataTransfer.available, handle, temp, Job.size]
    rw [MqttCommon.run, if_pos quiet, MqttCommon.checkPass]
    by_cases hleft : 0 < c.dataTransfer.available
    · have hr : c.dataTransfer.runValidityCheck w.md5 ⟨now, true, true⟩ = ⟨{ c.dataTransfer with
          receivedFile := some (.r (pos + min 64 (w.job.size - pos)))
          md5 := w.job.data.take (pos + min 64 (w.job.size - pos)) }, none, none⟩ := by
        have hread : w.job.data.take pos ++ (w.job.data.drop pos).take 64 =
            w.job.data.take (pos + min 64 (w.job.size - pos)) := by
          rw [List.take_add, Job.size, ← List.length_drop, ← List.take_eq_take_min]
        simp [DataTransfer.runValidityCheck, htime, state, hleft, DataTransfer.readChunk, handle, temp, sum,
          DataTransfer.readBufferSize, hread, Job.size]
      rw [hr]
      refine ⟨rfl, _, ?_, .checking _ state quiet noError name fileMd5 temp rfl rfl ?_⟩
      · omega
      · omega
    · have hall : w.job.data.take pos = w.job.data := List.take_of_length_le (by simp only [Job.size] at *; omega)
      have hr : c.dataTransfer.runValidityCheck w.md5 ⟨now, true, true⟩ = ⟨{ c.dataTransfer with
          transferState := .CLEANUP, receivedFile := none, tempFile := none }, some true,
          some (w.job.name, w.job.data)⟩ := by
        simp [DataTransfer.runValidityCheck, htime, state, hleft, DataTransfer.finishCheck, temp, sum, hall,
          fileMd5, name, equalsIgnoreCase]
      rw [hr]
      exact ⟨rfl, 1, by omega, .concluded rfl rfl rfl noError (by simp [CommonResult.verified])⟩
  | concluded state done valid noError real =>
    right
    refine ⟨c.dataTransfer.dataTransferErrState, ?_⟩
    simp only [MqttCommon.run, done, valid, Bool.true_eq_false, if_false, DataTransfer.getErrorCode]
    split
    · exact ⟨rfl, rfl, rfl, rfl, real⟩
    · have hr : DataTransfer.runValidityCheck w.md5 { c.dataTransfer with dataTransferErrState := 0 }
        ⟨now, true, true⟩ =
          DataTransfer.cleanupTransfer { c.dataTransfer with dataTransferErrState := 0 } := by
        simp [DataTransfer.runValidityCheck, DataTransfer.timesOut, state]
      rw [MqttCommon.checkPass, hr]
      exact ⟨rfl, rfl, rfl, rfl, real⟩

end

/-! ## Where an upload is -/

/-- The verdict of a device that has all pieces, still to come or on the way, with the steps until it is taken. -/
inductive VerdictAt (w : UploadSetting) (published : Option (String × List UInt8)) (c : MqttCommon) :
    List Answer → ℕ → LossyKind → Prop
  | pending (n : ℕ) (device : Verifying w published c n) : VerdictAt w published c [] (n + 1) .deviceRun
  | given (err : UInt32) (device : Told w published c) : VerdictAt w published c [⟨⟨true, err⟩, none⟩] 1 .respond

/-- Piece `k` is on the wire, or its answer is. -/
structure BaseTransfer.HasSent (job : Job) (t : BaseTransfer) (k : Nat) : Prop where
  state : t.state = .WAIT_PIECE_ACK
  number : t.pieceNumber = k + 1
  last : t.lastPiece = some (job.pieceAt k)
  left : t.remainingBytes = job.size - 100 * (k + 1)

/-- An upload on its way to success, with the most steps it needs and a kind of event that brings it on. -/
inductive Recovering (w : UploadSetting) (s : LossyUpload) : ℕ → LossyKind → Prop
  | starting (state : s.link.sender.state = .WAIT_START_ACK) (number : s.link.sender.pieceNumber = 0)
      (left : s.link.sender.remainingBytes = w.job.size) (fresh : s.link.sender.resentPiece = none)
      (toDevice : s.link.toDevice = [.start]) (toSender : s.link.toSender = []) (device : w.Takes s.link.device) :
      Recovering w s (10 * w.job.pieces + w.job.size + 11) .deviceMessage
  | started (state : s.link.sender.state = .WAIT_START_ACK) (number : s.link.sender.pieceNumber = 0)
      (left : s.link.sender.remainingBytes = w.job.size) (fresh : s.link.sender.resentPiece = none) (err : UInt32)
      (toDevice : s.link.toDevice = []) (toSender : s.link.toSender = [⟨⟨true, err⟩, some .start⟩])
      (device : Keeping w s.link.device 0) : Recovering w s (10 * w.job.pieces + w.job.size + 10) .respond
  | ready (k : Nat) (state : s.link.sender.state = .SENDING_FW) (number : s.link.sender.pieceNumber = k)
      (left : s.link.sender.remainingBytes = w.job.size - 100 * k) (fresh : s.link.sender.resentPiece = none)
      (toDevice : s.link.toDevice = []) (toSender : s.link.toSender = []) (device : Keeping w s.link.device k) :
      Recovering w s (10 * (w.job.pieces - k) + w.job.size + 9) .act
  | sent (k : Nat) (sender : s.link.sender.HasSent w.job k)
      (toDevice : s.link.toDevice = [.piece (w.job.pieceAt k)]) (toSender : s.link.toSender = [])
      (device : Keeping w s.link.device k ∧ s.link.sender.resentPiece = none ∨
        Keeping w s.link.device (k + 1) ∧ s.link.sender.resentPiece = some k)
      (retries : s.link.sender.pieceRetries + s.toLose k ≤ BaseTransfer.maxPieceRetries) :
      Recovering w s (10 * (w.job.pieces - k) + w.job.size + 2 * s.toLose k + 2) .deviceMessage
  | silent (k : Nat) (sender : s.link.sender.HasSent w.job k) (toDevice : s.link.toDevice = [])
      (toSender : s.link.toSender = []) (device : Keeping w s.link.device (k + 1))
      (retries : s.link.sender.pieceRetries + s.toLose k < BaseTransfer.maxPieceRetries) :
      Recovering w s (10 * (w.job.pieces - k) + w.job.size + 2 * s.toLose k + 3) .act
  | answered (k : Nat) (sender : s.link.sender.HasSent w.job k) (answer : Answer) (toDevice : s.link.toDevice = [])
      (toSender : s.link.toSender = [answer]) (device : Keeping w s.link.device (k + 1))
      (settled : answer.message.ack = true ∧ s.link.sender.resentPiece = none ∨
        answer.message = ⟨false, BaseTransfer.WRONG_FILE_PIECE_NUMBER⟩ ∧ s.link.sender.resentPiece = some k) :
      Recovering w s (10 * (w.job.pieces - k) + w.job.size + 1) .respond
  | lastAnswered (k : Nat) (n : ℕ) (kind : LossyKind) (sender : s.link.sender.HasSent w.job k) (answer : Answer)
      (verdict : List Answer) (last : k + 1 = w.job.pieces) (toDevice : s.link.toDevice = [])
      (toSender : s.link.toSender = answer :: verdict) (acknowledged : answer.message.ack = true)
      (device : VerdictAt w s.link.published s.link.device verdict n kind)
      (kept : s.toLose (w.job.pieces - 1) = 0) :
      Recovering w s (n + 1) .respond
  | checked (n : ℕ) (kind : LossyKind) (state : s.link.sender.state = .WAIT_CHECK_ACK)
    (toDevice : s.link.toDevice = [])
      (device : VerdictAt w s.link.published s.link.device s.link.toSender n kind)
      (kept : s.toLose (w.job.pieces - 1) = 0) : Recovering w s n kind
  | done (kind : LossyKind) (state : s.link.sender.state = .DONE) (toDevice : s.link.toDevice = [])
      (toSender : s.link.toSender = []) (device : Told w s.link.published s.link.device)
      (kept : s.toLose (w.job.pieces - 1) = 0) : Recovering w s 0 kind

/-- The device has all pieces, with the number of acknowledgements it will still publish. -/
inductive AtMost (w : UploadSetting) (published : Option (String × List UInt8)) (c : MqttCommon) : ℕ → Prop
  | one (n : ℕ) (device : Verifying w published c n) : AtMost w published c 1
  | zero (device : Told w published c) : AtMost w published c 0

def acks (answers : List Answer) : ℕ := answers.countP fun a => a.message.ack

/-- An upload that has lost the answer to its last piece: fewer acknowledgements come than the sender waits for. -/
structure Doomed (w : UploadSetting) (s : LossyUpload) : Prop where
  sender : ∃ n, AtMost w s.link.published s.link.device n ∧ (s.link.sender.state = .ERROR ∨
    s.link.sender.state = .WAIT_PIECE_ACK ∧ s.link.sender.remainingBytes = 0 ∧ acks s.link.toSender + n ≤ 1 ∨
    s.link.sender.state = .WAIT_CHECK_ACK ∧ acks s.link.toSender + n = 0)
  repeats : ∀ message ∈ s.link.toDevice, ∃ p, message = .piece p
  refusals : ∀ a ∈ s.link.toSender, a.message.ack = true ∨
    a.message = ⟨false, DataTransferError.BEGIN_NOT_CALLED.code⟩

def Recovering.Next (w : UploadSetting) (s : LossyUpload) (e : LossyEvent) (m : ℕ) (k : LossyKind) : Prop :=
  (s.step w e).toLose (w.job.pieces - 1) = s.toLose (w.job.pieces - 1) ∧
    ((∃ m' < m, ∃ k', Recovering w (s.step w e) m' k') ∨ ((m = 0 ∨ ¬ e.IsOf k) ∧ Recovering w (s.step w e) m k)) ∨
  s.toLose (w.job.pieces - 1) ≠ 0 ∧ Doomed w (s.step w e)

/-! ## Steps of a lossy upload -/

section
variable {w : UploadSetting} {s : LossyUpload}

theorem step_deviceMessage_nil (h : s.link.toDevice = []) (now : UInt32) : s.step w (.deviceMessage now) = s := by
  simp [LossyUpload.step, UploadLink.step, h]

theorem step_respond_nil (h : s.link.toSender = []) : s.step w .respond = s := by
  simp [LossyUpload.step, UploadLink.step, h]

theorem step_act_idle (late : Bool) (h : s.link.sender.processState w.job.size (late && !s.link.answerComes) =
    (s.link.sender, none)) : s.step w (.act late) = s := by
  simp [LossyUpload.step, UploadLink.step, h]

theorem step_deviceRun_silent {now : UInt32} {c : MqttCommon}
    (h : s.link.device.run w.md5 ⟨now, true, true⟩ = ⟨c, [], none, none, none, false⟩) :
    s.step w (.deviceRun now) = { s with link := { s.link with device := c } } := by
  simp [LossyUpload.step, UploadLink.step, UploadLink.afterDevice, h, CommonResult.verified]

theorem step_piece_kept {p : SentPiece} {rest : List SenderMessage} {now : UInt32} {r : CommonResult}
    (hd : s.link.toDevice = .piece p :: rest)
    (hr : s.link.device.messageArrivedCallback w.pioEnv (.succeeding w.freeSpace now) w.fileInUse
      (w.job.payload w.md5 (.piece p)) = r) (hkept : s.toLose p.number = 0) :
    s.step w (.deviceMessage now) =
      { s with link := { s.link with toDevice := rest }.afterDevice r (some (.piece p)) } := by
  simp [LossyUpload.step, UploadLink.step, hd, hr, hkept]

theorem step_piece_lost {p : SentPiece} {rest : List SenderMessage} {now : UInt32} {r : CommonResult}
    (hd : s.link.toDevice = .piece p :: rest)
    (hr : s.link.device.messageArrivedCallback w.pioEnv (.succeeding w.freeSpace now) w.fileInUse
      (w.job.payload w.md5 (.piece p)) = r) (hlost : s.toLose p.number ≠ 0) (hsingle : r.answers.length ≤ 1) :
    s.step w (.deviceMessage now) = ⟨{ s.link with
      toDevice := rest, device := r.common, published := r.verified <|> s.link.published },
      Function.update s.toLose p.number (s.toLose p.number - 1)⟩ := by
  have herase : (s.link.toSender ++ r.answers.map (Answer.mk · (some (.piece p)))).eraseIdx s.link.toSender.length =
      s.link.toSender := by
    rw [List.eraseIdx_append_of_length_le (Nat.le_refl _), Nat.sub_self]
    match hanswers : r.answers, hsingle with
    | [], _ => simp
    | [answer], _ => simp
  simp [LossyUpload.step, UploadLink.step, UploadLink.afterDevice, hd, hr, hlost, herase]

theorem step_start {rest : List SenderMessage} {now : UInt32} {r : CommonResult}
    (hd : s.link.toDevice = .start :: rest)
    (hr : s.link.device.messageArrivedCallback w.pioEnv (.succeeding w.freeSpace now) w.fileInUse
      (w.job.payload w.md5 .start) = r) :
    s.step w (.deviceMessage now) =
      { s with link := { s.link with toDevice := rest }.afterDevice r (some .start) } := by
  simp [LossyUpload.step, UploadLink.step, hd, hr]

theorem step_respond {a : Answer} {rest : List Answer} (hs : s.link.toSender = a :: rest) :
    s.step w .respond =
      { s with link := { s.link with toSender := rest, sender := s.link.sender.processResponse a.message } } := by
  simp [LossyUpload.step, UploadLink.step, hs]

theorem step_act_waiting (late : Bool) (hwait : s.link.sender.state = .WAIT_START_ACK ∨
      s.link.sender.state = .WAIT_PIECE_ACK ∨ s.link.sender.state = .WAIT_CHECK_ACK)
    (hcomes : late = false ∨ s.link.answerComes = true) : s.step w (.act late) = s := by
  apply step_act_idle
  have hexpired : (late && !s.link.answerComes) = false := by rcases hcomes with h | h <;> simp [h]
  rw [hexpired]
  rcases hwait with h | h | h <;> simp [BaseTransfer.processState, h]

theorem step_deviceRun_keeping {m : Nat} {now : UInt32} (h : Keeping w s.link.device m)
    (htime : s.InTime (.deviceRun now)) :
    s.step w (.deviceRun now) = s :=
  step_deviceRun_silent (h.run htime)

namespace Recovering

theorem Next.unchanged {e : LossyEvent} {m : ℕ} {k : LossyKind} (h : Recovering w s m k) (hs : s.step w e = s)
    (hnot : ¬ e.IsOf k) : Next w s e m k :=
  Or.inl ⟨by rw [hs], Or.inr ⟨Or.inr hnot, by rwa [hs]⟩⟩

theorem Next.onward {e : LossyEvent} {m : ℕ} {k : LossyKind} {s' : LossyUpload} (m' : ℕ) (k' : LossyKind)
    (hs : s.step w e = s') (h : Recovering w s' m' k') (hm : m' < m)
    (hlose : s'.toLose (w.job.pieces - 1) = s.toLose (w.job.pieces - 1)) : Next w s e m k :=
  Or.inl ⟨by rw [hs, hlose], Or.inl ⟨m', hm, k', by rwa [hs]⟩⟩

theorem sent_first {k : Nat} (sender : s.link.sender.HasSent w.job k)
    (toDevice : s.link.toDevice = [.piece (w.job.pieceAt k)]) (toSender : s.link.toSender = [])
    (device : Keeping w s.link.device k) (fresh : s.link.sender.resentPiece = none)
    (retries : s.link.sender.pieceRetries + s.toLose k ≤ BaseTransfer.maxPieceRetries) (now : UInt32) :
    Next w s (.deviceMessage now) (10 * (w.job.pieces - k) + w.job.size + 2 * s.toLose k + 2) .deviceMessage := by
  have hmore := device.holding.more
  obtain ⟨c', err, image, hpiece, hnext⟩ := device.next_piece s.link.published now
  replace hpiece := (messageArrivedCallback_piece w s.link.device (.succeeding w.freeSpace now)
    (device.small_piece (Nat.le_refl k))).trans hpiece
  by_cases hlost : s.toLose k = 0
  · have hstep := step_piece_kept toDevice hpiece hlost
    rcases hnext with ⟨hk, rfl, hkeeping⟩ | ⟨hk, n, hn, hverifying⟩
    · refine .onward _ _ hstep (.answered k sender ⟨⟨true, err⟩, some (.piece (w.job.pieceAt k))⟩ rfl ?_ hkeeping
        (Or.inl ⟨rfl, fresh⟩)) (by omega) rfl
      simp [UploadLink.afterDevice, toSender]
    · have hnew : Recovering w (s.step w (.deviceMessage now)) (n + 1 + 1) .respond := by
        rw [hstep]
        refine .lastAnswered k _ _ sender ⟨⟨true, err⟩, some (.piece (w.job.pieceAt k))⟩ [] hk rfl ?_ rfl
          (.pending n hverifying) ?_
        · simp [UploadLink.afterDevice, toSender]
        · rw [← hk]
          exact hlost
      exact .onward _ _ rfl hnew (by omega) (by rw [hstep])
  · have hstep := step_piece_lost toDevice hpiece hlost (Nat.le_refl 1)
    rcases hnext with ⟨hk, rfl, hkeeping⟩ | ⟨hk, n, hn, hverifying⟩
    · refine .onward _ _ hstep (.silent k ⟨sender.state, sender.number, sender.last, sender.left⟩ rfl toSender
        hkeeping ?_)
        ?_ ?_
      · simp only [Job.pieceAt, Function.update_self]
        omega
      · simp only [Job.pieceAt, Function.update_self]
        omega
      · exact Function.update_of_ne (by simp only [Job.pieceAt]; omega) _ _
    · refine Or.inr ⟨by rw [← hk]; exact hlost, ?_⟩
      rw [hstep]
      have hnone : w.job.size - 100 * (k + 1) = 0 := by
        simp only [Job.pieces] at hk
        omega
      exact ⟨⟨1, .one n hverifying, Or.inr
        (Or.inl ⟨sender.state, sender.left.trans hnone, by simp [toSender, acks]⟩)⟩,
        by simp, by simp [toSender]⟩

theorem sent_again {k : Nat} (sender : s.link.sender.HasSent w.job k)
    (toDevice : s.link.toDevice = [.piece (w.job.pieceAt k)]) (toSender : s.link.toSender = [])
    (device : Keeping w s.link.device (k + 1)) (resent : s.link.sender.resentPiece = some k)
    (retries : s.link.sender.pieceRetries + s.toLose k ≤ BaseTransfer.maxPieceRetries) (now : UInt32) :
    Next w s (.deviceMessage now) (10 * (w.job.pieces - k) + w.job.size + 2 * s.toLose k + 2) .deviceMessage := by
  have hmore := device.holding.more
  have hpiece := device.old_piece (Nat.lt_succ_self k) (CommonIo.succeeding w.freeSpace now).store
  replace hpiece := (messageArrivedCallback_piece w s.link.device (.succeeding w.freeSpace now)
    (device.small_piece (Nat.le_succ k))).trans hpiece
  by_cases hlost : s.toLose k = 0
  · refine .onward _ _ (step_piece_kept toDevice hpiece hlost) (.answered k sender
      ⟨⟨false, BaseTransfer.WRONG_FILE_PIECE_NUMBER⟩, some (.piece (w.job.pieceAt k))⟩ rfl ?_ device
      (Or.inr ⟨rfl, resent⟩)) (by omega) rfl
    simp [UploadLink.afterDevice, toSender]
  · refine .onward _ _ (step_piece_lost toDevice hpiece hlost (Nat.le_refl 1)) (.silent k
      ⟨sender.state, sender.number, sender.last, sender.left⟩ rfl toSender device ?_) ?_ ?_
    · simp only [Job.pieceAt, Function.update_self]
      omega
    · simp only [Job.pieceAt, Function.update_self]
      omega
    · exact Function.update_of_ne (by simp only [Job.pieceAt]; omega) _ _

theorem answerComes_of_toDevice {message : SenderMessage} (h : s.link.toDevice = [message]) :
    s.link.answerComes = true := by
  simp [UploadLink.answerComes, h]

theorem answerComes_of_toSender {a : Answer} {rest : List Answer} (h : s.link.toSender = a :: rest) :
    s.link.answerComes = true := by
  simp [UploadLink.answerComes, h]

theorem starting_next (e : LossyEvent) (state : s.link.sender.state = .WAIT_START_ACK)
    (number : s.link.sender.pieceNumber = 0) (left : s.link.sender.remainingBytes = w.job.size)
    (fresh : s.link.sender.resentPiece = none) (toDevice : s.link.toDevice = [.start])
    (toSender : s.link.toSender = [])
    (device : w.Takes s.link.device) : Next w s e (10 * w.job.pieces + w.job.size + 11) .deviceMessage := by
  have h := Recovering.starting state number left fresh toDevice toSender device
  cases e with
  | deviceMessage now =>
    obtain ⟨c, err, hr, hkeeping⟩ := device.start now
    refine .onward _ _ (step_start toDevice hr) (.started state number left fresh err rfl ?_ hkeeping)
      (by omega) rfl
    simp [UploadLink.afterDevice, toSender]
  | deviceRun now =>
    obtain ⟨c, hr, htakes⟩ := device.run ⟨now, true, true⟩
    refine Or.inl ⟨by rw [step_deviceRun_silent hr], Or.inr ⟨Or.inr (by simp [LossyEvent.IsOf]), ?_⟩⟩
    rw [step_deviceRun_silent hr]
    exact .starting state number left fresh toDevice toSender htakes
  | respond => exact .unchanged h (step_respond_nil toSender) (by simp [LossyEvent.IsOf])
  | act late =>
    exact .unchanged h (step_act_waiting late (Or.inl state) (Or.inr (answerComes_of_toDevice toDevice)))
      (by cases late <;> simp [LossyEvent.IsOf])

theorem started_next (e : LossyEvent) (htime : s.InTime e) (state : s.link.sender.state = .WAIT_START_ACK)
    (number : s.link.sender.pieceNumber = 0) (left : s.link.sender.remainingBytes = w.job.size)
    (fresh : s.link.sender.resentPiece = none) (err : UInt32) (toDevice : s.link.toDevice = [])
    (toSender : s.link.toSender = [⟨⟨true, err⟩, some .start⟩]) (device : Keeping w s.link.device 0) :
    Next w s e (10 * w.job.pieces + w.job.size + 10) .respond := by
  have h := Recovering.started state number left fresh err toDevice toSender device
  cases e with
  | deviceMessage now => exact .unchanged h (step_deviceMessage_nil toDevice now) (by simp [LossyEvent.IsOf])
  | deviceRun now => exact .unchanged h (step_deviceRun_keeping device htime) (by simp [LossyEvent.IsOf])
  | respond =>
    have hsender : s.link.sender.processResponse ⟨true, err⟩ = { s.link.sender with state := .SENDING_FW } := by
      simp [BaseTransfer.processResponse, state]
    refine .onward _ _ (step_respond toSender) (.ready 0 ?_ ?_ ?_ ?_ toDevice rfl device) (by omega) rfl
    all_goals simp [hsender, number, left, fresh]
  | act late =>
    exact .unchanged h (step_act_waiting late (Or.inl state) (Or.inr (answerComes_of_toSender toSender)))
      (by cases late <;> simp [LossyEvent.IsOf])

theorem ready_next (e : LossyEvent) (htime : s.InTime e) (hlosses : ∀ k, s.toLose k ≤ BaseTransfer.maxPieceRetries)
    (k : Nat)
    (state : s.link.sender.state = .SENDING_FW) (number : s.link.sender.pieceNumber = k)
    (left : s.link.sender.remainingBytes = w.job.size - 100 * k) (fresh : s.link.sender.resentPiece = none)
    (toDevice : s.link.toDevice = []) (toSender : s.link.toSender = []) (device : Keeping w s.link.device k) :
    Next w s e (10 * (w.job.pieces - k) + w.job.size + 9) .act := by
  have h := Recovering.ready k state number left fresh toDevice toSender device
  cases e with
  | deviceMessage now => exact .unchanged h (step_deviceMessage_nil toDevice now) (by simp [LossyEvent.IsOf])
  | deviceRun now => exact .unchanged h (step_deviceRun_keeping device htime) (by simp [LossyEvent.IsOf])
  | respond => exact .unchanged h (step_respond_nil toSender) (by simp [LossyEvent.IsOf])
  | act late =>
    have hmore := device.holding.more
    have hfew := hlosses k
    have hbytes : 0 < w.job.size - 100 * k := by
      simp only [Job.pieces] at hmore
      omega
    have hpiece : (⟨k, w.job.size - (w.job.size - 100 * k),
      min (w.job.size - 100 * k) BaseTransfer.pieceSize⟩ : SentPiece) =
        w.job.pieceAt k := by
      simp only [Job.pieceAt, BaseTransfer.pieceSize, SentPiece.mk.injEq, true_and, and_true]
      omega
    have hact : ∀ expired, s.link.sender.processState w.job.size expired = ({ s.link.sender with
        state := .WAIT_PIECE_ACK, resentPiece := none, lastPiece := some (w.job.pieceAt k), pieceRetries := 0,
        pieceNumber := k + 1, remainingBytes := w.job.size - 100 * (k + 1) }, some (.piece (w.job.pieceAt k))) := by
      intro expired
      have hleft : w.job.size - 100 * k - min (w.job.size - 100 * k) 100 = w.job.size - 100 * (k + 1) := by omega
      simp only [BaseTransfer.processState, state, left, hbytes, if_true, BaseTransfer.sendPiece,
        BaseTransfer.publishPiece, number, fresh, Option.filter_none, hpiece]
      simp only [Job.pieceAt, BaseTransfer.pieceSize, hleft]
    have hstep : s.step w (.act late) = { s with link := { s.link with
        sender := { s.link.sender with
          state := .WAIT_PIECE_ACK, resentPiece := none, lastPiece := some (w.job.pieceAt k), pieceRetries := 0,
          pieceNumber := k + 1, remainingBytes := w.job.size - 100 * (k + 1) }
        toDevice := [.piece (w.job.pieceAt k)] } } := by
      simp [LossyUpload.step, UploadLink.step, hact, toDevice]
    refine .onward _ _ hstep (.sent k ⟨rfl, rfl, rfl, rfl⟩ rfl toSender (Or.inl ⟨device, rfl⟩) ?_) ?_ rfl
    · simpa using hfew
    · change 10 * (w.job.pieces - k) + w.job.size + 2 * s.toLose k + 2 < _
      simp only [BaseTransfer.maxPieceRetries] at hfew
      omega

theorem sent_next (e : LossyEvent) (htime : s.InTime e) (k : Nat) (sender : s.link.sender.HasSent w.job k)
    (toDevice : s.link.toDevice = [.piece (w.job.pieceAt k)]) (toSender : s.link.toSender = [])
    (device : Keeping w s.link.device k ∧ s.link.sender.resentPiece = none ∨
      Keeping w s.link.device (k + 1) ∧ s.link.sender.resentPiece = some k)
    (retries : s.link.sender.pieceRetries + s.toLose k ≤ BaseTransfer.maxPieceRetries) :
    Next w s e (10 * (w.job.pieces - k) + w.job.size + 2 * s.toLose k + 2) .deviceMessage := by
  have h := Recovering.sent k sender toDevice toSender device retries
  cases e with
  | deviceMessage now =>
    rcases device with ⟨device, fresh⟩ | ⟨device, resent⟩
    · exact sent_first sender toDevice toSender device fresh retries now
    · exact sent_again sender toDevice toSender device resent retries now
  | deviceRun now =>
    have hstep : s.step w (.deviceRun now) = s := by
      rcases device with ⟨device, -⟩ | ⟨device, -⟩ <;> exact step_deviceRun_keeping device htime
    exact .unchanged h hstep (by simp [LossyEvent.IsOf])
  | respond => exact .unchanged h (step_respond_nil toSender) (by simp [LossyEvent.IsOf])
  | act late =>
    exact .unchanged h
      (step_act_waiting late (Or.inr (Or.inl sender.state)) (Or.inr (answerComes_of_toDevice toDevice)))
      (by cases late <;> simp [LossyEvent.IsOf])

theorem silent_next (e : LossyEvent) (htime : s.InTime e) (k : Nat) (sender : s.link.sender.HasSent w.job k)
    (toDevice : s.link.toDevice = []) (toSender : s.link.toSender = []) (device : Keeping w s.link.device (k + 1))
    (retries : s.link.sender.pieceRetries + s.toLose k < BaseTransfer.maxPieceRetries) :
    Next w s e (10 * (w.job.pieces - k) + w.job.size + 2 * s.toLose k + 3) .act := by
  have h := Recovering.silent k sender toDevice toSender device retries
  cases e with
  | deviceMessage now => exact .unchanged h (step_deviceMessage_nil toDevice now) (by simp [LossyEvent.IsOf])
  | deviceRun now => exact .unchanged h (step_deviceRun_keeping device htime) (by simp [LossyEvent.IsOf])
  | respond => exact .unchanged h (step_respond_nil toSender) (by simp [LossyEvent.IsOf])
  | act late =>
    cases late with
    | false =>
      exact .unchanged h (step_act_waiting false (Or.inr (Or.inl sender.state)) (Or.inl rfl))
        (by simp [LossyEvent.IsOf])
    | true =>
      have hagain : s.link.sender.pieceRetries < BaseTransfer.maxPieceRetries := by omega
      have hcomes : s.link.answerComes = false := by
        simp [UploadLink.answerComes, MqttCommon.verdictComes, toDevice, toSender, device.quiet,
          device.holding.state]
      have hact : s.link.sender.processState w.job.size true = ({ s.link.sender with
          pieceRetries := s.link.sender.pieceRetries + 1, resentPiece := some k },
            some (.piece (w.job.pieceAt k))) := by
        have hpiece : (w.job.pieceAt k).number = k := rfl
        have hstate := sender.state
        have hlast := sender.last
        generalize s.link.sender = t at *
        obtain ⟨state, pieceNumber, remainingBytes, lastPiece, pieceRetries, resentPiece⟩ := t
        simp only at hstate hlast hagain
        subst hstate hlast
        simp [BaseTransfer.processState, hagain, BaseTransfer.publishPiece, hpiece]
      have hstep : s.step w (.act true) = { s with link := { s.link with
          sender := { s.link.sender with pieceRetries := s.link.sender.pieceRetries + 1, resentPiece := some k }
          toDevice := [.piece (w.job.pieceAt k)] } } := by
        simp [LossyUpload.step, UploadLink.step, hcomes, hact, toDevice]
      refine .onward _ _ hstep (.sent k ⟨sender.state, sender.number, sender.last, sender.left⟩ rfl toSender
        (Or.inr ⟨device, rfl⟩) ?_) (Nat.lt_succ_self _) rfl
      change s.link.sender.pieceRetries + 1 + s.toLose k ≤ _
      omega

theorem answered_next (e : LossyEvent) (htime : s.InTime e) (k : Nat) (sender : s.link.sender.HasSent w.job k)
    (answer : Answer) (toDevice : s.link.toDevice = []) (toSender : s.link.toSender = [answer])
    (device : Keeping w s.link.device (k + 1))
    (settled : answer.message.ack = true ∧ s.link.sender.resentPiece = none ∨
      answer.message = ⟨false, BaseTransfer.WRONG_FILE_PIECE_NUMBER⟩ ∧ s.link.sender.resentPiece = some k) :
    Next w s e (10 * (w.job.pieces - k) + w.job.size + 1) .respond := by
  have h := Recovering.answered k sender answer toDevice toSender device settled
  cases e with
  | deviceMessage now => exact .unchanged h (step_deviceMessage_nil toDevice now) (by simp [LossyEvent.IsOf])
  | deviceRun now => exact .unchanged h (step_deviceRun_keeping device htime) (by simp [LossyEvent.IsOf])
  | respond =>
    have hmore := device.holding.more
    have hbytes : 0 < s.link.sender.remainingBytes := by
      rw [sender.left]
      simp only [Job.pieces] at hmore
      omega
    have hresponse : s.link.sender.processResponse answer.message =
        { s.link.sender with state := .SENDING_FW, pieceRetries := 0, resentPiece := none } := by
      rcases settled with ⟨hack, hfresh⟩ | ⟨hrefusal, hresent⟩
      · simp [BaseTransfer.processResponse, sender.state, hack, BaseTransfer.advanceAfterPiece, hbytes, hfresh]
      · have hnumber : (w.job.pieceAt k).number = k := rfl
        simp [BaseTransfer.processResponse, BaseTransfer.confirmsThePieceInFlight, BaseTransfer.answersARepeat,
          sender.state, sender.last, hrefusal, hresent, hnumber, BaseTransfer.advanceAfterPiece, hbytes]
    refine .onward _ _ (step_respond toSender) (.ready (k + 1) ?_ ?_ ?_ ?_ toDevice rfl device) (by omega) rfl
    all_goals simp [hresponse, sender.number, sender.left]
  | act late =>
    exact .unchanged h
      (step_act_waiting late (Or.inr (Or.inl sender.state)) (Or.inr (answerComes_of_toSender toSender)))
      (by cases late <;> simp [LossyEvent.IsOf])

end Recovering

/-- A pass of a device that has all pieces brings its verdict on, or has nothing to add. -/
theorem VerdictAt.run {published : Option (String × List UInt8)} {c : MqttCommon} {verdict : List Answer} {n : ℕ}
    {kind : LossyKind} (h : VerdictAt w published c verdict n kind) {now : UInt32}
    (htime : c.dataTransfer.timesOut now = false) :
    ∃ n' kind', (n' < n ∨ n' = n ∧ kind' = kind ∧ kind = .respond) ∧
      VerdictAt w ((c.run w.md5 ⟨now, true, true⟩).verified <|> published) (c.run w.md5 ⟨now, true, true⟩).common
        (verdict ++ (c.run w.md5 ⟨now, true, true⟩).answers.map (⟨·, none⟩)) n' kind' := by
  cases h with
  | pending n device =>
    rcases device.run htime with ⟨hanswers, n', hn', hverifying⟩ | ⟨err, hanswers, htold⟩
    · refine ⟨n' + 1, .deviceRun, Or.inl (by omega), ?_⟩
      rw [hanswers]
      exact .pending n' hverifying
    · refine ⟨1, .respond, Or.inl ?_, ?_⟩
      · cases device <;> omega
      · rw [hanswers]
        exact .given err htold
  | given err device =>
    obtain ⟨c', hr, htold⟩ := device.run ⟨now, true, true⟩
    rw [hr]
    exact ⟨1, .respond, Or.inr ⟨rfl, rfl, rfl⟩, .given err htold⟩

theorem VerdictAt.kind_eq {published : Option (String × List UInt8)} {c : MqttCommon} {verdict : List Answer}
    {n : ℕ}
    {kind : LossyKind} (h : VerdictAt w published c verdict n kind) : kind = .deviceRun ∨ kind = .respond := by
  cases h with
  | pending => exact Or.inl rfl
  | given => exact Or.inr rfl

theorem VerdictAt.pos {published : Option (String × List UInt8)} {c : MqttCommon} {verdict : List Answer} {n : ℕ}
    {kind : LossyKind} (h : VerdictAt w published c verdict n kind) : 0 < n := by
  cases h <;> omega

theorem VerdictAt.answerComes {n : ℕ} {kind : LossyKind}
    (h : VerdictAt w s.link.published s.link.device s.link.toSender n kind) : s.link.answerComes = true := by
  generalize hverdict : s.link.toSender = verdict at h
  cases h with
  | pending n device =>
    cases device with
    | checking pos hstate => simp [UploadLink.answerComes, MqttCommon.verdictComes, hstate]
    | concluded hstate done => simp [UploadLink.answerComes, MqttCommon.verdictComes, done]
  | given err device => exact Recovering.answerComes_of_toSender hverdict

namespace Recovering

theorem lastAnswered_next (e : LossyEvent) (htime : s.InTime e) (k : Nat) (n : ℕ) (kind : LossyKind)
    (sender : s.link.sender.HasSent w.job k) (answer : Answer) (verdict : List Answer) (last : k + 1 = w.job.pieces)
    (toDevice : s.link.toDevice = []) (toSender : s.link.toSender = answer :: verdict)
    (acknowledged : answer.message.ack = true) (device : VerdictAt w s.link.published s.link.device verdict n kind)
    (kept : s.toLose (w.job.pieces - 1) = 0) : Next w s e (n + 1) .respond := by
  have h := Recovering.lastAnswered k n kind sender answer verdict last toDevice toSender acknowledged device kept
  cases e with
  | deviceMessage now => exact .unchanged h (step_deviceMessage_nil toDevice now) (by simp [LossyEvent.IsOf])
  | deviceRun now =>
    obtain ⟨n', kind', hn', hverdict⟩ := device.run htime
    have hnew : Recovering w (s.step w (.deviceRun now)) (n' + 1) .respond := by
      refine .lastAnswered k n' kind' sender answer _ last toDevice ?_ acknowledged hverdict kept
      simp [LossyUpload.step, UploadLink.step, UploadLink.afterDevice, toSender]
    rcases hn' with hn' | ⟨rfl, -, -⟩
    · exact .onward _ _ rfl hnew (by omega) rfl
    · exact Or.inl ⟨rfl, Or.inr ⟨Or.inr (by simp [LossyEvent.IsOf]), hnew⟩⟩
  | respond =>
    have hnone : s.link.sender.remainingBytes = 0 := by
      rw [sender.left]
      simp only [Job.pieces] at last
      omega
    refine .onward _ _ (step_respond toSender) (.checked n kind ?_ toDevice device kept) (by omega) rfl
    simp [BaseTransfer.processResponse, sender.state, acknowledged, BaseTransfer.advanceAfterPiece, hnone,
      BaseTransfer.finishSending]
  | act late =>
    exact .unchanged h
      (step_act_waiting late (Or.inr (Or.inl sender.state)) (Or.inr (answerComes_of_toSender toSender)))
      (by cases late <;> simp [LossyEvent.IsOf])

theorem checked_next (e : LossyEvent) (htime : s.InTime e) (n : ℕ) (kind : LossyKind)
    (state : s.link.sender.state = .WAIT_CHECK_ACK) (toDevice : s.link.toDevice = [])
    (device : VerdictAt w s.link.published s.link.device s.link.toSender n kind)
    (kept : s.toLose (w.job.pieces - 1) = 0) : Next w s e n kind := by
  have h := Recovering.checked n kind state toDevice device kept
  cases e with
  | deviceMessage now =>
    exact .unchanged h (step_deviceMessage_nil toDevice now)
      (by rcases device.kind_eq with rfl | rfl <;> simp [LossyEvent.IsOf])
  | deviceRun now =>
    obtain ⟨n', kind', hn', hverdict⟩ := device.run htime
    have hnew : Recovering w (s.step w (.deviceRun now)) n' kind' := .checked n' kind' state toDevice hverdict kept
    rcases hn' with hn' | ⟨rfl, rfl, rfl⟩
    · exact .onward _ _ rfl hnew hn' rfl
    · exact Or.inl ⟨rfl, Or.inr ⟨Or.inr (by simp [LossyEvent.IsOf]), hnew⟩⟩
  | respond =>
    generalize hverdict : s.link.toSender = verdict at device
    cases device with
    | pending n device => exact .unchanged h (step_respond_nil hverdict) (by simp [LossyEvent.IsOf])
    | given err device =>
      refine .onward 0 .respond (step_respond hverdict) (.done .respond ?_ toDevice rfl device kept) (by omega) rfl
      simp [BaseTransfer.processResponse, BaseTransfer.confirmsThePieceInFlight, state]
  | act late =>
    exact .unchanged h (step_act_waiting late (Or.inr (Or.inr state)) (Or.inr device.answerComes))
      (by rcases device.kind_eq with rfl | rfl <;> cases late <;> simp [LossyEvent.IsOf])

theorem done_next (e : LossyEvent) (kind : LossyKind) (state : s.link.sender.state = .DONE)
    (toDevice : s.link.toDevice = [])
    (toSender : s.link.toSender = []) (device : Told w s.link.published s.link.device)
    (kept : s.toLose (w.job.pieces - 1) = 0) : Next w s e 0 kind := by
  have hsame : s.step w e = s → Next w s e 0 kind := fun hs =>
    Or.inl ⟨by rw [hs], Or.inr ⟨Or.inl rfl, by rw [hs]; exact .done kind state toDevice toSender device kept⟩⟩
  cases e with
  | deviceMessage now => exact hsame (step_deviceMessage_nil toDevice now)
  | deviceRun now =>
    obtain ⟨c, hr, htold⟩ := device.run ⟨now, true, true⟩
    refine Or.inl ⟨by rw [step_deviceRun_silent hr], Or.inr ⟨Or.inl rfl, ?_⟩⟩
    rw [step_deviceRun_silent hr]
    exact .done kind state toDevice toSender htold kept
  | respond => exact hsame (step_respond_nil toSender)
  | act late => exact hsame (step_act_idle late (by simp [BaseTransfer.processState, state]))

theorem next {m : ℕ} {k : LossyKind} (h : Recovering w s m k)
    (hlosses : ∀ k, s.toLose k ≤ BaseTransfer.maxPieceRetries) {e : LossyEvent}
    (htime : s.InTime e) : Next w s e m k := by
  cases h with
  | starting state number left fresh toDevice toSender device =>
    exact starting_next e state number left fresh toDevice toSender device
  | started state number left fresh err toDevice toSender device =>
    exact started_next e htime state number left fresh err toDevice toSender device
  | ready k state number left fresh toDevice toSender device =>
    exact ready_next e htime hlosses k state number left fresh toDevice toSender device
  | sent k sender toDevice toSender device retries =>
    exact sent_next e htime k sender toDevice toSender device retries
  | silent k sender toDevice toSender device retries =>
    exact silent_next e htime k sender toDevice toSender device retries
  | answered k sender answer toDevice toSender device settled =>
    exact answered_next e htime k sender answer toDevice toSender device settled
  | lastAnswered k n kind sender answer verdict last toDevice toSender acknowledged device kept =>
    exact lastAnswered_next e htime k n kind sender answer verdict last toDevice toSender acknowledged device kept
  | checked n kind state toDevice device kept => exact checked_next e htime m k state toDevice device kept
  | done kind state toDevice toSender device kept => exact done_next e k state toDevice toSender device kept

theorem not_failed {m : ℕ} {k : LossyKind} (h : Recovering w s m k) : s.link.sender.state ≠ .ERROR := by
  cases h with
  | starting state | started state | ready _ state | checked _ _ state | done _ state => rw [state]; decide
  | sent _ sender | silent _ sender | answered _ sender | lastAnswered _ _ _ sender => rw [sender.state]; decide

theorem of_end {m : ℕ} {k : LossyKind} (h : Recovering w s m k) (hm : m = 0) :
    s.link.sender.state = .DONE ∧ s.link.published = some (w.job.name, w.job.data) := by
  cases h with
  | done _ state _ _ device => exact ⟨state, device.real⟩
  | checked _ _ _ _ device => exact absurd hm (Nat.ne_of_gt device.pos)
  | _ => omega

theorem kept_of_done {m : ℕ} {k : LossyKind} (h : Recovering w s m k) (hdone : s.link.sender.state = .DONE) :
    s.toLose (w.job.pieces - 1) = 0 := by
  cases h with
  | starting state | started state | ready _ state | checked _ _ state => rw [state] at hdone; cases hdone
  | sent _ sender | silent _ sender | answered _ sender | lastAnswered _ _ _ sender =>
    rw [sender.state] at hdone; cases hdone
  | done _ _ _ _ _ kept => exact kept

end Recovering

/-! ## After the answer to the last piece is lost -/

theorem AtMost.not_storing {published : Option (String × List UInt8)} {c : MqttCommon} {n : ℕ}
    (h : AtMost w published c n) :
    c.dataTransfer.transferState ≠ .STORING ∧ c.dataTransfer.dataTransferErrState = 0 := by
  cases h with
  | one n device =>
    cases device with
    | checking _ state _ noError => exact ⟨by simp [state], noError⟩
    | concluded state _ _ noError => exact ⟨by simp [state], noError⟩
  | zero device => exact ⟨by simp [device.idle], device.noError⟩

theorem AtMost.piece {published : Option (String × List UInt8)} {c : MqttCommon} {n : ℕ}
    (h : AtMost w published c n)
    (io : CommonIo) (p : SentPiece) : ∃ answers : List ResultMessage,
      c.messageArrivedCallback w.pioEnv io w.fileInUse (w.job.payload w.md5 (.piece p)) =
        ⟨c, answers, none, none, none, false⟩ ∧
      (answers = [] ∨ answers = [⟨false, DataTransferError.BEGIN_NOT_CALLED.code⟩]) := by
  simp only [MqttCommon.messageArrivedCallback, Job.payload, Job.jsonUInt32]
  split
  · rename_i hpiece hdata
    rw [handlePiece_not_storing h.not_storing.1 h.not_storing.2]
    exact ⟨_, rfl, Or.inr rfl⟩
  · exact ⟨[], rfl, Or.inl rfl⟩

theorem acks_append_refusals {answers : List Answer} {more : List ResultMessage} {about : Option SenderMessage}
    (h : more = [] ∨ more = [⟨false, DataTransferError.BEGIN_NOT_CALLED.code⟩]) :
    acks (answers ++ more.map (⟨·, about⟩)) = acks answers := by
  rcases h with rfl | rfl <;> simp [acks]

namespace Doomed

theorem of_piece (h : Doomed w s) {p : SentPiece} {rest : List SenderMessage}
    (hd : s.link.toDevice = .piece p :: rest)
    (now : UInt32) : Doomed w (s.step w (.deviceMessage now)) := by
  obtain ⟨n, hcoming, hsender⟩ := h.sender
  obtain ⟨answers, hr, hanswers⟩ := hcoming.piece (.succeeding w.freeSpace now) p
  have hrest : ∀ message ∈ rest, ∃ p, message = .piece p := fun message hm =>
    h.repeats message (by rw [hd]; exact List.mem_cons_of_mem _ hm)
  by_cases hlost : s.toLose p.number = 0
  · rw [step_piece_kept hd hr hlost]
    refine ⟨⟨n, hcoming, ?_⟩, hrest, fun a ha => ?_⟩
    · simp only [UploadLink.afterDevice, acks_append_refusals hanswers]
      exact hsender
    · rcases List.mem_append.mp ha with ha | ha
      · exact h.refusals a ha
      · obtain ⟨message, hm, rfl⟩ := List.mem_map.mp ha
        rcases hanswers with hnone | hone
        · rw [hnone] at hm; cases hm
        · rw [hone, List.mem_singleton] at hm
          exact Or.inr hm
  · rw [step_piece_lost hd hr hlost (by rcases hanswers with h | h <;> simp [h])]
    exact ⟨⟨n, hcoming, hsender⟩, hrest, h.refusals⟩

theorem of_pass (h : Doomed w s) {now : UInt32} (htime : s.InTime (.deviceRun now)) :
    Doomed w (s.step w (.deviceRun now)) := by
  obtain ⟨n, hcoming, hsender⟩ := h.sender
  cases hcoming with
  | zero device =>
    obtain ⟨c, hr, htold⟩ := device.run ⟨now, true, true⟩
    rw [step_deviceRun_silent hr]
    exact ⟨⟨0, .zero htold, hsender⟩, h.repeats, h.refusals⟩
  | one n device =>
    rcases device.run htime with ⟨hanswers, n', -, hverifying⟩ | ⟨err, hanswers, htold⟩
    · refine ⟨⟨1, .one n' hverifying, ?_⟩, h.repeats, ?_⟩
      · simpa [LossyUpload.step, UploadLink.step, UploadLink.afterDevice, hanswers] using hsender
      · simpa [LossyUpload.step, UploadLink.step, UploadLink.afterDevice, hanswers] using h.refusals
    · refine ⟨⟨0, .zero htold, ?_⟩, h.repeats, ?_⟩
      · have hone : acks (s.link.toSender ++ [⟨⟨true, err⟩, none⟩]) = acks s.link.toSender + 1 := by simp [acks]
        simpa [LossyUpload.step, UploadLink.step, UploadLink.afterDevice, hanswers, hone] using hsender
      · simp only [LossyUpload.step, UploadLink.step, UploadLink.afterDevice, hanswers, List.map_cons, List.map_nil]
        intro a ha
        rcases List.mem_append.mp ha with ha | ha
        · exact h.refusals a ha
        · rw [List.mem_singleton] at ha
          exact Or.inl (by rw [ha])

theorem of_answer (h : Doomed w s) {a : Answer} {rest : List Answer} (hs : s.link.toSender = a :: rest) :
    Doomed w (s.step w .respond) := by
  obtain ⟨n, hcoming, hsender⟩ := h.sender
  have hrest : ∀ b ∈ rest, b.message.ack = true ∨ b.message = ⟨false, DataTransferError.BEGIN_NOT_CALLED.code⟩ :=
    fun b hb => h.refusals b (by rw [hs]; exact List.mem_cons_of_mem _ hb)
  rw [step_respond hs]
  rw [hs] at hsender
  refine ⟨⟨n, hcoming, ?_⟩, h.repeats, hrest⟩
  simp only
  rcases h.refusals a (by rw [hs]; exact List.mem_cons_self) with hack | hrefusal
  · have hacks : acks (a :: rest) = acks rest + 1 := by simp [acks, hack]
    rw [hacks] at hsender
    rcases hsender with hstate | ⟨hstate, hnone, hfew⟩ | ⟨-, hfew⟩
    · left
      simp [BaseTransfer.processResponse, BaseTransfer.confirmsThePieceInFlight, BaseTransfer.answersARepeat,
        hstate, hack]
    · right; right
      refine ⟨?_, by omega⟩
      simp [BaseTransfer.processResponse, hstate, hack, BaseTransfer.advanceAfterPiece, hnone,
        BaseTransfer.finishSending]
    · omega
  · left
    have hcode : (DataTransferError.BEGIN_NOT_CALLED.code == BaseTransfer.WRONG_FILE_PIECE_NUMBER) = false := by
      decide
    simp [BaseTransfer.processResponse, BaseTransfer.confirmsThePieceInFlight, BaseTransfer.answersARepeat,
      hrefusal, hcode]

theorem of_act (h : Doomed w s) (late : Bool) : Doomed w (s.step w (.act late)) := by
  obtain ⟨n, hcoming, hsender⟩ := h.sender
  simp only [LossyUpload.step, UploadLink.step]
  generalize (late && !s.link.answerComes) = expired
  have hact : ((s.link.sender.processState w.job.size expired).1.state = .ERROR ∨
      (s.link.sender.processState w.job.size expired).1.state = s.link.sender.state ∧
      (s.link.sender.processState w.job.size expired).1.remainingBytes = s.link.sender.remainingBytes) ∧
      ∀ message ∈ (s.link.sender.processState w.job.size expired).2, ∃ p, message = .piece p := by
    unfold BaseTransfer.processState
    rcases hsender with hstate | ⟨hstate, -, -⟩ | ⟨hstate, -⟩
    · simp [hstate]
    · simp only [hstate]
      split
      · simp [hstate]
      · split
        · split <;> simp [BaseTransfer.publishPiece]
        · simp
    · simp only [hstate]
      split
      · simp [hstate]
      · split
        · rw [if_neg (by simp)]
          simp
        · simp
  generalize s.link.sender.processState w.job.size expired = r at hact
  refine ⟨⟨n, hcoming, ?_⟩, fun message hm => ?_, h.refusals⟩
  · rcases hact.1 with herror | ⟨hstate, hleft⟩
    · exact Or.inl herror
    · simp only [hstate, hleft]
      exact hsender
  · rcases List.mem_append.mp hm with hm | hm
    · exact h.repeats message hm
    · exact hact.2 message (by simpa using hm)

theorem step (h : Doomed w s) {e : LossyEvent} (htime : s.InTime e) : Doomed w (s.step w e) := by
  cases e with
  | deviceMessage now =>
    cases hd : s.link.toDevice with
    | nil => rwa [step_deviceMessage_nil hd]
    | cons message rest =>
      obtain ⟨p, rfl⟩ := h.repeats message (by rw [hd]; exact List.mem_cons_self)
      exact h.of_piece hd now
  | deviceRun now => exact h.of_pass htime
  | respond =>
    cases hs : s.link.toSender with
    | nil => rwa [step_respond_nil hs]
    | cons a rest => exact h.of_answer hs
  | act late => exact h.of_act late

theorem not_done (h : Doomed w s) : s.link.sender.state ≠ .DONE := by
  obtain ⟨n, -, hstate | ⟨hstate, -⟩ | ⟨hstate, -⟩⟩ := h.sender <;> rw [hstate] <;> decide

end Doomed

/-! ## Runs -/

theorem toLose_step_le (e : LossyEvent) (k : Nat) : (s.step w e).toLose k ≤ s.toLose k := by
  cases e with
  | deviceMessage now =>
    simp only [LossyUpload.step]
    split
    · rename_i p _ _
      split
      · exact Nat.le_refl _
      · by_cases hk : k = p.number
        · subst hk
          simp
        · simp [Function.update_of_ne hk]
    · exact Nat.le_refl _
  | deviceRun now | respond | act late => exact Nat.le_refl _

theorem Recovering.init {device : MqttCommon} (h : w.Takes device) (lost : Nat → Nat) :
    Recovering w (LossyUpload.init w device lost) (10 * w.job.pieces + w.job.size + 11) .deviceMessage :=
  .starting rfl rfl rfl rfl rfl rfl h

/-- No more answers to a piece are lost than it has repeats, and none to the last piece. -/
structure FewLost (w : UploadSetting) (s : LossyUpload) : Prop where
  few : ∀ k, s.toLose k ≤ BaseTransfer.maxPieceRetries
  last : s.toLose (w.job.pieces - 1) = 0

theorem FewLost.step (h : FewLost w s) (e : LossyEvent) : FewLost w (s.step w e) :=
  ⟨fun k => (toLose_step_le e k).trans (h.few k), Nat.eq_zero_of_le_zero (h.last ▸ toLose_step_le e _)⟩

theorem approaches_success (w : UploadSetting) : Approaches (LossyUpload.step w) LossyUpload.InTime LossyEvent.IsOf
    (fun s m k => Recovering w s m k ∧ FewLost w s) := by
  rintro s e m k ⟨h, hfew⟩ htime
  rcases h.next hfew.few htime with ⟨-, ⟨m', hm', k', h'⟩ | ⟨hnot, h'⟩⟩ | ⟨hlost, -⟩
  · exact Or.inl ⟨m', hm', k', h', hfew.step e⟩
  · exact Or.inr ⟨hnot, h', hfew.step e⟩
  · exact absurd hfew.last hlost

def NeverDone (w : UploadSetting) (s : LossyUpload) : Prop :=
  (∀ k, s.toLose k ≤ BaseTransfer.maxPieceRetries) ∧
    (Doomed w s ∨ s.toLose (w.job.pieces - 1) ≠ 0 ∧ ∃ m k, Recovering w s m k)

theorem NeverDone.step (h : NeverDone w s) (e : LossyEvent) (htime : s.InTime e) : NeverDone w (s.step w e) := by
  obtain ⟨hfew, hdoomed | ⟨hlost, m, k, h⟩⟩ := h
  · exact ⟨fun k => (toLose_step_le e k).trans (hfew k), Or.inl (hdoomed.step htime)⟩
  · refine ⟨fun k => (toLose_step_le e k).trans (hfew k), ?_⟩
    rcases h.next hfew htime with ⟨hsame, ⟨m', -, k', h'⟩ | ⟨-, h'⟩⟩ | ⟨-, hdoomed⟩
    · exact Or.inr ⟨hsame ▸ hlost, m', k', h'⟩
    · exact Or.inr ⟨hsame ▸ hlost, m, k, h'⟩
    · exact Or.inl hdoomed

theorem NeverDone.not_done (h : NeverDone w s) : s.link.sender.state ≠ .DONE := by
  obtain ⟨-, hdoomed | ⟨hlost, m, k, h⟩⟩ := h
  · exact hdoomed.not_done
  · exact fun hdone => hlost (h.kept_of_done hdone)

theorem exists_round (w : UploadSetting) (s : LossyUpload) :
    ∃ es, Round LossyEvent.IsOf es ∧ Meets (LossyUpload.step w) LossyUpload.InTime s es := by
  refine ⟨[.deviceMessage 0, .deviceRun (s.step w (.deviceMessage 0)).link.device.dataTransfer.transferTimeoutTimer,
    .respond, .act true], fun k => ?_, trivial, ?_, trivial, trivial, trivial⟩
  · cases k <;> simp [LossyEvent.IsOf]
  · simp [LossyUpload.InTime, DataTransfer.timesOut, Time.hasElapsed_self]

theorem exists_rounds (w : UploadSetting) (s : LossyUpload) (n : ℕ) :
    ∃ rounds : List (List LossyEvent), n ≤ rounds.length ∧ (∀ es ∈ rounds, Round LossyEvent.IsOf es) ∧
      Meets (LossyUpload.step w) LossyUpload.InTime s rounds.flatten := by
  induction n generalizing s with
  | zero => exact ⟨[], Nat.le_refl 0, by simp, trivial⟩
  | succ n ih =>
    obtain ⟨es, hround, hmeets⟩ := exists_round w s
    obtain ⟨rounds, hn, hrounds, hmeets'⟩ := ih (run (LossyUpload.step w) s es)
    refine ⟨es :: rounds, Nat.succ_le_succ hn, fun r hr => ?_, ?_⟩
    · rcases List.mem_cons.mp hr with rfl | hr
      · exact hround
      · exact hrounds r hr
    · rw [List.flatten_cons, Meets.append]
      exact ⟨hmeets, hmeets'⟩

end

/-- An upload recovers from lost answers if, and only if, none of them is to the last piece. -/
theorem recovers_iff_last_answer_kept (w : UploadSetting) (device : MqttCommon) (lost : Nat → Nat)
    (h : w.Takes device)
    (hlost : ∀ k, lost k ≤ BaseTransfer.maxPieceRetries) :
    LossyUpload.Recovers w device lost ↔ lost (w.job.pieces - 1) = 0 := by
  constructor
  · rintro ⟨-, n, hdone⟩
    by_contra hlast
    obtain ⟨rounds, hn, hrounds, hmeets⟩ := exists_rounds w (LossyUpload.init w device lost) n
    have hnever := run_inv (I := NeverDone w) (fun s e hI => hI.step e)
      ⟨hlost, Or.inr ⟨hlast, _, _, Recovering.init h lost⟩⟩ hmeets
    exact hnever.not_done (hdone rounds hrounds hn hmeets).1
  · intro hlast
    have hinit : Recovering w (LossyUpload.init w device lost) (10 * w.job.pieces + w.job.size + 11)
      .deviceMessage ∧
        FewLost w (LossyUpload.init w device lost) := ⟨Recovering.init h lost, hlost, hlast⟩
    refine ⟨fun es hmeets => ?_, 10 * w.job.pieces + w.job.size + 11, fun rounds hrounds hn hmeets => ?_⟩
    · obtain ⟨m, -, k, hon, -⟩ := (approaches_success w).run_le hinit hmeets
      exact hon.not_failed
    · obtain ⟨k, hend, -⟩ := (approaches_success w).run_rounds hinit hmeets hrounds hn
      exact hend.of_end rfl

/-! ## One byte -/

def oneByteFirmware : UploadSetting :=
  ⟨"debug", sampleMd5, ⟨[0x41], FileName.otaFwLocation, some "debug"⟩, fun _ => false, 4096⟩

theorem takes_oneByteFirmware : oneByteFirmware.Takes (.init none) where
  rest := MqttCommon.atRest_init none
  closed := rfl
  build := by decide
  allowed := by decide
  unused := rfl
  nonempty := by decide
  room := by decide

theorem recovers_iff_last_answer_kept_oneByteFirmware :
    LossyUpload.Recovers oneByteFirmware (.init none) (fun k => if k = 0 then 0 else 3) ↔
      (fun k => if k = 0 then 0 else 3) (oneByteFirmware.job.pieces - 1) = 0 :=
  recovers_iff_last_answer_kept oneByteFirmware (.init none) (fun k => if k = 0 then 0 else 3) takes_oneByteFirmware
    (fun k => by split <;> decide)

/-- The acknowledgement of the only piece is lost, the verdict is taken for it, and no other comes. -/
def lostLastAnswer : List LossyEvent :=
  [.deviceMessage 0, .respond, .act false, .deviceMessage 0, .deviceRun 0, .respond, .act true]

theorem does_not_always_recover :
    ¬ ∀ (w : UploadSetting) (device : MqttCommon) (lost : Nat → Nat), w.Takes device →
      (∀ k, lost k ≤ BaseTransfer.maxPieceRetries) → LossyUpload.Recovers w device lost := by
  intro h
  have hrecovers := h oneByteFirmware (.init none) (fun _ => 1) takes_oneByteFirmware (fun _ => by decide)
  refine hrecovers.1 lostLastAnswer ?_ ?_
  · exact ⟨trivial, trivial, trivial, trivial, (by change _ = false; decide +kernel), trivial, trivial, trivial⟩
  · decide +kernel

end CanSystems
