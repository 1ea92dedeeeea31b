import CanSystems.Upload

/-!
# Success is real

The answers on the way to the sender are ranked by what they are about: the
start, the pieces in order, the verdict. An acknowledgement on the way, or one
the device may still send, ranks above everything the sender has been credited
with, since whatever says that a piece is behind the device comes after the
acknowledgement of that piece. So the acknowledgement that makes a sender done
is the verdict.
-/

namespace CanSystems

open Machine

/-! ## Errors that are no refusals -/

namespace DataTransfer

def NoRefusal (err : UInt32) : Prop := err &&& BaseTransfer.WRONG_FILE_PIECE_NUMBER = 0

instance (err : UInt32) : Decidable (NoRefusal err) := inferInstanceAs (Decidable (_ = _))

theorem noRefusal_zero : NoRefusal 0 := by decide

theorem NoRefusal.ne {err : UInt32} (h : NoRefusal err) : err ≠ BaseTransfer.WRONG_FILE_PIECE_NUMBER := by
  rintro rfl
  exact absurd h (by decide)

theorem NoRefusal.or {err : UInt32} (h : NoRefusal err) {e : DataTransferError}
    (he : e ≠ .WRONG_FILE_PIECE_NUMBER) :
    NoRefusal (err ||| e.code) := by
  have hcode : NoRefusal e.code := by cases e <;> first | exact absurd rfl he | decide
  unfold NoRefusal at *
  apply UInt32.toBitVec_inj.mp
  have h₁ := congrArg UInt32.toBitVec h
  have h₂ := congrArg UInt32.toBitVec hcode
  simp only [UInt32.toBitVec_and, UInt32.toBitVec_or] at *
  rw [BitVec.and_or_distrib_right, h₁, h₂]
  rfl

theorem NoRefusal.of_errs {dt dt' : DataTransfer} (h : NoRefusal dt.dataTransferErrState) (he : dt.Errs dt') :
    NoRefusal dt'.dataTransferErrState := by
  obtain ⟨e, hne, herr⟩ := he
  exact herr ▸ h.or hne

end DataTransfer

def ResultMessage.Settles (message : ResultMessage) : Prop :=
  message.ack = true ∨ message.err = BaseTransfer.WRONG_FILE_PIECE_NUMBER

/-! ## Where the device is -/

/-- The device has stored the first `m` pieces and waits for the next. -/
structure Holding (job : Job) (dt : DataTransfer) (m : Nat) : Prop where
  state : dt.transferState = .STORING
  name : dt.fileNameLocal = job.name
  next : dt.nextFilePieceNumberLocal = UInt32.ofNat m
  left : dt.remainingFileSizeLocal = UInt32.ofNat (job.size - 100 * m)
  more : m < job.pieces
  small : job.size < 2 ^ 32
  content : if dt.isFwTransfer then dt.update = some (job.data.take (100 * m)) ∧ job.name = FileName.otaFwLocation
    else dt.tempFile = some (job.data.take (100 * m))

/-- The device by the rank of the least acknowledgement it may still send. -/
inductive DeviceAt (job : Job) (published : Option (String × List UInt8)) (c : MqttCommon) : Nat → Prop
  | fresh (state : c.dataTransfer.transferState = .IDLE)
    (quiet : c.isFileCheckDone = false) : DeviceAt job published c 0
  | storing (m : Nat) (holding : Holding job c.dataTransfer m) (quiet : c.isFileCheckDone = false) :
      DeviceAt job published c (m + 1)
  | checking (state : c.dataTransfer.transferState = .CHECK) (name : c.dataTransfer.fileNameLocal = job.name)
      (temp : c.dataTransfer.tempFile = some job.data) (quiet : c.isFileCheckDone = false) :
      DeviceAt job published c (job.pieces + 1)
  | ended (f : Nat) (state : c.dataTransfer.transferState = .IDLE ∨ c.dataTransfer.transferState = .CLEANUP)
      (began : 0 < f) (verdict : c.isFileCheckDone = true → c.isFileValid = true →
        published = some (job.name, job.data) ∧ f ≤ job.pieces + 1) : DeviceAt job published c f

/-- What an answer of rank `rank` says of a device that went from rank `f` to rank `f'`: what it settles is behind
the device, what it acknowledges was not, and an acknowledgement after the last piece is the verdict. -/
structure AnswerAt (job : Job) (published : Option (String × List UInt8)) (f f' rank : Nat)
    (message : ResultMessage) :
    Prop where
  behind : message.Settles → rank < f'
  fresh : message.ack = true → f ≤ rank
  real : message.ack = true → job.pieces < rank → published = some (job.name, job.data)

/-- What a step of the device about something of rank `rank` does at rank `f`. Only the start moves a fresh
device. -/
structure DeviceStep (job : Job) (published : Option (String × List UInt8)) (f rank : Nat)
    (r : CommonResult) : Prop where
  goesOn : ∃ f', f ≤ f' ∧ (f = 0 → 0 < rank → f' = 0) ∧ DeviceAt job (r.verified <|> published) r.common f' ∧
    ∀ answer ∈ r.answers, AnswerAt job (r.verified <|> published) f f' rank answer
  noRefusal : DataTransfer.NoRefusal r.common.dataTransfer.dataTransferErrState
  verified : r.verified = none ∨ r.verified = some (job.name, job.data)
  single : r.answers.length ≤ 1

section
variable {job : Job} {published : Option (String × List UInt8)} {c : MqttCommon}

theorem AnswerAt.of_not_settles {f f' rank : Nat} {err : UInt32} (h : err ≠ BaseTransfer.WRONG_FILE_PIECE_NUMBER) :
    AnswerAt job published f f' rank ⟨false, err⟩ :=
  ⟨fun hs => hs.elim (fun h => by cases h) (fun he => absurd he h), fun h => (by cases h), fun h => (by cases h)⟩

theorem Holding.withErrState {dt : DataTransfer} {m : Nat} (h : Holding job dt m) (err : UInt32) :
    Holding job { dt with dataTransferErrState := err } m :=
  ⟨h.state, h.name, h.next, h.left, h.more, h.small, h.content⟩

theorem Holding.take_stored {dt : DataTransfer} {m : Nat} (h : Holding job dt m) (io : StoreIo) :
    if dt.isFwTransfer then (dt.stored io (job.bytesAt m)).update = some (job.data.take (100 * (m + 1))) ∧
      job.name = FileName.otaFwLocation
    else (dt.stored io (job.bytesAt m)).tempFile = some (job.data.take (100 * (m + 1))) := by
  have hcontent := h.content
  split at hcontent <;> rename_i hfw
  · rw [if_pos hfw]
    exact ⟨by simp [DataTransfer.stored, hfw, hcontent.1, job.take_append_bytesAt], hcontent.2⟩
  · rw [if_neg hfw]
    simp [DataTransfer.stored, hfw, hcontent, job.take_append_bytesAt]

theorem Holding.left_stored {dt : DataTransfer} {m : Nat} (h : Holding job dt m) (io : StoreIo) :
    (dt.stored io (job.bytesAt m)).remainingFileSizeLocal = UInt32.ofNat (job.size - 100 * (m + 1)) := by
  have hmore := h.more
  have hsmall := h.small
  have hlen := job.length_bytesAt m
  simp only [Job.pieces] at hmore
  apply UInt32.toNat_inj.mp
  simp only [DataTransfer.stored, h.left, hlen]
  rw [UInt32.toNat_sub, UInt32.toNat_ofNat_of_lt' (by simp only [UInt32.size]; omega),
    UInt32.toNat_ofNat_of_lt' (by simp only [UInt32.size]; omega),
    UInt32.toNat_ofNat_of_lt' (by simp only [UInt32.size]; omega)]
  omega

theorem Holding.stored {dt : DataTransfer} {m : Nat} (h : Holding job dt m) (io : StoreIo)
    (hleft : (dt.stored io (job.bytesAt m)).remainingFileSizeLocal ≠ 0) :
    Holding job (dt.stored io (job.bytesAt m)) (m + 1) where
  state := h.state
  name := h.name
  next := by
    simp only [DataTransfer.stored, h.next]
    rw [UInt32.ofNat_add]
    rfl
  left := h.left_stored io
  more := by
    rw [h.left_stored io, ne_eq, ← UInt32.toNat_inj] at hleft
    have hsmall := h.small
    rw [UInt32.toNat_ofNat_of_lt' (by simp only [UInt32.size]; omega)] at hleft
    change ¬ _ = 0 at hleft
    simp only [Job.pieces]
    omega
  small := h.small
  content := h.take_stored io

theorem Holding.last {dt : DataTransfer} {m : Nat} (h : Holding job dt m) (io : StoreIo)
    (hleft : (dt.stored io (job.bytesAt m)).remainingFileSizeLocal = 0) : m + 1 = job.pieces := by
  have hsmall := h.small
  have hmore := h.more
  rw [h.left_stored io, ← UInt32.toNat_inj, UInt32.toNat_ofNat_of_lt' (by simp only [UInt32.size]; omega)] at hleft
  change _ = 0 at hleft
  simp only [Job.pieces] at *
  omega

@[simp] theorem MqttCommon.dataTransfer_fileValidCb (c : MqttCommon) (checked : Option Bool) :
    (c.fileValidCb checked).dataTransfer = c.dataTransfer := by
  cases checked <;> rfl

theorem DeviceAt.withErrState {f : Nat} (h : DeviceAt job published c f) (err : UInt32) :
    DeviceAt job published { c with dataTransfer := { c.dataTransfer with dataTransferErrState := err } } f := by
  cases h with
  | fresh state quiet => exact .fresh state quiet
  | storing m holding quiet => exact .storing m (holding.withErrState err) quiet
  | checking state name temp quiet => exact .checking state name temp quiet
  | ended f state began verdict => exact .ended f state began verdict

/-! ## What a message does to the device -/

theorem DeviceStep.silent {f rank : Nat} (h : DeviceAt job published c f)
    (hclear : DataTransfer.NoRefusal c.dataTransfer.dataTransferErrState) :
    DeviceStep job published f rank ⟨c, [], none, none, none, false⟩ :=
  ⟨⟨f, Nat.le_refl f, fun hf _ => hf, h, by simp⟩, hclear, Or.inl rfl, by simp⟩

/-- The device stays where it is and refuses; only a piece that is behind it is refused as such. -/
theorem DeviceStep.refuse {f rank : Nat} {err : UInt32} (h : DeviceAt job published c f)
    (herr : err = BaseTransfer.WRONG_FILE_PIECE_NUMBER → rank < f) :
    DeviceStep job published f rank
      ⟨{ c with dataTransfer := { c.dataTransfer with dataTransferErrState := 0 } }, [⟨false, err⟩], none, none,
        none, false⟩ := by
  refine ⟨⟨f, Nat.le_refl f, fun hf _ => hf, h.withErrState 0, ?_⟩, DataTransfer.noRefusal_zero,
    Or.inl rfl, by simp⟩
  rw [List.forall_mem_singleton]
  exact ⟨fun hs => hs.elim (fun h => by cases h) herr, fun h => (by cases h), fun h => (by cases h)⟩

/-- The device goes on to rank `f'` and acknowledges. -/
theorem DeviceStep.acknowledge {f rank : Nat} (f' : Nat) {c' : MqttCommon} {image : Option (List UInt8)}
    (hf : f ≤ f')
    (h : DeviceAt job (CommonResult.verified ⟨c', [⟨true, 0⟩], none, none, image, false⟩ <|> published) c' f')
    (hclear : c'.dataTransfer.dataTransferErrState = 0) (hrank : rank < f' ∧ f ≤ rank ∧ (f = 0 → rank = 0))
    (hlast : rank ≤ job.pieces)
    (himage : image = none ∨ job.name = FileName.otaFwLocation ∧ image = some job.data) (err : UInt32) :
    DeviceStep job published f rank ⟨c', [⟨true, err⟩], none, none, image, false⟩ := by
  refine ⟨⟨f', hf, fun _ _ => by omega, h, ?_⟩, hclear ▸ DataTransfer.noRefusal_zero, ?_, by simp⟩
  · rw [List.forall_mem_singleton]
    exact ⟨fun _ => hrank.1, fun _ => hrank.2.1, fun _ _ => by omega⟩
  · rcases himage with rfl | ⟨hname, rfl⟩
    · exact Or.inl rfl
    · exact Or.inr (by simp [CommonResult.verified, hname])

theorem ofNat_injOn {a b : Nat} (ha : a < 2 ^ 32) (hb : b < 2 ^ 32) (h : UInt32.ofNat a = UInt32.ofNat b) :
    a = b := by
  rw [← UInt32.toNat_inj, UInt32.toNat_ofNat_of_lt' ha, UInt32.toNat_ofNat_of_lt' hb] at h
  exact h

theorem DeviceAt.handlePiece {f k : Nat} (h : DeviceAt job published c f)
    (hclear : DataTransfer.NoRefusal c.dataTransfer.dataTransferErrState) (hk : k < job.pieces) (hkf : k + 1 ≤ f)
    (hsmall : k < 2 ^ 32) (io : StoreIo) :
    DeviceStep job published f (k + 1) (c.handlePiece io (UInt32.ofNat k) (Base64.b64encode (job.bytesAt k))) := by
  have hcases := c.dataTransfer.storeBase64_cases io (UInt32.ofNat k) (some (Base64.b64encode (job.bytesAt k)))
  have hbegin : (c.dataTransfer.dataTransferErrState ||| DataTransferError.BEGIN_NOT_CALLED.code) ≠
      BaseTransfer.WRONG_FILE_PIECE_NUMBER := (hclear.or (by decide)).ne
  have hnot : c.dataTransfer.transferState ≠ .STORING →
      DeviceStep job published f (k + 1)
        (c.handlePiece io (UInt32.ofNat k) (Base64.b64encode (job.bytesAt k))) := by
    intro hstate
    rcases hcases with ⟨-, hr⟩ | ⟨hs, -⟩ | ⟨hs, -⟩
    · unfold MqttCommon.handlePiece
      rw [hr]
      exact .refuse h (fun he => absurd he hbegin)
    · exact absurd hs hstate
    · exact absurd hs hstate
  cases h with
  | fresh state quiet => omega
  | checking state name temp quiet => exact hnot (by simp [state])
  | ended f state began verdict => exact hnot (by rcases state with hs | hs <;> simp [hs])
  | storing m holding quiet =>
    have h : DeviceAt job published c (m + 1) := .storing m holding quiet
    have hm : m < 2 ^ 32 := by
      have := holding.more
      have := holding.small
      simp only [Job.pieces] at *
      omega
    rcases hcases with ⟨hstate, -⟩ | ⟨-, hnumber, hr⟩ | ⟨-, hnumber, ⟨e, he, hr⟩ |
      ⟨hok, hchecked, himage, hclean, herr⟩ | ⟨bytes, hdecode, -, hopen, hr⟩⟩
    · exact absurd holding.state hstate
    · unfold MqttCommon.handlePiece
      rw [hr]
      have hne : k ≠ m := by
        rintro rfl
        exact hnumber holding.next.symm
      exact .refuse h (fun _ => by omega)
    · unfold MqttCommon.handlePiece
      rw [hr]
      exact .refuse h (fun he' => absurd he' (hclear.or he).ne)
    · unfold MqttCommon.handlePiece
      generalize c.dataTransfer.storeBase64 io (UInt32.ofNat k) (some (Base64.b64encode (job.bytesAt k))) = r at *
      have hne := (hclear.of_errs herr).ne
      simp only [hok, hchecked, himage, DataTransfer.getErrorCode, MqttCommon.fileValidCb]
      refine ⟨⟨m + 1, Nat.le_refl _, fun hf _ => hf, .ended _ (Or.inr hclean) (by omega) (fun hd => ?_), ?_⟩,
        DataTransfer.noRefusal_zero, Or.inl rfl, by simp⟩
      · rw [quiet] at hd; cases hd
      · rw [List.forall_mem_singleton]
        exact .of_not_settles hne
    · obtain rfl : k = m := ofNat_injOn hsmall hm (hnumber.trans holding.next)
      have hlen := job.length_bytesAt k
      rw [DataTransfer.decodePiece_b64encode (job.length_bytesAt_pos hk) (by omega)] at hdecode
      obtain rfl : job.bytesAt k = bytes := by injection hdecode
      unfold MqttCommon.handlePiece
      cases hr with
      | more left hr =>
        rw [hr]
        refine .acknowledge (k + 2) (by omega) ?_ rfl (by omega) hk (Or.inl rfl) _
        exact .storing (k + 1) ((holding.stored io left).withErrState 0) quiet
      | firmware left fw hr =>
        rw [hr]
        have hlast := holding.last io left
        have hcontent := holding.take_stored io
        rw [if_pos fw, hlast, job.take_pieces] at hcontent
        refine .acknowledge (job.pieces + 1) (by omega)
          (.ended _ (Or.inr rfl) (by omega) fun _ _ => ⟨?_, Nat.le_refl _⟩)
          rfl (by omega) hk (Or.inr ⟨hcontent.2, hcontent.1⟩) _
        simp [CommonResult.verified, hcontent.1, hcontent.2]
      | file left fw all temp size hr =>
        rw [hr]
        have hlast := holding.last io left
        have hcontent := holding.take_stored io
        rw [if_neg (by simp [fw]), hlast, job.take_pieces] at hcontent
        refine .acknowledge (job.pieces + 1) (by omega) ?_ rfl (by omega) hk (Or.inl rfl) _
        exact .checking rfl holding.name hcontent quiet

theorem DeviceAt.handleStart {pioEnv : String} (h : DeviceAt job published c 0)
    (hclear : DataTransfer.NoRefusal c.dataTransfer.dataTransferErrState) (hsmall : job.size < 2 ^ 32)
    (io : BeginIo)
    (fileInUse : String → Bool) (fileMd5 : List UInt8) :
    DeviceStep job published 0 0
      (c.handleStart pioEnv io fileInUse job.name (UInt32.ofNat job.size) fileMd5 job.binId) := by
  unfold MqttCommon.handleStart
  split
  · refine ⟨⟨0, Nat.le_refl 0, fun hf _ => hf, h, ?_⟩, hclear, Or.inl rfl, by simp⟩
    rw [List.forall_mem_singleton]
    exact .of_not_settles (by decide)
  cases h with
  | ended _ _ began => omega
  | fresh state quiet =>
    have h : DeviceAt job published c 0 := .fresh state quiet
    rcases c.dataTransfer.begin_cases io fileInUse (UInt32.ofNat job.size) (some fileMd5) (some job.name) with
      ⟨e, hcheck, hb⟩ | ⟨md5', name, hcheck, hb⟩
    · rw [hb]
      exact .refuse h (fun he => absurd he (hclear.or (DataTransfer.checkBegin_error hcheck)).ne)
    obtain ⟨hsize, -, hname, hvalid, -⟩ := DataTransfer.checkBegin_ok hcheck
    obtain rfl : job.name = name := Option.some.inj hname
    have hcopy := DataTransfer.copyName_of_valid hvalid
    have hmore : 0 < job.pieces := by
      rw [ne_eq, ← UInt32.toNat_inj, UInt32.toNat_ofNat_of_lt' hsmall] at hsize
      change ¬ _ = 0 at hsize
      simp only [Job.pieces]
      omega
    rcases hb with ⟨-, dt', hb, hstate, -, -, -, herr⟩ | ⟨-, hown, hb⟩ | ⟨-, hown, hb⟩ <;> rw [hb]
    · have hne := (hclear.of_errs herr).ne
      refine ⟨⟨0, Nat.le_refl 0, fun hf _ => hf, .fresh (hstate.trans state) quiet, ?_⟩,
        DataTransfer.noRefusal_zero, Or.inl rfl, by simp⟩
      rw [List.forall_mem_singleton]
      exact .of_not_settles hne
    · refine .acknowledge 1 (by decide) ?_ rfl (by decide) (Nat.zero_le _) (Or.inl rfl) _
      refine .storing 0 ⟨rfl, hcopy, rfl, rfl, hmore, hsmall, ?_⟩ quiet
      rw [if_pos (by simp [DataTransfer.adopt, hcopy, hown])]
      exact ⟨by simp, by simpa [FileName.isOwnFirmwareFileName] using hown⟩
    · refine .acknowledge 1 (by decide) ?_ rfl (by decide) (Nat.zero_le _) (Or.inl rfl) _
      refine .storing 0 ⟨rfl, hcopy, rfl, rfl, hmore, hsmall, ?_⟩ quiet
      rw [if_neg (by simp [DataTransfer.adopt, hcopy, hown])]
      simp

def rankOf (job : Job) : Option SenderMessage → Nat
  | some .start => 0
  | some (.piece p) => p.number + 1
  | none => job.pieces + 1

/-- A message the sender may have put on the wire while the device was at rank `f`. -/
def OnTheWire (job : Job) (f : Nat) : SenderMessage → Prop
  | .start => f = 0
  | .piece p => ∃ k, p = job.pieceAt k ∧ k < job.pieces ∧ k + 1 ≤ f

theorem DeviceAt.message {pioEnv : String} {md5 : Md5} {f : Nat} (h : DeviceAt job published c f)
    (hclear : DataTransfer.NoRefusal c.dataTransfer.dataTransferErrState) {message : SenderMessage}
    (hwire : OnTheWire job f message) (io : CommonIo) (fileInUse : String → Bool) :
    DeviceStep job published f (rankOf job (some message))
      (c.messageArrivedCallback pioEnv io fileInUse (job.payload md5 message)) := by
  cases message with
  | start =>
    obtain rfl : f = 0 := hwire
    unfold MqttCommon.messageArrivedCallback Job.payload Job.jsonUInt32
    by_cases hsmall : job.size < 2 ^ 32
    · simp only [if_pos hsmall]
      exact h.handleStart hclear hsmall io.begin fileInUse _
    · simp only [if_neg hsmall]
      exact .silent h hclear
  | piece p =>
    obtain ⟨k, rfl, hk, hkf⟩ := hwire
    unfold MqttCommon.messageArrivedCallback Job.payload Job.jsonUInt32
    by_cases hsmall : (job.pieceAt k).number < 2 ^ 32
    · simp only [if_pos hsmall]
      exact h.handlePiece hclear hk hkf hsmall io.store
    · simp only [if_neg hsmall]
      exact .silent h hclear

/-! ## What a pass does to the device -/

/-- A callback leaves the device at its rank when no transfer is live and a success has been published. -/
theorem DeviceAt.of_ended {f : Nat} {dt : DataTransfer} {checked : Option Bool} (hf : 0 < f)
    (hstate : dt.transferState = .IDLE ∨ dt.transferState = .CLEANUP)
    (hchecked : checked = some true → published = some (job.name, job.data) ∧ f ≤ job.pieces + 1)
    (hold : checked = none → c.isFileCheckDone = true → c.isFileValid = true →
      published = some (job.name, job.data) ∧ f ≤ job.pieces + 1) :
    DeviceAt job published ({ c with dataTransfer := dt }.fileValidCb checked) f := by
  cases checked with
  | none => exact .ended f hstate hf (hold rfl)
  | some isValid =>
    refine .ended f hstate hf fun _ hvalid => hchecked ?_
    rw [show isValid = true from hvalid]

/-- The end of a pass leaves the device at its rank, and what it verifies is the job. -/
structure PassStep (job : Job) (published : Option (String × List UInt8)) (f : Nat) (r : CommonResult) : Prop where
  stays : DeviceAt job (r.verified <|> published) r.common f
  noRefusal : DataTransfer.NoRefusal r.common.dataTransfer.dataTransferErrState
  verified : r.verified = none ∨ r.verified = some (job.name, job.data)

theorem DeviceAt.checkPass {f : Nat} (h : DeviceAt job published c f)
    (hclear : DataTransfer.NoRefusal c.dataTransfer.dataTransferErrState) (md5 : Md5) (io : CheckIo)
    (answers : List ResultMessage) (queued : Option String) :
    PassStep job published f (c.checkPass md5 io answers queued) := by
  have hcleanup : 0 < f → (c.isFileCheckDone = true → c.isFileValid = true →
      published = some (job.name, job.data) ∧ f ≤ job.pieces + 1) →
      c.dataTransfer.runValidityCheck md5 io =
        DataTransfer.cleanupTransfer { c.dataTransfer with transferState := .CLEANUP } →
      PassStep job published f (c.checkPass md5 io answers queued) := by
    intro hf hold hr
    unfold MqttCommon.checkPass
    rw [hr]
    refine ⟨.of_ended hf (Or.inl rfl) (fun hc => ?_) (fun _ => hold), ?_, Or.inl rfl⟩
    · simp only [DataTransfer.cleanupTransfer] at hc
      split at hc <;> cases hc
    · rw [MqttCommon.dataTransfer_fileValidCb]
      exact hclear
  rcases c.dataTransfer.runValidityCheck_cases md5 io with ⟨hstate, hr⟩ |
    ⟨-, ⟨hstate, hr⟩ | ⟨hstate, hr⟩ | ⟨hstate, -, hr⟩ | ⟨hstate, -, hr⟩⟩
  · cases h with
    | fresh state quiet => rw [DataTransfer.timesOut, state] at hstate; simp at hstate
    | storing m holding quiet => exact hcleanup (by omega) (fun hd => by rw [quiet] at hd; cases hd) hr
    | checking state name temp quiet => exact hcleanup (by omega) (fun hd => by rw [quiet] at hd; cases hd) hr
    | ended _ state began verdict => exact hcleanup began verdict hr
  · unfold MqttCommon.checkPass
    rw [hr]
    refine ⟨?_, hclear, Or.inl rfl⟩
    cases h with
    | fresh state quiet => exact .fresh state quiet
    | storing m holding quiet => rw [holding.state] at hstate; cases hstate
    | checking state name temp quiet => rw [state] at hstate; cases hstate
    | ended _ state began verdict => exact .ended f (Or.inl hstate) began verdict
  · unfold MqttCommon.checkPass
    rw [hr]
    exact ⟨h, hclear, Or.inl rfl⟩
  all_goals cases h with
    | fresh state quiet => rw [state] at hstate; cases hstate
    | storing m holding quiet => rw [holding.state] at hstate; cases hstate
    | ended _ state began verdict => rcases state with hs | hs <;> (rw [hs] at hstate; cases hstate)
    | checking state name temp quiet => ?_
  · unfold MqttCommon.checkPass
    rw [hr]
    rcases c.dataTransfer.readChunk_cases io with ⟨handle, sum, hread⟩ | ⟨hend, herr⟩
    · rw [hread]
      exact ⟨.checking state name temp quiet, hclear, Or.inl rfl⟩
    · exact ⟨.ended _ (Or.inr hend) (by omega)
        (fun hd => by rw [show c.isFileCheckDone = true from hd] at quiet; cases quiet),
        hclear.of_errs herr, Or.inl rfl⟩
  · unfold MqttCommon.checkPass
    rw [hr]
    rcases DataTransfer.finishCheck_cases md5 c.dataTransfer io with ⟨dt', hfail, hend, herr⟩ | ⟨bytes, htemp, -,
      hdone⟩
    · rw [hfail]
      exact ⟨.ended _ (Or.inr hend) (by omega)
        (fun hd => by rw [show c.isFileCheckDone = true from hd] at quiet; cases quiet),
        hclear.of_errs herr, Or.inl rfl⟩
    · obtain rfl : job.data = bytes := Option.some.inj (temp.symm.trans htemp)
      rw [hdone]
      exact ⟨.ended _ (Or.inr rfl) (by omega) (fun _ _ => ⟨by simp [CommonResult.verified, name], Nat.le_refl _⟩),
        hclear, Or.inr (by simp [CommonResult.verified, name])⟩

theorem PassStep.answers {f f' rank : Nat} {md5 : Md5} {io : CheckIo} {answers : List ResultMessage}
    {queued : Option String}
    (h : PassStep job published f' (c.checkPass md5 io answers queued)) (hf : f ≤ f') (hfresh : f = 0 → f' = 0)
    (hsingle : answers.length ≤ 1) (hanswers : ∀ answer ∈ answers, AnswerAt job published f f' rank answer) :
    DeviceStep job published f rank (c.checkPass md5 io answers queued) := by
  refine ⟨⟨f', hf, fun h _ => hfresh h, h.stays, fun answer hanswer => ?_⟩, h.noRefusal, h.verified, hsingle⟩
  obtain ⟨behind, fresh, real⟩ := hanswers answer hanswer
  refine ⟨behind, fresh, fun hack hlast => ?_⟩
  rcases h.verified with hv | hv <;> rw [hv]
  · exact real hack hlast
  · rfl

theorem DeviceAt.run {f : Nat} (h : DeviceAt job published c f)
    (hclear : DataTransfer.NoRefusal c.dataTransfer.dataTransferErrState) (md5 : Md5) (io : CheckIo) :
    DeviceStep job published f (job.pieces + 1) (c.run md5 io) := by
  unfold MqttCommon.run
  split
  · exact (h.checkPass hclear md5 io [] none).answers (Nat.le_refl f) id (by simp) (by simp)
  rename_i hdone
  replace hdone : c.isFileCheckDone = true := by simpa using hdone
  cases h with
  | fresh state quiet => rw [quiet] at hdone; cases hdone
  | storing m holding quiet => rw [quiet] at hdone; cases hdone
  | checking state name temp quiet => rw [quiet] at hdone; cases hdone
  | ended _ state began verdict =>
    simp only [DataTransfer.getErrorCode]
    have hsaid : ∀ f', 0 < f' → DeviceAt job published { c with
        isFileCheckDone := false, dataTransfer := { c.dataTransfer with dataTransferErrState := 0 } } f' :=
      fun f' hf' => .ended f' state hf' (fun hd => by cases hd)
    split
    · rename_i hinvalid
      refine ((hsaid f began).checkPass DataTransfer.noRefusal_zero md5 io _ none).answers (Nat.le_refl f) id
        (by simp) ?_
      rw [List.forall_mem_singleton, show c.isFileValid = false from hinvalid]
      exact .of_not_settles hclear.ne
    · rename_i hvalid
      obtain ⟨hpub, hf⟩ := verdict hdone (by simpa using hvalid)
      have hanswers : ∀ answer ∈ [ResultMessage.mk c.isFileValid c.dataTransfer.dataTransferErrState],
          AnswerAt job published f (job.pieces + 2) (job.pieces + 1) answer :=
        fun _ _ => ⟨fun _ => by omega, fun _ => hf, fun _ _ => hpub⟩
      split
      · exact ⟨⟨job.pieces + 2, by omega, fun _ _ => by omega,
          .ended _ (Or.inl rfl) (by omega) (fun hd => by cases hd),
          hanswers⟩, DataTransfer.noRefusal_zero, Or.inl rfl, by simp [MqttCommon.reboot]⟩
      · exact ((hsaid (job.pieces + 2) (by omega)).checkPass DataTransfer.noRefusal_zero md5 io _ _).answers
          (by omega)
          (by omega) (by simp) hanswers

end

/-! ## Where the sender is -/

/-- The rank of the acknowledgement the sender waits for, or will wait for next. -/
def BaseTransfer.due (job : Job) (t : BaseTransfer) : Nat :=
  match t.state with
  | .SENDING_FW => t.pieceNumber + 1
  | .WAIT_PIECE_ACK => t.pieceNumber
  | .WAIT_CHECK_ACK => job.pieces + 1
  | _ => 0

def BaseTransfer.At (job : Job) (t : BaseTransfer) : Prop :=
  match t.state with
  | .WAIT_START_ACK => t.pieceNumber = 0 ∧ t.remainingBytes = job.size
  | .SENDING_FW => t.pieceNumber ≤ job.pieces ∧ t.remainingBytes = job.size - 100 * t.pieceNumber
  | .WAIT_PIECE_ACK => ∃ k < job.pieces, t.pieceNumber = k + 1 ∧ t.lastPiece = some (job.pieceAt k) ∧
      t.remainingBytes = job.size - 100 * (k + 1)
  | _ => True

namespace BaseTransfer

variable {job : Job} {t : BaseTransfer}

theorem processResponse_cases (t : BaseTransfer) (message : ResultMessage) :
    (t.state = .WAIT_START_ACK ∧ message.ack = true ∧ t.processResponse message = { t with state := .SENDING_FW }) ∨
    (t.state = .WAIT_PIECE_ACK ∧ (message.ack = true ∨ t.confirmsThePieceInFlight message = true) ∧
      ∃ resent, t.processResponse message = advanceAfterPiece { t with resentPiece := resent }) ∨
    (t.state = .WAIT_CHECK_ACK ∧ message.ack = true ∧ t.processResponse message = { t with state := .DONE }) ∨
    (∃ resent, t.processResponse message = { t with resentPiece := resent }) ∨
    t.processResponse message = { t with state := .ERROR } := by
  unfold processResponse
  split
  · rename_i h
    exact Or.inl ⟨h.1, h.2, rfl⟩
  split
  · rename_i h
    exact Or.inr (Or.inl ⟨h.1, Or.inl h.2, t.resentPiece, rfl⟩)
  split
  · rename_i h
    have hstate : t.state = .WAIT_PIECE_ACK := by
      simp only [confirmsThePieceInFlight, Bool.and_eq_true, beq_iff_eq] at h
      exact h.1.1.2
    exact Or.inr (Or.inl ⟨hstate, Or.inr h, none, rfl⟩)
  split
  · rename_i h
    exact Or.inr (Or.inr (Or.inl ⟨h.1, h.2, rfl⟩))
  split
  · exact Or.inr (Or.inr (Or.inr (Or.inl ⟨none, rfl⟩)))
  · exact Or.inr (Or.inr (Or.inr (Or.inr rfl)))

theorem settles_of_confirms {message : ResultMessage} (h : t.confirmsThePieceInFlight message = true) :
    message.Settles := by
  simp only [confirmsThePieceInFlight, answersARepeat, Bool.and_eq_true, beq_iff_eq] at h
  exact Or.inr h.1.1.1.2

theorem At.advance (h : t.At job) (hstate : t.state = .WAIT_PIECE_ACK) (resent : Option Nat) :
    (advanceAfterPiece { t with resentPiece := resent }).At job ∧
      (advanceAfterPiece { t with resentPiece := resent }).due job = t.due job + 1 := by
  simp only [At, hstate] at h
  obtain ⟨k, hk, hnumber, -, hleft⟩ := h
  simp only [Job.pieces] at hk
  unfold advanceAfterPiece finishSending
  simp only
  split
  · simp only [At, due, hstate, Job.pieces, hnumber, hleft, and_true]
    omega
  · simp only [At, due, hstate, Job.pieces, hnumber, true_and]
    omega

/-- The end of a pass keeps the counters right and gives up, or goes on and may put the piece it waits for on
the wire. -/
theorem At.processState (h : t.At job) (expired : Bool) :
    (t.processState job.size expired).1.At job ∧
    (((t.processState job.size expired).1.state = .ERROR ∧ (t.processState job.size expired).2 = none) ∨
      ((t.processState job.size expired).1.due job = t.due job ∧
        ((t.processState job.size expired).1.state = .DONE → t.state = .DONE) ∧
        ((t.processState job.size expired).2 = none ∨ ∃ k < job.pieces, t.due job = k + 1 ∧
          (t.processState job.size expired).2 = some (.piece (job.pieceAt k))))) := by
  cases hstate : t.state with
  | SENDING_FW =>
    simp only [At, hstate] at h
    simp only [BaseTransfer.processState, hstate]
    split
    · rename_i hmore
      have hk : t.pieceNumber < job.pieces := by simp only [Job.pieces]; omega
      have hpiece : (⟨t.pieceNumber, job.size - t.remainingBytes, min t.remainingBytes pieceSize⟩ : SentPiece) =
          job.pieceAt t.pieceNumber := by
        simp only [Job.pieceAt, pieceSize, h.2, SentPiece.mk.injEq, true_and, and_true]
        omega
      simp only [sendPiece, publishPiece, hpiece]
      refine ⟨⟨t.pieceNumber, hk, rfl, rfl, ?_⟩, Or.inr ⟨?_, by simp, Or.inr ⟨t.pieceNumber, hk, ?_, rfl⟩⟩⟩
      · simp only [h.2]
        have : pieceSize = 100 := rfl
        omega
      · simp [due, hstate]
      · simp [due, hstate]
    · refine ⟨by simp [At, finishSending], Or.inr ⟨?_, by simp [finishSending], Or.inl rfl⟩⟩
      simp only [due, finishSending, hstate, Job.pieces] at *
      omega
  | WAIT_PIECE_ACK =>
    have hat := h
    simp only [At, hstate] at h
    obtain ⟨k, hk, hnumber, hlast, hleft⟩ := h
    cases expired with
    | false =>
      simp only [BaseTransfer.processState, hstate, if_true]
      exact ⟨hat, Or.inr ⟨trivial, by simp, Or.inl trivial⟩⟩
    | true =>
      simp only [BaseTransfer.processState, hstate, hlast, Bool.true_eq_false, if_false, publishPiece, true_and]
      split
      · refine ⟨⟨k, hk, hnumber, rfl, hleft⟩, Or.inr ⟨?_, by simp, Or.inr ⟨k, hk, ?_, rfl⟩⟩⟩
        · simp [due, hstate]
        · simp [due, hstate, hnumber]
      · exact ⟨trivial, Or.inl ⟨rfl, rfl⟩⟩
  | WAIT_START_ACK | WAIT_CHECK_ACK =>
    cases expired with
    | false =>
      simp only [BaseTransfer.processState, hstate, if_true]
      exact ⟨h, Or.inr ⟨trivial, by simp, Or.inl trivial⟩⟩
    | true =>
      simp only [BaseTransfer.processState, hstate, Bool.true_eq_false, if_false]
      cases t.lastPiece with
      | none => exact ⟨trivial, Or.inl ⟨rfl, rfl⟩⟩
      | some p => simp [At]
  | IDLE | DONE | ERROR =>
    simp only [BaseTransfer.processState, hstate]
    exact ⟨h, Or.inr ⟨trivial, by simp, Or.inl trivial⟩⟩

end BaseTransfer

/-! ## The whole link -/

/-- An answer on the way, while the device is at rank `f` and the sender waits for rank `due`. -/
structure OnTheWay (job : Job) (published : Option (String × List UInt8)) (f due : Nat) (a : Answer) : Prop where
  behind : a.message.Settles → rankOf job a.about < f
  fresh : a.message.ack = true → due ≤ rankOf job a.about
  real : a.message.ack = true → job.pieces < rankOf job a.about → published = some (job.name, job.data)

def InOrder (job : Job) (a b : Answer) : Prop :=
  a.message.Settles → b.message.ack = true → rankOf job a.about < rankOf job b.about

structure UploadAt (job : Job) (s : UploadLink) (f : Nat) : Prop where
  device : DeviceAt job s.published s.device f
  noRefusal : DataTransfer.NoRefusal s.device.dataTransfer.dataTransferErrState
  sender : s.sender.At job
  due : s.sender.due job ≤ f
  onTheWire : ∀ message ∈ s.toDevice, OnTheWire job f message
  once : f = 0 → s.toDevice.length ≤ 1
  answers : ∀ a ∈ s.toSender, OnTheWay job s.published f (s.sender.due job) a
  order : s.toSender.Pairwise (InOrder job)
  done : s.SuccessIsReal job

namespace UploadAt

variable {job : Job} {s : UploadLink} {f : Nat}

theorem init (job : Job) {device : MqttCommon} (h : device.AtRest) :
    UploadAt job (UploadLink.init job device) 0 where
  device := .fresh h.idle h.quiet
  noRefusal := h.noError ▸ DataTransfer.noRefusal_zero
  sender := ⟨rfl, rfl⟩
  due := Nat.le_refl 0
  onTheWire := by simp [UploadLink.init, BaseTransfer.sendStartMessage, OnTheWire]
  once := by simp [UploadLink.init, BaseTransfer.sendStartMessage]
  answers := by simp [UploadLink.init, BaseTransfer.sendStartMessage]
  order := by simp [UploadLink.init, BaseTransfer.sendStartMessage]
  done := by simp [UploadLink.init, BaseTransfer.sendStartMessage, BaseTransfer.init, UploadLink.SuccessIsReal]

theorem sublist (h : UploadAt job s f) (toDevice : List SenderMessage) (toSender : List Answer)
    (hd : toDevice.Sublist s.toDevice) (hs : toSender.Sublist s.toSender) :
    UploadAt job { s with toDevice := toDevice, toSender := toSender } f where
  device := h.device
  noRefusal := h.noRefusal
  sender := h.sender
  due := h.due
  onTheWire := fun message hm => h.onTheWire message (hd.subset hm)
  once := fun hf => hd.length_le.trans (h.once hf)
  answers := fun a ha => h.answers a (hs.subset ha)
  order := h.order.sublist hs
  done := h.done

/-- What is on the wire stays right while the device goes on, if nothing is on the wire to a fresh device. -/
theorem onTheWire_mono {f' : Nat} (h : ∀ message ∈ s.toDevice, OnTheWire job f message) (hf : f ≤ f')
    (hfresh : f = 0 → f' = 0 ∨ s.toDevice = []) : ∀ message ∈ s.toDevice, OnTheWire job f' message := by
  intro message hm
  cases message with
  | start =>
    have : f = 0 := h _ hm
    rcases hfresh this with h0 | hnil
    · exact h0
    · rw [hnil] at hm; cases hm
  | piece p =>
    obtain ⟨k, rfl, hk, hkf⟩ := h _ hm
    exact ⟨k, rfl, hk, by omega⟩

theorem afterDevice (h : UploadAt job s f) {r : CommonResult} {about : Option SenderMessage}
    (hr : DeviceStep job s.published f (rankOf job about) r)
    (hempty : f = 0 → 0 < rankOf job about ∨ s.toDevice = []) : ∃ f', UploadAt job (s.afterDevice r about) f' := by
  obtain ⟨f', hf, hfresh, hdevice, hanswers⟩ := hr.goesOn
  have hpublished : s.published = some (job.name, job.data) →
      (r.verified <|> s.published) = some (job.name, job.data) := by
    intro hp
    rcases hr.verified with hv | hv <;> rw [hv]
    · exact hp
    · rfl
  have hstill : f = 0 → f' = 0 ∨ s.toDevice = [] := fun h0 => (hempty h0).imp_left (hfresh h0)
  refine ⟨f', hdevice, hr.noRefusal, h.sender, h.due.trans hf, ?_, ?_, ?_, ?_, fun hd => hpublished (h.done hd)⟩
  · exact onTheWire_mono h.onTheWire hf hstill
  · intro h0
    exact h.once (by omega)
  · intro a ha
    simp only [UploadLink.afterDevice, List.mem_append, List.mem_map] at ha
    rcases ha with ha | ⟨message, hm, rfl⟩
    · obtain ⟨behind, fresh, real⟩ := h.answers a ha
      exact ⟨fun hs => (behind hs).trans_le hf, fresh, fun hack hlast => hpublished (real hack hlast)⟩
    · obtain ⟨behind, fresh, real⟩ := hanswers message hm
      exact ⟨behind, fun hack => h.due.trans (fresh hack), real⟩
  · simp only [UploadLink.afterDevice, List.pairwise_append, List.mem_map]
    refine ⟨h.order, ?_, ?_⟩
    · have hsingle := hr.single
      match hlist : r.answers, hsingle with
      | [], _ => simp
      | [message], _ => simp
    · rintro a ha _ ⟨message, hm, rfl⟩ hsettles hack
      exact ((h.answers a ha).behind hsettles).trans_le ((hanswers message hm).fresh hack)

/-- The sender takes an answer from the channel and goes on to state `t`. -/
theorem respond (h : UploadAt job s f) {a : Answer} {rest : List Answer} (hs : s.toSender = a :: rest)
    {t : BaseTransfer}
    (ht : t.At job) (hdue : t.due job ≤ s.sender.due job ∨ t.due job ≤ rankOf job a.about + 1 ∧ a.message.Settles)
    (hdone : t.state = .DONE → s.published = some (job.name, job.data)) :
    UploadAt job { s with toSender := rest, sender := t } f where
  device := h.device
  noRefusal := h.noRefusal
  sender := ht
  due := by
    rcases hdue with hdue | ⟨hdue, hsettles⟩
    · exact hdue.trans h.due
    · exact hdue.trans ((h.answers a (by simp [hs])).behind hsettles)
  onTheWire := h.onTheWire
  once := h.once
  answers := by
    intro b hb
    obtain ⟨behind, fresh, real⟩ := h.answers b (by simp [hs, hb])
    refine ⟨behind, fun hack => ?_, real⟩
    rcases hdue with hdue | ⟨hdue, hsettles⟩
    · exact hdue.trans (fresh hack)
    · have horder := h.order
      rw [hs, List.pairwise_cons] at horder
      exact hdue.trans (horder.1 b hb hsettles hack)
  order := by
    have horder := h.order
    rw [hs, List.pairwise_cons] at horder
    exact horder.2
  done := hdone

theorem step {pioEnv : String} {md5 : Md5} (h : UploadAt job s f) (e : UploadEvent) (hfresh : s.Fresh e) :
    ∃ f', UploadAt job (s.step pioEnv md5 job e) f' := by
  cases e with
  | deviceMessage io fileInUse =>
    cases hd : s.toDevice with
    | nil => exact ⟨f, by simpa only [UploadLink.step, hd] using h⟩
    | cons message rest =>
      have hrest := h.sublist rest _ (by rw [hd]; exact List.sublist_cons_self _ _) (List.Sublist.refl _)
      have hmessage := h.onTheWire message (by rw [hd]; exact List.mem_cons_self)
      simp only [UploadLink.step, hd]
      refine hrest.afterDevice (hrest.device.message hrest.noRefusal hmessage io fileInUse) (fun h0 => Or.inr ?_)
      have honce := h.once h0
      rw [hd, List.length_cons] at honce
      change rest = []
      exact List.length_eq_zero_iff.mp (by omega)
  | deviceRun io =>
    exact h.afterDevice (h.device.run h.noRefusal md5 io) (fun _ => Or.inl (by simp [rankOf]))
  | respond =>
    cases hs : s.toSender with
    | nil => exact ⟨f, by simpa only [UploadLink.step, hs] using h⟩
    | cons a rest =>
      simp only [UploadLink.step, hs]
      obtain ⟨behind, fresh, real⟩ := h.answers a (by simp [hs])
      have hsender := h.sender
      rcases s.sender.processResponse_cases a.message with ⟨hstate, hack, hr⟩ | ⟨hstate, hsettles, resent, hr⟩ |
        ⟨hstate, hack, hr⟩ | ⟨resent, hr⟩ | hr <;> rw [hr]
      · simp only [BaseTransfer.At, hstate] at hsender
        refine ⟨f, h.respond hs ⟨by simp [hsender.1], by simp [hsender.1, hsender.2]⟩ (Or.inr ⟨?_, Or.inl hack⟩)
          (by simp)⟩
        simp [BaseTransfer.due, hsender.1]
      · obtain ⟨hat, hdue⟩ := hsender.advance hstate resent
        refine ⟨f, h.respond hs hat (Or.inr ?_) (fun hd => ?_)⟩
        · rw [hdue]
          rcases hsettles with hack | hconfirms
          · exact ⟨Nat.succ_le_succ (fresh hack), Or.inl hack⟩
          · refine ⟨?_, BaseTransfer.settles_of_confirms hconfirms⟩
            simp only [BaseTransfer.At, hstate] at hsender
            obtain ⟨k, -, hnumber, hlast, -⟩ := hsender
            have habout := hfresh a (by rw [hs]; rfl) hconfirms
            rw [hlast] at habout
            simp [habout, rankOf, Job.pieceAt, BaseTransfer.due, hstate, hnumber]
        · simp only [BaseTransfer.advanceAfterPiece] at hd
          split at hd <;> cases hd
      · refine ⟨f, h.respond hs trivial (Or.inl (Nat.zero_le _)) (fun _ => ?_)⟩
        refine real hack ?_
        have := fresh hack
        simp only [BaseTransfer.due, hstate] at this
        omega
      · exact ⟨f, h.respond hs hsender (Or.inl (Nat.le_refl _)) h.done⟩
      · exact ⟨f, h.respond hs trivial (Or.inl (Nat.zero_le _)) (by simp)⟩
  | act expired =>
    obtain ⟨hat, hact⟩ := h.sender.processState expired
    simp only [UploadLink.step]
    generalize s.sender.processState job.size expired = r at *
    have hdue : r.1.due job ≤ s.sender.due job := by
      rcases hact with ⟨herror, -⟩ | ⟨hdue, -⟩
      · simp [BaseTransfer.due, herror]
      · exact hdue.le
    have hdone : r.1.state = .DONE → s.published = some (job.name, job.data) := by
      intro hd
      rcases hact with ⟨herror, -⟩ | ⟨-, hdone, -⟩
      · rw [herror] at hd; cases hd
      · exact h.done (hdone hd)
    have hmessage : r.2 = none ∨ ∃ k < job.pieces, k + 1 ≤ f ∧ r.2 = some (.piece (job.pieceAt k)) := by
      rcases hact with ⟨-, hnone⟩ | ⟨-, -, hnone | ⟨k, hk, hkdue, hpiece⟩⟩
      · exact Or.inl hnone
      · exact Or.inl hnone
      · exact Or.inr ⟨k, hk, hkdue ▸ h.due, hpiece⟩
    refine ⟨f, h.device, h.noRefusal, hat, hdue.trans h.due, ?_, ?_, ?_, h.order, hdone⟩
    · intro message hm
      rcases hmessage with hnone | ⟨k, hk, hkf, hpiece⟩
      · rw [hnone, Option.toList_none, List.append_nil] at hm
        exact h.onTheWire message hm
      · rw [hpiece, Option.toList_some, List.mem_append, List.mem_singleton] at hm
        rcases hm with hm | rfl
        · exact h.onTheWire message hm
        · exact ⟨k, rfl, hk, hkf⟩
    · intro h0
      rcases hmessage with hnone | ⟨k, -, hkf, -⟩
      · rw [hnone, Option.toList_none, List.append_nil]
        exact h.once h0
      · omega
    · intro a ha
      obtain ⟨behind, fresh, real⟩ := h.answers a ha
      exact ⟨behind, fun hack => hdue.trans (fresh hack), real⟩
  | loseToDevice i => exact ⟨f, h.sublist _ _ (List.eraseIdx_sublist _ _) (List.Sublist.refl _)⟩
  | loseToSender i => exact ⟨f, h.sublist _ _ (List.Sublist.refl _) (List.eraseIdx_sublist _ _)⟩

end UploadAt

/-! ## Success is real -/

/-- A sender that is done has been verified, if no refusal of an earlier piece was ever taken for the answer to the
piece on the wire. -/
theorem success_is_real (pioEnv : String) (md5 : Md5) (job : Job) (device : MqttCommon) (es : List UploadEvent)
    (hrest : device.AtRest) (h : Meets (UploadLink.step pioEnv md5 job) UploadLink.Fresh
      (UploadLink.init job device) es) :
    (run (UploadLink.step pioEnv md5 job) (UploadLink.init job device) es).SuccessIsReal job := by
  obtain ⟨f, hf⟩ := run_inv (I := fun s => ∃ f, UploadAt job s f) (fun s e ⟨f, hf⟩ he => hf.step e he)
    ⟨0, UploadAt.init job hrest⟩ h
  exact hf.done

/-! ## Two pieces, each of them repeated -/

def certificateJob : Job := ⟨List.replicate 101 0x41, FileName.mqttServerCertLocation, none⟩

/-- The device stores both pieces, sums and renames the file and says so; the sender repeats the first piece, and
the refusal of the repeat is back before the second one is repeated. -/
def repeatedPieceUpload : List UploadEvent :=
  let message := UploadEvent.deviceMessage .smooth (fun _ => false)
  [message, .respond, .act false, .act true, message, message, .respond, .respond, .act false, message, .respond,
    .act false] ++ List.replicate 4 (.deviceRun .smooth) ++ [.respond]

/-- The refusal of the repeated first piece is taken while the second one is on the wire as a repeat. -/
def lateRefusalUpload : List UploadEvent :=
  let message := UploadEvent.deviceMessage .smooth (fun _ => false)
  [message, .respond, .act false, .act true, message, message, .respond, .act false, .act true, .respond, message,
    .respond]

theorem success_is_real_repeatedPiece :
    (run (UploadLink.step "debug" sampleMd5 certificateJob) (UploadLink.init certificateJob (.init none))
      repeatedPieceUpload).sender.state = .DONE ∧
    (run (UploadLink.step "debug" sampleMd5 certificateJob) (UploadLink.init certificateJob (.init none))
      repeatedPieceUpload).SuccessIsReal certificateJob :=
  ⟨by decide +kernel, success_is_real "debug" sampleMd5 certificateJob (.init none) repeatedPieceUpload
    (MqttCommon.atRest_init none) (by decide +kernel)⟩

theorem success_not_always_real :
    ¬ ∀ (pioEnv : String) (md5 : Md5) (job : Job) (device : MqttCommon) (es : List UploadEvent), device.AtRest →
      (run (UploadLink.step pioEnv md5 job) (UploadLink.init job device) es).SuccessIsReal job := by
  intro h
  have hdone : (run (UploadLink.step "debug" sampleMd5 certificateJob) (UploadLink.init certificateJob (.init none))
      lateRefusalUpload).sender.state = .DONE := by decide +kernel
  have hnothing : (run (UploadLink.step "debug" sampleMd5 certificateJob)
    (UploadLink.init certificateJob (.init none))
      lateRefusalUpload).published = none := by decide +kernel
  have hreal := h "debug" sampleMd5 certificateJob (.init none) lateRefusalUpload (MqttCommon.atRest_init none)
    hdone
  rw [hnothing] at hreal
  cases hreal

end CanSystems
