import CanSystems.VerifiedContent

/-!
# What the owner learns of a transfer

A transfer lasts from a `begin` that returned true to the pass that gives it
back, and no `begin` but one that returns true takes its place. Its owner learns
how it ended from `checkOkCallback`, or from the piece that was refused. Whether
the last pass calls back depends on the errors noted since they were last fetched:
a transfer that times out with none noted ends unannounced
(`timeout_unannounced`), and one that succeeded with some left is announced twice.
-/

namespace CanSystems

open Machine

/-- What is made known of an end: a call of `checkOkCallback`, or a `storeBase64` that ended the transfer and
returned false. -/
inductive Outcome
  | checkOk (isValid : Bool)
  | pieceRefused
  deriving DecidableEq, Repr

/-- How a transfer came to its end before the pass that gives it back. -/
inductive TransferEnd
  | succeeded
  | pieceRefused
  | checkFailed
  deriving DecidableEq, Repr

structure OutcomeWatch extends Watched where
  /-- A `begin` returned true, and the transfer has not been given back. -/
  active : Bool
  known : List Outcome
  /-- The name and the image that the updater accepted, or that a rename put into place. -/
  placed : Option (String × List UInt8)
  /-- A call was refused or failed since the errors were last fetched. -/
  noted : Bool
  ended : Option TransferEnd

namespace OutcomeWatch

def init (tempFile : Option (List UInt8)) : OutcomeWatch := ⟨.init tempFile, false, [], none, false, none⟩

def ends (dt : DataTransfer) (r : StoreResult) : Bool :=
  dt.transferState == .STORING && r.dt.transferState == .CLEANUP

def endsCheck (dt : DataTransfer) (r : CheckResult) : Bool :=
  dt.transferState == .CHECK && r.dt.transferState == .CLEANUP

def begin (md5 : Md5) (w : OutcomeWatch) (io : BeginIo) (fileInUse : String → Bool) (fileSize : UInt32)
    (fileMd5 : Option (List UInt8)) (fileName : Option String) : OutcomeWatch :=
  let watched := w.toWatched.step md5 (.begin io fileInUse fileSize fileMd5 fileName)
  if (w.dt.begin io fileInUse fileSize fileMd5 fileName).1 then ⟨watched, true, [], none, w.noted, none⟩
  else { w with toWatched := watched, noted := true }

def storeBase64 (md5 : Md5) (w : OutcomeWatch) (io : StoreIo) (filePieceNumber : UInt32)
    (fileData : Option (List UInt8)) : OutcomeWatch :=
  let r := w.dt.storeBase64 io filePieceNumber fileData
  { toWatched := w.toWatched.step md5 (.storeBase64 io filePieceNumber fileData)
    active := w.active
    known := w.known ++ (r.checked.map .checkOk).toList ++ if ends w.dt r && !r.ok then [.pieceRefused] else []
    placed := w.placed <|> r.image.map (w.dt.fileNameLocal, ·)
    noted := w.noted || !r.ok
    ended := if ends w.dt r then some (if r.ok then .succeeded else .pieceRefused) else w.ended }

def runValidityCheck (md5 : Md5) (w : OutcomeWatch) (io : CheckIo) : OutcomeWatch :=
  let r := w.dt.runValidityCheck md5 io
  { toWatched := w.toWatched.step md5 (.runValidityCheck io)
    active := w.active && r.dt.transferState != .IDLE
    known := w.known ++ (r.checked.map .checkOk).toList
    placed := w.placed <|> r.renamed
    noted := w.noted || (endsCheck w.dt r && r.renamed.isNone)
    ended := if endsCheck w.dt r then some (if r.renamed.isSome then .succeeded else .checkFailed) else w.ended }

def step (md5 : Md5) (w : OutcomeWatch) : TransferCall → OutcomeWatch
  | .begin io fileInUse fileSize fileMd5 fileName => w.begin md5 io fileInUse fileSize fileMd5 fileName
  | .storeBase64 io filePieceNumber fileData => w.storeBase64 md5 io filePieceNumber fileData
  | .runValidityCheck io => w.runValidityCheck md5 io
  | .getErrorCode => { w with toWatched := w.toWatched.step md5 .getErrorCode, noted := false }

theorem step_toWatched (md5 : Md5) (w : OutcomeWatch) (e : TransferCall) :
    (w.step md5 e).toWatched = w.toWatched.step md5 e := by
  cases e with
  | begin io fileInUse fileSize fileMd5 fileName =>
    unfold step begin
    simp only
    split
    · rfl
    · rfl
  | _ => rfl

def GivesBack (md5 : Md5) (w : OutcomeWatch) (e : TransferCall) : Prop :=
  w.active = true ∧ (w.step md5 e).active = false ∧ (w.step md5 e).dt.transferState = .IDLE

/-- The whole file that was announced and accepted is in place under its name. -/
def InPlace (w : OutcomeWatch) : Prop :=
  ∃ ses, w.session = some ses ∧ w.placed = some (ses.fileName, ses.accepted) ∧
    ses.accepted.length = ses.fileSize.toNat

/-- A success is announced by one `checkOkCallback(true)` and nothing more, any other end by the piece that was
refused or by one `checkOkCallback(false)`. -/
def EndKnown (w : OutcomeWatch) : Prop :=
  (w.InPlace ∧ w.known = [.checkOk true]) ∨
  (w.placed = none ∧ .checkOk true ∉ w.known ∧ (.pieceRefused ∈ w.known ∨ w.known.count (.checkOk false) = 1))

def EndKnownOnce (w : OutcomeWatch) : Prop :=
  (w.InPlace ∧ w.known = [.checkOk true]) ∨
  (w.placed = none ∧ (w.known = [.pieceRefused] ∨ w.known = [.checkOk false]))

def Announced (md5 : Md5) (w : OutcomeWatch) (e : TransferCall) : Prop :=
  w.GivesBack md5 e → (w.step md5 e).EndKnown

def AnnouncedOnce (md5 : Md5) (w : OutcomeWatch) (e : TransferCall) : Prop :=
  w.GivesBack md5 e → (w.step md5 e).EndKnownOnce

def Closing (w : OutcomeWatch) (io : CheckIo) : Prop :=
  w.active = true ∧ (w.dt.transferState = .CLEANUP ∨ w.dt.timesOut io.now = true)

/-- Where the transfer times out or its check has failed, a call was refused or failed since the errors were last
fetched; where it has succeeded, none was. -/
def EndFits (w : OutcomeWatch) : Prop :=
  match w.ended with
  | none | some .checkFailed => w.noted = true
  | some .succeeded => w.noted = false
  | some .pieceRefused => True

def EndFitsOnce (w : OutcomeWatch) : Prop :=
  match w.ended with
  | none | some .checkFailed => w.noted = true
  | some .succeeded | some .pieceRefused => w.noted = false

def NotesFit (w : OutcomeWatch) (e : TransferCall) : Prop :=
  ∀ io, e = .runValidityCheck io → w.Closing io → w.EndFits

def NotesFitOnce (w : OutcomeWatch) (e : TransferCall) : Prop :=
  ∀ io, e = .runValidityCheck io → w.Closing io → w.EndFitsOnce

/-! ## The invariant -/

structure Loads (dt : DataTransfer) (ses : Session) : Prop where
  name : dt.fileNameLocal = ses.fileName
  image : dt.update = some ses.accepted
  left : ses.accepted.length + dt.remainingFileSizeLocal.toNat = ses.fileSize.toNat

def Loaded (s : Watched) : Prop :=
  s.dt.transferState = .STORING → s.dt.isFwTransfer = true → ∃ ses, s.session = some ses ∧ Loads s.dt ses

inductive Known (w : OutcomeWatch) : Prop
  | running (state : w.dt.transferState = .STORING ∨ w.dt.transferState = .CHECK) (known : w.known = [])
      (placed : w.placed = none) (ended : w.ended = none)
  | succeeded (state : w.dt.transferState = .CLEANUP) (known : w.known = [.checkOk true]) (placed : w.InPlace)
      (ended : w.ended = some .succeeded)
  | refused (state : w.dt.transferState = .CLEANUP) (known : w.known = [.pieceRefused]) (placed : w.placed = none)
      (ended : w.ended = some .pieceRefused)
  | failed (state : w.dt.transferState = .CLEANUP) (known : w.known = []) (placed : w.placed = none)
      (ended : w.ended = some .checkFailed)

structure Inv (w : OutcomeWatch) : Prop where
  faithful : Watched.Faithful w.toWatched
  loaded : Loaded w.toWatched
  noted : w.noted = true ↔ w.dt.dataTransferErrState ≠ 0
  known : w.active = true → w.Known

theorem inv_init (tempFile : Option (List UInt8)) : (init tempFile).Inv where
  faithful := Watched.faithful_init tempFile
  loaded := fun hstate => by cases hstate
  noted := by simp [init, Watched.init, DataTransfer.init]
  known := fun hactive => by cases hactive

theorem Known.unknown {w : OutcomeWatch} (h : w.Known) (hstate : w.dt.transferState ≠ .CLEANUP) :
    w.known = [] ∧ w.placed = none ∧ w.ended = none := by
  cases h with
  | running _ known placed ended => exact ⟨known, placed, ended⟩
  | succeeded state => exact absurd state hstate
  | refused state => exact absurd state hstate
  | failed state => exact absurd state hstate

theorem Known.state_ne {w : OutcomeWatch} (h : w.Known) : w.dt.transferState ≠ .IDLE := by
  intro hs
  cases h with
  | running state =>
    rw [hs] at state
    rcases state with state | state
    all_goals cases state
  | succeeded state =>
    rw [hs] at state
    cases state
  | refused state =>
    rw [hs] at state
    cases state
  | failed state =>
    rw [hs] at state
    cases state

theorem Known.of_same {w w' : OutcomeWatch} (h : w.Known) (hstate : w'.dt.transferState = w.dt.transferState)
    (hsession : w'.session = w.session) (hknown : w'.known = w.known) (hplaced : w'.placed = w.placed)
    (hended : w'.ended = w.ended) : w'.Known := by
  cases h with
  | running state known placed ended =>
    exact .running (hstate ▸ state) (hknown.trans known) (hplaced.trans placed) (hended.trans ended)
  | succeeded state known placed ended =>
    obtain ⟨ses, hses, hplace, hlen⟩ := placed
    exact .succeeded (hstate.trans state) (hknown.trans known)
      ⟨ses, hsession.trans hses, hplaced.trans hplace, hlen⟩ (hended.trans ended)
  | refused state known placed ended =>
    exact .refused (hstate.trans state) (hknown.trans known) (hplaced.trans placed) (hended.trans ended)
  | failed state known placed ended =>
    exact .failed (hstate.trans state) (hknown.trans known) (hplaced.trans placed) (hended.trans ended)

theorem or_code_ne_zero (word : UInt32) (e : DataTransferError) : word ||| e.code ≠ 0 := by
  intro h
  have hcode : e.code = 0 := (UInt32.or_eq_zero_iff.mp h).2
  revert hcode
  cases e
  all_goals decide

theorem errs_ne_zero {dt dt' : DataTransfer} (h : dt.Errs dt') : dt'.dataTransferErrState ≠ 0 := by
  obtain ⟨e, -, herr⟩ := h
  rw [herr]
  exact or_code_ne_zero _ e

/-! ## The calls -/

theorem Loaded.withErrState {s : Watched} (h : Loaded s) (err : UInt32) :
    Loaded ⟨{ s.dt with dataTransferErrState := err }, s.session⟩ := by
  intro hstate hfw
  obtain ⟨ses, hses, hloads⟩ := h hstate hfw
  exact ⟨ses, hses, hloads.name, hloads.image, hloads.left⟩

theorem loaded_begin (md5 : Md5) {s : Watched} (h : Loaded s) (io : BeginIo) (fileInUse : String → Bool)
    (fileSize : UInt32) (fileMd5 : Option (List UInt8)) (fileName : Option String) :
    Loaded (s.step md5 (.begin io fileInUse fileSize fileMd5 fileName)) := by
  rcases s.dt.begin_cases io fileInUse fileSize fileMd5 fileName with ⟨e, -, hb⟩ |
    ⟨md5', name, hcheck, ⟨-, dt', hb, -, -, hplain, -⟩ | ⟨-, -, hb⟩ | ⟨-, hown, hb⟩⟩ <;>
    simp only [Watched.step, hb, Bool.false_eq_true, if_false, if_true]
  · exact h.withErrState _
  · exact fun _ hfw => absurd (hplain.symm.trans hfw) (by decide)
  · obtain ⟨-, rfl, rfl, hvalid, -⟩ := DataTransfer.checkBegin_ok hcheck
    exact fun _ _ => ⟨_, rfl, DataTransfer.copyName_of_valid hvalid, rfl, Nat.zero_add _⟩
  · intro _ hfw
    have hfw : FileName.isOwnFirmwareFileName (DataTransfer.copyName name) = true := hfw
    rw [DataTransfer.copyName_of_valid (DataTransfer.checkBegin_ok hcheck).2.2.2.1, hown] at hfw
    cases hfw

theorem Loads.stored {dt : DataTransfer} {ses : Session} (h : Loads dt ses) (hfw : dt.isFwTransfer = true)
    (io : StoreIo)
    {bytes : List UInt8} (hlen : bytes.length ≤ 126)
    (hroom : UInt32.ofNat bytes.length ≤ dt.remainingFileSizeLocal) :
    Loads (dt.stored io bytes) { ses with accepted := ses.accepted ++ bytes } := by
  refine ⟨h.name, by simp [DataTransfer.stored, hfw, h.image], ?_⟩
  have hbytes : (UInt32.ofNat bytes.length).toNat = bytes.length :=
    UInt32.toNat_ofNat_of_lt' (by simp only [UInt32.size]; omega)
  have hle := UInt32.le_iff_toNat_le.mp hroom
  have hleft := h.left
  simp only [DataTransfer.stored, List.length_append, UInt32.toNat_sub_of_le _ _ hroom, hbytes]
  omega

theorem loaded_step (md5 : Md5) {s : Watched} (h : Loaded s) (e : TransferCall) : Loaded (s.step md5 e) := by
  cases e with
  | begin io fileInUse fileSize fileMd5 fileName => exact loaded_begin md5 h io fileInUse fileSize fileMd5 fileName
  | storeBase64 io filePieceNumber fileData =>
    rcases s.dt.storeBase64_cases io filePieceNumber fileData with ⟨-, hr⟩ | ⟨-, -, hr⟩ |
      ⟨hstoring, -, ⟨e, -, hr⟩ | ⟨-, -, -, hclean, -⟩ | ⟨bytes, hdecode, hroom, -, hstored⟩⟩
    · simp only [Watched.step, hr, Bool.false_eq_true, if_false]
      exact h.withErrState _
    · simp only [Watched.step, hr, Bool.false_eq_true, if_false]
      exact h.withErrState _
    · simp only [Watched.step, hr, Bool.false_eq_true, if_false]
      exact h.withErrState _
    · exact fun hstate _ => absurd (hclean.symm.trans hstate) (by decide)
    cases hstored with
    | more _ hr =>
      simp only [Watched.step, hr, if_true]
      intro _ hfw
      have hfw : s.dt.isFwTransfer = true := hfw
      obtain ⟨ses, hses, hloads⟩ := h hstoring hfw
      refine ⟨{ ses with accepted := ses.accepted ++ Watched.decoded fileData }, by simp [hses], ?_⟩
      rw [Watched.decoded, hdecode]
      exact hloads.stored hfw io (DataTransfer.decodePiece_ok hdecode).2 hroom
    | firmware _ _ hr =>
      simp only [Watched.step, hr]
      exact fun hstate => by cases hstate
    | file _ _ all _ _ hr =>
      simp only [Watched.step, hr]
      exact fun hstate => by cases hstate
  | runValidityCheck io =>
    rcases s.dt.runValidityCheck_cases md5 io with ⟨-, hr⟩ | ⟨-,
      ⟨hidle, hr⟩ | ⟨-, hr⟩ | ⟨hcheck, -, hr⟩ | ⟨-, -, hr⟩⟩
    all_goals simp only [Watched.step, hr]
    · exact fun hstate => by cases hstate
    · exact fun hstate => absurd (hidle.symm.trans hstate) (by decide)
    · exact h
    · intro hstate
      rcases s.dt.readChunk_cases io with ⟨handle, sum, hread⟩ | ⟨hclean, -⟩
      · simp only [hread] at hstate
        exact absurd (hcheck.symm.trans hstate) (by decide)
      · exact absurd (hclean.symm.trans hstate) (by decide)
    · intro hstate
      rcases s.dt.finishCheck_cases md5 io with ⟨dt', hf, hclean, -⟩ | ⟨bytes, -, -, hf⟩
      · simp only [hf] at hstate
        exact absurd (hclean.symm.trans hstate) (by decide)
      · simp only [hf] at hstate
        cases hstate
  | getErrorCode => exact h.withErrState 0

theorem Loads.whole {dt : DataTransfer} {ses : Session} (h : Loads dt ses) (hdone : dt.remainingFileSizeLocal = 0) :
    ses.accepted.length = ses.fileSize.toNat := by
  have hleft := h.left
  rw [hdone] at hleft
  exact hleft

theorem known_begin (md5 : Md5) {w : OutcomeWatch} (h : w.Inv) (io : BeginIo) (fileInUse : String → Bool)
    (fileSize : UInt32) (fileMd5 : Option (List UInt8)) (fileName : Option String) :
    let w' := w.begin md5 io fileInUse fileSize fileMd5 fileName
    (w'.noted = true ↔ w'.dt.dataTransferErrState ≠ 0) ∧ (w'.active = true → w'.Known) := by
  unfold begin Watched.step
  rcases w.dt.begin_cases io fileInUse fileSize fileMd5 fileName with ⟨e, -, hb⟩ |
    ⟨md5', name, -, ⟨-, dt', hb, hsame, -, -, -, herrs⟩ | ⟨-, -, hb⟩ | ⟨-, -, hb⟩⟩ <;>
    simp only [hb, Bool.false_eq_true, if_false, if_true]
  · refine ⟨iff_of_true trivial (or_code_ne_zero _ e), fun hactive => ?_⟩
    exact (h.known hactive).of_same rfl rfl rfl rfl rfl
  · refine ⟨iff_of_true trivial (errs_ne_zero herrs), fun hactive => ?_⟩
    exact (h.known hactive).of_same hsame rfl rfl rfl rfl
  · exact ⟨h.noted, fun _ => .running (Or.inl rfl) rfl rfl rfl⟩
  · exact ⟨h.noted, fun _ => .running (Or.inl rfl) rfl rfl rfl⟩

/-- A piece refused outside STORING, or refused without an end, is noted and nothing more. -/
theorem storeBase64_ignored (md5 : Md5) (w : OutcomeWatch) {io : StoreIo} {filePieceNumber : UInt32}
    {fileData : Option (List UInt8)} {e : DataTransferError}
    (hr : w.dt.storeBase64 io filePieceNumber fileData = ⟨false, w.dt.setError e, none, none⟩) :
    w.storeBase64 md5 io filePieceNumber fileData =
      { w with toWatched := ⟨w.dt.setError e, w.session⟩, noted := true } := by
  have hends : ends w.dt ⟨false, w.dt.setError e, none, none⟩ = false := by
    unfold ends DataTransfer.setError
    cases w.dt.transferState
    all_goals rfl
  unfold storeBase64 Watched.step
  simp [hr, hends]

theorem known_ignored (md5 : Md5) {w : OutcomeWatch} (h : w.Inv) {io : StoreIo} {filePieceNumber : UInt32}
    {fileData : Option (List UInt8)} {e : DataTransferError}
    (hr : w.dt.storeBase64 io filePieceNumber fileData = ⟨false, w.dt.setError e, none, none⟩) :
    let w' := w.storeBase64 md5 io filePieceNumber fileData
    (w'.noted = true ↔ w'.dt.dataTransferErrState ≠ 0) ∧ (w'.active = true → w'.Known) := by
  simp only [storeBase64_ignored md5 w hr]
  exact ⟨iff_of_true trivial (or_code_ne_zero _ e), fun hactive => (h.known hactive).of_same rfl rfl rfl rfl rfl⟩

theorem known_storeBase64 (md5 : Md5) {w : OutcomeWatch} (h : w.Inv) (io : StoreIo) (filePieceNumber : UInt32)
    (fileData : Option (List UInt8)) :
    let w' := w.storeBase64 md5 io filePieceNumber fileData
    (w'.noted = true ↔ w'.dt.dataTransferErrState ≠ 0) ∧ (w'.active = true → w'.Known) := by
  intro w'
  rcases w.dt.storeBase64_cases io filePieceNumber fileData with ⟨-, hr⟩ | ⟨-, -, hr⟩ |
    ⟨hstate, -, ⟨e, -, hr⟩ | ⟨hok, hchecked, himage, hclean, herrs⟩ | ⟨bytes, hdecode, hroom, -, hstored⟩⟩
  · exact known_ignored md5 h hr
  · exact known_ignored md5 h hr
  · exact known_ignored md5 h hr
  · refine ⟨iff_of_true ?_ (errs_ne_zero herrs), fun hactive => ?_⟩
    · simp [w', storeBase64, hok]
    obtain ⟨hnone, hplaced, -⟩ := (h.known hactive).unknown (by simp [hstate])
    refine .refused hclean ?_ ?_ ?_
    · simp [w', storeBase64, hnone, hchecked, ends, hstate, hclean, hok]
    · simp [w', storeBase64, hplaced, himage]
    · simp [w', storeBase64, ends, hstate, hclean, hok]
  have hdecoded : Watched.decoded fileData = bytes := by rw [Watched.decoded, hdecode]
  cases hstored with
  | more _ hr =>
    refine ⟨?_, fun hactive => ?_⟩
    · simpa [w', storeBase64, Watched.step, hr, DataTransfer.stored] using h.noted
    obtain ⟨hnone, hplaced, hended⟩ := (h.known hactive).unknown (by simp [hstate])
    refine .running (Or.inl ?_) ?_ ?_ ?_
    · simp [w', storeBase64, Watched.step, hr, DataTransfer.stored, hstate]
    · simp [w', storeBase64, hr, hnone]
    · simp [w', storeBase64, hr, hplaced]
    · simp [w', storeBase64, hr, ends, DataTransfer.stored, hstate, hended]
  | firmware hleft hfw hr =>
    refine ⟨?_, fun hactive => ?_⟩
    · simpa [w', storeBase64, Watched.step, hr, DataTransfer.stored] using h.noted
    obtain ⟨hnone, hplaced, -⟩ := (h.known hactive).unknown (by simp [hstate])
    obtain ⟨ses, hses, hloads⟩ := h.loaded hstate hfw
    have hnew := hloads.stored hfw io (DataTransfer.decodePiece_ok hdecode).2 hroom
    refine .succeeded ?_ ?_ ⟨{ ses with accepted := ses.accepted ++ bytes }, ?_, ?_, hnew.whole hleft⟩ ?_
    · simp [w', storeBase64, Watched.step, hr]
    · simp [w', storeBase64, hr, hnone]
    · simp [w', storeBase64, Watched.step, hr, hses, hdecoded]
    · simp [w', storeBase64, hr, hplaced, hnew.image, hloads.name]
    · simp [w', storeBase64, hr, ends, hstate]
  | file _ hfw all htemp hsize hr =>
    refine ⟨?_, fun hactive => ?_⟩
    · simpa [w', storeBase64, Watched.step, hr, DataTransfer.stored] using h.noted
    obtain ⟨hnone, hplaced, hended⟩ := (h.known hactive).unknown (by simp [hstate])
    refine .running (Or.inr ?_) ?_ ?_ ?_
    · simp [w', storeBase64, Watched.step, hr]
    · simp [w', storeBase64, hr, hnone]
    · simp [w', storeBase64, hr, hplaced]
    · simp [w', storeBase64, hr, ends, hended]

/-! ## The pass -/

theorem runValidityCheck_outcomes (md5 : Md5) {w : OutcomeWatch} (h : w.Inv) (hactive : w.active = true)
    (io : CheckIo) :
    ((w.dt.transferState = .CLEANUP ∨ w.dt.timesOut io.now = true) ∧
      w.dt.runValidityCheck md5 io = DataTransfer.cleanupTransfer { w.dt with transferState := .CLEANUP }) ∨
    (¬ (w.dt.transferState = .CLEANUP ∨ w.dt.timesOut io.now = true) ∧ (w.runValidityCheck md5 io).Known) := by
  have hknown := h.known hactive
  rcases w.dt.runValidityCheck_cases md5 io with hclosing | ⟨htime, hcase⟩
  · exact Or.inl hclosing
  right
  have hopen : w.dt.transferState ≠ .CLEANUP → ¬ (w.dt.transferState = .CLEANUP ∨ w.dt.timesOut io.now = true) := by
    rintro hne (hs | ht)
    · exact hne hs
    · rw [htime] at ht
      cases ht
  rcases hcase with ⟨hs, -⟩ | ⟨hs, hr⟩ | ⟨hs, -, hr⟩ | ⟨hs, hdone, hr⟩
  · exact absurd hs hknown.state_ne
  all_goals
    have hne : w.dt.transferState ≠ .CLEANUP := by simp [hs]
    obtain ⟨hnone, hplaced, hended⟩ := hknown.unknown hne
    refine ⟨hopen hne, ?_⟩
  · refine .running (Or.inl ?_) ?_ ?_ ?_
    · simp [runValidityCheck, Watched.step, hr, hs]
    · simp [runValidityCheck, hr, hnone]
    · simp [runValidityCheck, hr, hplaced]
    · simp [runValidityCheck, hr, endsCheck, hs, hended]
  · rcases w.dt.readChunk_cases io with ⟨handle, sum, hread⟩ | ⟨hclean, -⟩
    · refine .running (Or.inr ?_) ?_ ?_ ?_
      · simp [runValidityCheck, Watched.step, hr, hread, hs]
      · simp [runValidityCheck, hr, hnone]
      · simp [runValidityCheck, hr, hplaced]
      · simp [runValidityCheck, hr, hread, endsCheck, hs, hended]
    · refine .failed ?_ ?_ ?_ ?_
      · simp [runValidityCheck, Watched.step, hr, hclean]
      · simp [runValidityCheck, hr, hnone]
      · simp [runValidityCheck, hr, hplaced]
      · simp [runValidityCheck, hr, endsCheck, hs, hclean]
  · rcases w.dt.finishCheck_cases md5 io with ⟨dt, hf, hclean, -⟩ | ⟨bytes, htemp, -, hf⟩
    · refine .failed ?_ ?_ ?_ ?_
      · simp [runValidityCheck, Watched.step, hr, hf, hclean]
      · simp [runValidityCheck, hr, hf, hnone]
      · simp [runValidityCheck, hr, hf, hplaced]
      · simp [runValidityCheck, hr, hf, endsCheck, hs, hclean]
    · obtain ⟨ses, pos, hses, habout, hrem, -, -⟩ := h.faithful.checking hs
      obtain rfl : bytes = ses.accepted := Option.some.inj (htemp.symm.trans habout.temp)
      have hleft := habout.left
      rw [hrem] at hleft
      refine .succeeded ?_ ?_ ⟨ses, ?_, ?_, hleft⟩ ?_
      · simp [runValidityCheck, Watched.step, hr, hf]
      · simp [runValidityCheck, hr, hf, hnone]
      · simp [runValidityCheck, Watched.step, hses]
      · simp [runValidityCheck, hr, hf, hplaced, habout.name]
      · simp [runValidityCheck, hr, hf, endsCheck, hs]

theorem noted_runValidityCheck (md5 : Md5) {w : OutcomeWatch} (h : w.Inv) (io : CheckIo) :
    (w.runValidityCheck md5 io).noted = true ↔ (w.runValidityCheck md5 io).dt.dataTransferErrState ≠ 0 := by
  have hnoted := h.noted
  rcases w.dt.runValidityCheck_cases md5 io with ⟨-, hr⟩ | ⟨-, ⟨hs, hr⟩ | ⟨hs, hr⟩ | ⟨hs, -, hr⟩ | ⟨hs, -, hr⟩⟩
  · simpa [runValidityCheck, Watched.step, hr, endsCheck, DataTransfer.cleanupTransfer] using hnoted
  · simpa [runValidityCheck, Watched.step, hr, endsCheck, hs] using hnoted
  · simpa [runValidityCheck, Watched.step, hr, endsCheck, hs] using hnoted
  · rcases w.dt.readChunk_cases io with ⟨handle, sum, hread⟩ | ⟨hclean, herrs⟩
    · simpa [runValidityCheck, Watched.step, hr, hread, endsCheck, hs] using hnoted
    · refine iff_of_true ?_ ?_
      · simp [runValidityCheck, hr, endsCheck, hs, hclean]
      · simpa [runValidityCheck, Watched.step, hr] using errs_ne_zero herrs
  · rcases w.dt.finishCheck_cases md5 io with ⟨dt, hf, hclean, herrs⟩ | ⟨bytes, -, -, hf⟩
    · refine iff_of_true ?_ ?_
      · simp [runValidityCheck, hr, hf, endsCheck, hs, hclean]
      · simpa [runValidityCheck, Watched.step, hr, hf] using errs_ne_zero herrs
    · simpa [runValidityCheck, Watched.step, hr, hf, endsCheck, hs] using hnoted

theorem inv_step (md5 : Md5) {w : OutcomeWatch} (h : w.Inv) (e : TransferCall) (hopens : w.OpensInCheck e) :
    (w.step md5 e).Inv := by
  have hboth : ((w.step md5 e).noted = true ↔ (w.step md5 e).dt.dataTransferErrState ≠ 0) ∧
      ((w.step md5 e).active = true → (w.step md5 e).Known) := by
    cases e with
    | begin io fileInUse fileSize fileMd5 fileName => exact known_begin md5 h io fileInUse fileSize fileMd5 fileName
    | storeBase64 io filePieceNumber fileData => exact known_storeBase64 md5 h io filePieceNumber fileData
    | getErrorCode =>
      refine ⟨by simp [step, Watched.step, DataTransfer.getErrorCode], fun hactive => ?_⟩
      exact (h.known hactive).of_same rfl rfl rfl rfl rfl
    | runValidityCheck io =>
      refine ⟨noted_runValidityCheck md5 h io, fun hactive => ?_⟩
      have hactive : (w.active && (w.dt.runValidityCheck md5 io).dt.transferState != .IDLE) = true := hactive
      rw [Bool.and_eq_true] at hactive
      rcases runValidityCheck_outcomes md5 h hactive.1 io with ⟨-, hr⟩ | ⟨-, hknown⟩
      · rw [hr] at hactive
        cases hactive.2
      · exact hknown
  refine ⟨?_, ?_, hboth.1, hboth.2⟩
  · rw [step_toWatched]
    exact h.faithful.step md5 e hopens
  · rw [step_toWatched]
    exact loaded_step md5 h.loaded e

theorem closing_runValidityCheck (md5 : Md5) {w : OutcomeWatch} (h : w.Inv) {io : CheckIo}
    (hclosing : w.Closing io) :
    w.dt.runValidityCheck md5 io = DataTransfer.cleanupTransfer { w.dt with transferState := .CLEANUP } := by
  rcases runValidityCheck_outcomes md5 h hclosing.1 io with ⟨-, hr⟩ | ⟨hopen, -⟩
  · exact hr
  · exact absurd hclosing.2 hopen

theorem givesBack_iff (md5 : Md5) {w : OutcomeWatch} (h : w.Inv) (e : TransferCall) :
    w.GivesBack md5 e ↔ ∃ io, e = .runValidityCheck io ∧ w.Closing io := by
  constructor
  · rintro ⟨hactive, hover, hidle⟩
    have hkept : ∀ {active : Bool}, active = w.active → active = false → False := by
      intro active hsame hoff
      rw [hsame, hactive] at hoff
      cases hoff
    cases e with
    | begin io fileInUse fileSize fileMd5 fileName =>
      simp only [step, begin] at hover
      split at hover
      · cases hover
      · exact (hkept rfl hover).elim
    | storeBase64 io filePieceNumber fileData => exact (hkept rfl hover).elim
    | getErrorCode => exact (hkept rfl hover).elim
    | runValidityCheck io =>
      refine ⟨io, rfl, hactive, ?_⟩
      rcases runValidityCheck_outcomes md5 h hactive io with ⟨hclosing, -⟩ | ⟨-, hknown⟩
      · exact hclosing
      · exact absurd hidle hknown.state_ne
  · rintro ⟨io, rfl, hclosing⟩
    have hr := closing_runValidityCheck md5 h hclosing
    refine ⟨hclosing.1, ?_, ?_⟩
    · simp [step, runValidityCheck, hr, DataTransfer.cleanupTransfer]
    · simp [step, runValidityCheck, Watched.step, hr, DataTransfer.cleanupTransfer]

def lastCall (w : OutcomeWatch) : List Outcome := if w.noted then [.checkOk false] else []

theorem closing_step (md5 : Md5) {w : OutcomeWatch} (h : w.Inv) {io : CheckIo} (hclosing : w.Closing io) :
    (w.step md5 (.runValidityCheck io)).known = w.known ++ w.lastCall ∧
      (w.step md5 (.runValidityCheck io)).placed = w.placed ∧
      (w.step md5 (.runValidityCheck io)).session = w.session := by
  have hr := closing_runValidityCheck md5 h hclosing
  have hword : 0 < w.dt.dataTransferErrState ↔ w.noted = true := by
    rw [h.noted, UInt32.lt_iff_toNat_lt, ne_eq, ← UInt32.toNat_inj]
    exact Nat.pos_iff_ne_zero
  refine ⟨?_, ?_, rfl⟩
  · cases hnoted : w.noted
    · simp [step, runValidityCheck, hr, DataTransfer.cleanupTransfer, hword, lastCall, hnoted]
    · simp [step, runValidityCheck, hr, DataTransfer.cleanupTransfer, hword, lastCall, hnoted]
  · simp [step, runValidityCheck, hr, DataTransfer.cleanupTransfer]

/-- A condition on what is known at the end is one on the state before the last pass. -/
theorem atEnd_iff {P Q : OutcomeWatch → Prop} (md5 : Md5) {w : OutcomeWatch} (h : w.Inv)
    (hPQ : w.Known → ∀ w' : OutcomeWatch, w'.known = w.known ++ w.lastCall → w'.placed = w.placed →
      w'.session = w.session → (P w' ↔ Q w)) (e : TransferCall) :
    (w.GivesBack md5 e → P (w.step md5 e)) ↔ ∀ io, e = .runValidityCheck io → w.Closing io → Q w := by
  rw [givesBack_iff md5 h]
  constructor
  · rintro hend io rfl hclosing
    obtain ⟨hlast, hplaced, hsession⟩ := closing_step md5 h hclosing
    exact (hPQ (h.known hclosing.1) _ hlast hplaced hsession).mp (hend ⟨io, rfl, hclosing⟩)
  · rintro hfits ⟨io, rfl, hclosing⟩
    obtain ⟨hlast, hplaced, hsession⟩ := closing_step md5 h hclosing
    exact (hPQ (h.known hclosing.1) _ hlast hplaced hsession).mpr (hfits io rfl hclosing)

theorem inPlace_congr {w w' : OutcomeWatch} (hplaced : w'.placed = w.placed) (hsession : w'.session = w.session) :
    w'.InPlace ↔ w.InPlace := by
  unfold InPlace
  rw [hplaced, hsession]

theorem InPlace.placed_ne {w : OutcomeWatch} (h : w.InPlace) : w.placed ≠ none := by
  obtain ⟨ses, -, hplaced, -⟩ := h
  rw [hplaced]
  exact Option.some_ne_none _

theorem announced_iff (md5 : Md5) {w : OutcomeWatch} (h : w.Inv) (e : TransferCall) :
    w.Announced md5 e ↔ w.NotesFit e := by
  refine atEnd_iff (P := EndKnown) (Q := EndFits) md5 h ?_ e
  intro hknown w' hlast hplaced hsession
  rw [EndKnown, inPlace_congr hplaced hsession, hlast, hplaced]
  unfold lastCall EndFits
  cases hnoted : w.noted
  all_goals
    cases hknown with
    | running _ known placed ended => simp [known, placed, ended, InPlace]
    | succeeded _ known placed ended => simp [known, placed, placed.placed_ne, ended]
    | refused _ known placed ended => simp [known, placed, ended, InPlace]
    | failed _ known placed ended => simp [known, placed, ended, InPlace]

theorem announcedOnce_iff (md5 : Md5) {w : OutcomeWatch} (h : w.Inv) (e : TransferCall) :
    w.AnnouncedOnce md5 e ↔ w.NotesFitOnce e := by
  refine atEnd_iff (P := EndKnownOnce) (Q := EndFitsOnce) md5 h ?_ e
  intro hknown w' hlast hplaced hsession
  rw [EndKnownOnce, inPlace_congr hplaced hsession, hlast, hplaced]
  unfold lastCall EndFitsOnce
  cases hnoted : w.noted
  all_goals
    cases hknown with
    | running _ known placed ended => simp [known, placed, ended, InPlace]
    | succeeded _ known placed ended => simp [known, placed, placed.placed_ne, ended]
    | refused _ known placed ended => simp [known, placed, ended, InPlace]
    | failed _ known placed ended => simp [known, placed, ended, InPlace]

/-- Over any sequence of calls in which no `begin` past its checks fails to open its storage while a file is
checked, every transfer that is given back was announced exactly when what was noted fits each time; announced
once, exactly when it fits more closely. -/
theorem one_outcome_iff (md5 : Md5) (tempFile : Option (List UInt8)) (es : List TransferCall) :
    (Meets (step md5) (fun w e => w.OpensInCheck e ∧ w.Announced md5 e) (init tempFile) es ↔
      Meets (step md5) (fun w e => w.OpensInCheck e ∧ w.NotesFit e) (init tempFile) es) ∧
    (Meets (step md5) (fun w e => w.OpensInCheck e ∧ w.AnnouncedOnce md5 e) (init tempFile) es ↔
      Meets (step md5) (fun w e => w.OpensInCheck e ∧ w.NotesFitOnce e) (init tempFile) es) := by
  constructor
  · apply meets_congr (I := Inv) (fun w e h hG => inv_step md5 h e hG.1) _ es (inv_init tempFile)
    exact fun w e h => and_congr_right fun _ => announced_iff md5 h e
  · apply meets_congr (I := Inv) (fun w e h hG => inv_step md5 h e hG.1) _ es (inv_init tempFile)
    exact fun w e h => and_congr_right fun _ => announcedOnce_iff md5 h e

/-- The sender falls silent after `begin`: the pass that gives the transfer back calls nobody. -/
theorem timeout_unannounced :
    ¬ ∀ (md5 : Md5) (tempFile : Option (List UInt8)) (es : List TransferCall),
      Meets (step md5) (Announced md5) (init tempFile) es := by
  intro h
  have hback := (h sampleMd5 none [beginA, .runValidityCheck ⟨900001, true, true⟩]).2.1
  have hgives : ((init none).step sampleMd5 beginA).GivesBack sampleMd5
      (.runValidityCheck ⟨900001, true, true⟩) := by
    refine ⟨?_, ?_, ?_⟩
    all_goals decide +kernel
  have hknown : (((init none).step sampleMd5 beginA).step sampleMd5
      (.runValidityCheck ⟨900001, true, true⟩)).known = [] := by decide +kernel
  rcases hback hgives with ⟨-, hlist⟩ | ⟨-, -, hin | hcount⟩
  · rw [hknown] at hlist
    cases hlist
  · rw [hknown] at hin
    cases hin
  · rw [hknown] at hcount
    cases hcount

end OutcomeWatch

end CanSystems
