import CanSystems.Lib.Machine
import CanSystems.DataTransfer

/-!
# What a rename publishes

A watch over the calls remembers the last `begin` that returned true and the
bytes of the pieces accepted since. A rename publishes those bytes, and they
have the size and the MD5 that call announced, in every run in which no `begin`
fails to open its storage while a check is live.
-/

namespace CanSystems

open Machine

inductive TransferCall
  | begin (io : BeginIo) (fileInUse : String → Bool) (fileSize : UInt32) (fileMd5 : Option (List UInt8))
      (fileName : Option String)
  | storeBase64 (io : StoreIo) (filePieceNumber : UInt32) (fileData : Option (List UInt8))
  | runValidityCheck (io : CheckIo)
  | getErrorCode

/-- A `begin` that returned true, and the bytes accepted since. -/
structure Session where
  fileSize : UInt32
  fileMd5 : List UInt8
  fileName : String
  accepted : List UInt8
  deriving DecidableEq, Repr

structure Watched where
  dt : DataTransfer
  session : Option Session
  deriving DecidableEq, Repr

namespace Watched

def init (tempFile : Option (List UInt8)) : Watched := ⟨.init tempFile, none⟩

def decoded (fileData : Option (List UInt8)) : List UInt8 :=
  match DataTransfer.decodePiece fileData with
  | .error _ => []
  | .ok bytes => bytes

def step (md5 : Md5) (s : Watched) : TransferCall → Watched
  | .begin io fileInUse fileSize fileMd5 fileName =>
    let (ok, dt) := s.dt.begin io fileInUse fileSize fileMd5 fileName
    ⟨dt, if ok then some ⟨fileSize, fileMd5.getD [], fileName.getD "", []⟩ else s.session⟩
  | .storeBase64 io filePieceNumber fileData =>
    let r := s.dt.storeBase64 io filePieceNumber fileData
    ⟨r.dt, if r.ok then s.session.map fun ses => { ses with accepted := ses.accepted ++ decoded fileData } else
      s.session⟩
  | .runValidityCheck io => { s with dt := (s.dt.runValidityCheck md5 io).dt }
  | .getErrorCode => { s with dt := s.dt.getErrorCode.2 }

def renamed (md5 : Md5) (s : Watched) : TransferCall → Option (String × List UInt8)
  | .runValidityCheck io => (s.dt.runValidityCheck md5 io).renamed
  | _ => none

/-- The claimed property of one call: what it renames is what one `begin` announced. -/
def Publishes (md5 : Md5) (s : Watched) (e : TransferCall) : Prop :=
  ∀ name bytes, s.renamed md5 e = some (name, bytes) → ∃ ses, s.session = some ses ∧
    name = ses.fileName ∧ bytes = ses.accepted ∧ bytes.length = ses.fileSize.toNat ∧
    equalsIgnoreCase (md5 bytes).toList ses.fileMd5 = true

/-- A `begin` past its checks opens its storage if a check is live, and announces no more of an MD5 than an
MD5 has. -/
def Sound (s : Watched) : TransferCall → Prop
  | .begin io fileInUse fileSize fileMd5 fileName => ∀ md5 name,
      DataTransfer.checkBegin fileInUse fileSize fileMd5 fileName = .ok (md5, name) →
      (s.dt.transferState = .CHECK → s.dt.storageReady io fileSize name = true) ∧
      (s.dt.storageReady io fileSize name = true → FileName.isOwnFirmwareFileName name = false → md5.length ≤ 32)
  | _ => True

/-- A `begin` past its checks opens its storage if a check is live. -/
def OpensInCheck (s : Watched) : TransferCall → Prop
  | .begin io fileInUse fileSize fileMd5 fileName => ∀ md5 name,
      DataTransfer.checkBegin fileInUse fileSize fileMd5 fileName = .ok (md5, name) →
      s.dt.transferState = .CHECK → s.dt.storageReady io fileSize name = true
  | _ => True

theorem Sound.opensInCheck {s : Watched} {e : TransferCall} (h : s.Sound e) : s.OpensInCheck e := by
  cases e with
  | begin io fileInUse fileSize fileMd5 fileName => exact fun md5 name hcheck => (h md5 name hcheck).1
  | _ => trivial

/-! ## The invariant -/

/-- The transfer is about the session, and its file is not the device's own firmware. -/
structure About (dt : DataTransfer) (ses : Session) : Prop where
  file : FileName.isOwnFirmwareFileName ses.fileName = false
  name : dt.fileNameLocal = ses.fileName
  size : dt.fileSizeLocal = ses.fileSize
  md5 : dt.fileMd5Local = ses.fileMd5.take (DataTransfer.fileMd5Size - 1)
  temp : dt.tempFile = some ses.accepted
  left : ses.accepted.length + dt.remainingFileSizeLocal.toNat = ses.fileSize.toNat

/-- The temp file holds what was accepted, and in CHECK the sum is over the part read. -/
structure Faithful (s : Watched) : Prop where
  storing : s.dt.transferState = .STORING → s.dt.isFwTransfer = false → s.dt.receivedFile = some .w →
    ∃ ses, s.session = some ses ∧ About s.dt ses
  checking : s.dt.transferState = .CHECK → ∃ ses pos, s.session = some ses ∧ About s.dt ses ∧
    s.dt.remainingFileSizeLocal = 0 ∧ s.dt.receivedFile = some (.r pos) ∧ s.dt.md5 = ses.accepted.take pos

theorem faithful_init (tempFile : Option (List UInt8)) : Faithful (init tempFile) :=
  ⟨by simp [init, DataTransfer.init], by simp [init, DataTransfer.init]⟩

theorem Faithful.of_state {s : Watched} (h : s.dt.transferState = .IDLE ∨ s.dt.transferState = .CLEANUP) :
    Faithful s := by
  constructor <;> rcases h with h | h <;> simp [h]

theorem Faithful.withErrState {s : Watched} (h : Faithful s) (err : UInt32) :
    Faithful ⟨{ s.dt with dataTransferErrState := err }, s.session⟩ := by
  refine ⟨fun hs hfw hw => ?_, fun hc => ?_⟩
  · obtain ⟨ses, hses, habout⟩ := h.storing hs hfw hw
    exact ⟨ses, hses, ⟨habout.file, habout.name, habout.size, habout.md5, habout.temp, habout.left⟩⟩
  · obtain ⟨ses, pos, hses, habout, hrest⟩ := h.checking hc
    exact ⟨ses, pos, hses, ⟨habout.file, habout.name, habout.size, habout.md5, habout.temp, habout.left⟩, hrest⟩

theorem Faithful.begin {s : Watched} (h : Faithful s) (md5 : Md5) {io : BeginIo} {fileInUse : String → Bool}
    {fileSize : UInt32} {fileMd5 : Option (List UInt8)} {fileName : Option String}
    (hopens : s.OpensInCheck (.begin io fileInUse fileSize fileMd5 fileName)) :
    Faithful (s.step md5 (.begin io fileInUse fileSize fileMd5 fileName)) := by
  rcases s.dt.begin_cases io fileInUse fileSize fileMd5 fileName with ⟨e, -, hb⟩ |
    ⟨md5', name, hcheck, ⟨hready, dt', hb, hstate, hclosed, -⟩ | ⟨-, hown, hb⟩ | ⟨-, hown, hb⟩⟩ <;>
    simp only [step, hb, Bool.false_eq_true, if_false, if_true]
  · exact h.withErrState _
  · refine ⟨fun _ _ hw => ?_, fun hc => ?_⟩
    · rw [hclosed] at hw
      cases hw
    · rw [hopens md5' name hcheck (hstate ▸ hc)] at hready
      cases hready
  · refine ⟨fun _ _ hw => ?_, fun hc => (by cases hc)⟩
    cases hw
  · obtain ⟨-, rfl, rfl, hvalid, -⟩ := DataTransfer.checkBegin_ok hcheck
    refine ⟨fun _ _ _ => ⟨_, rfl, ?_⟩, fun hc => (by cases hc)⟩
    exact ⟨hown, DataTransfer.copyName_of_valid hvalid, rfl, rfl, rfl, Nat.zero_add _⟩

theorem About.stored {dt : DataTransfer} {ses : Session} (h : About dt ses) (hfw : dt.isFwTransfer = false)
    (io : StoreIo)
    {bytes : List UInt8} (hlen : bytes.length ≤ 126)
    (hroom : UInt32.ofNat bytes.length ≤ dt.remainingFileSizeLocal) :
    About (dt.stored io bytes) { ses with accepted := ses.accepted ++ bytes } := by
  refine ⟨h.file, h.name, h.size, h.md5, by simp [DataTransfer.stored, hfw, h.temp], ?_⟩
  have hbytes : (UInt32.ofNat bytes.length).toNat = bytes.length :=
    UInt32.toNat_ofNat_of_lt' (by simp only [UInt32.size]; omega)
  have hle := UInt32.le_iff_toNat_le.mp hroom
  have hleft := h.left
  simp only [DataTransfer.stored, List.length_append, UInt32.toNat_sub_of_le _ _ hroom, hbytes]
  omega

theorem Faithful.storeBase64 {s : Watched} (h : Faithful s) (md5 : Md5) (io : StoreIo) (filePieceNumber : UInt32)
    (fileData : Option (List UInt8)) : Faithful (s.step md5 (.storeBase64 io filePieceNumber fileData)) := by
  rcases s.dt.storeBase64_cases io filePieceNumber fileData with ⟨-, hr⟩ | ⟨-, -, hr⟩ |
    ⟨hstate, -, ⟨e, -, hr⟩ | ⟨hok, -, -, hclean, -⟩ | ⟨bytes, hdecode, hroom, hopen, hr⟩⟩
  · simp only [step, hr, Bool.false_eq_true, if_false]
    exact h.withErrState _
  · simp only [step, hr, Bool.false_eq_true, if_false]
    exact h.withErrState _
  · simp only [step, hr, Bool.false_eq_true, if_false]
    exact h.withErrState _
  · exact .of_state (Or.inr hclean)
  have hdecoded : decoded fileData = bytes := by rw [decoded, hdecode]
  have hlen := (DataTransfer.decodePiece_ok hdecode).2
  cases hr with
  | more left hr =>
    simp only [step, hr, if_true, hdecoded]
    refine ⟨fun _ hfw hw => ?_, fun hc => ?_⟩
    · obtain ⟨ses, hses, habout⟩ := h.storing hstate hfw hw
      exact ⟨_, by simp [hses], habout.stored hfw io hlen hroom⟩
    · simp [DataTransfer.stored, hstate] at hc
  | firmware left fw hr => exact .of_state (Or.inr (by simp [step, hr]))
  | file left fw all temp size hr =>
    simp only [step, hr, if_true, hdecoded]
    refine ⟨fun hs => (by cases hs), fun _ => ?_⟩
    rcases hopen with hfw | ⟨hfw, hw⟩
    · rw [fw] at hfw; cases hfw
    obtain ⟨ses, hses, habout⟩ := h.storing hstate hfw hw
    have hnew := habout.stored hfw io hlen hroom
    exact ⟨_, 0, by simp [hses], ⟨hnew.file, hnew.name, hnew.size, hnew.md5, hnew.temp, hnew.left⟩, left,
      rfl, by simp⟩

theorem Faithful.runValidityCheck {s : Watched} (h : Faithful s) (md5 : Md5) (io : CheckIo) :
    Faithful (s.step md5 (.runValidityCheck io)) := by
  rcases s.dt.runValidityCheck_cases md5 io with ⟨-, hr⟩ | ⟨-,
    ⟨hidle, hr⟩ | ⟨-, hr⟩ | ⟨hstate, hleft, hr⟩ | ⟨-, -, hr⟩⟩
  · exact .of_state (Or.inl (by simp [step, hr, DataTransfer.cleanupTransfer]))
  · exact .of_state (Or.inl (by simp [step, hr, hidle]))
  · simp only [step, hr]
    exact ⟨h.storing, h.checking⟩
  · obtain ⟨ses, pos, hses, habout, hrem, hpos, hmd5⟩ := h.checking hstate
    simp only [step, hr, DataTransfer.readChunk, hpos, habout.temp]
    split
    · refine ⟨fun hs => ?_, fun _ =>
        ⟨ses, _, hses, ⟨habout.file, habout.name, habout.size, habout.md5, rfl, habout.left⟩, hrem, rfl, ?_⟩⟩
      · simp [hstate] at hs
      · change s.dt.md5 ++ _ = _
        rw [hmd5, List.take_add, List.length_take, ← List.take_eq_take_min]
    · exact .of_state (Or.inr rfl)
  · rcases s.dt.finishCheck_cases md5 io with ⟨dt', hf, hclean, -⟩ | ⟨bytes, -, -, hf⟩
    · exact .of_state (Or.inr (by simp [step, hr, hf, hclean]))
    · exact .of_state (Or.inr (by simp [step, hr, hf]))

theorem Faithful.step {s : Watched} (h : Faithful s) (md5 : Md5) (e : TransferCall) (hopens : s.OpensInCheck e) :
    Faithful (s.step md5 e) := by
  cases e with
  | begin io fileInUse fileSize fileMd5 fileName => exact h.begin md5 hopens
  | storeBase64 io filePieceNumber fileData => exact h.storeBase64 md5 io filePieceNumber fileData
  | runValidityCheck io => exact h.runValidityCheck md5 io
  | getErrorCode => exact h.withErrState 0

def ShortMd5 (s : Watched) : Prop :=
  ∀ ses, s.session = some ses → FileName.isOwnFirmwareFileName ses.fileName = false → ses.fileMd5.length ≤ 32

theorem ShortMd5.step {s : Watched} (h : ShortMd5 s) (md5 : Md5) (e : TransferCall) (hsound : s.Sound e) :
    ShortMd5 (s.step md5 e) := by
  cases e with
  | begin io fileInUse fileSize fileMd5 fileName =>
    rcases s.dt.begin_cases io fileInUse fileSize fileMd5 fileName with ⟨e, -, hb⟩ |
      ⟨md5', name, hcheck, ⟨-, dt', hb, -⟩ | ⟨hready, hown, hb⟩ | ⟨hready, hown, hb⟩⟩ <;>
      intro ses hses hfile <;>
      simp only [Watched.step, hb, Bool.false_eq_true, if_false, if_true] at hses
    · exact h ses hses hfile
    · exact h ses hses hfile
    all_goals
      obtain ⟨-, rfl, rfl, -, -⟩ := DataTransfer.checkBegin_ok hcheck
      cases hses
    · exact absurd (hfile.symm.trans hown) (by decide)
    · exact (hsound md5' name hcheck).2 hready hown
  | storeBase64 io filePieceNumber fileData =>
    intro ses hses hfile
    simp only [Watched.step] at hses
    split at hses
    · obtain ⟨ses', hses', rfl⟩ := Option.map_eq_some_iff.mp hses
      exact h ses' hses' hfile
    · exact h ses hses hfile
  | runValidityCheck io => exact h
  | getErrorCode => exact h

theorem Faithful.publishes {s : Watched} (h : Faithful s) (hshort : ShortMd5 s) (md5 : Md5) (e : TransferCall) :
    s.Publishes md5 e := by
  intro name bytes hrenamed
  cases e with
  | runValidityCheck io =>
    rw [renamed] at hrenamed
    rcases s.dt.runValidityCheck_cases md5 io with ⟨-, hr⟩ | ⟨-,
      ⟨-, hr⟩ | ⟨-, hr⟩ | ⟨-, -, hr⟩ | ⟨hstate, hdone, hr⟩⟩ <;>
      rw [hr] at hrenamed
    · simp [DataTransfer.cleanupTransfer] at hrenamed
    · cases hrenamed
    · cases hrenamed
    · cases hrenamed
    obtain ⟨ses, pos, hses, habout, hrem, hpos, hmd5⟩ := h.checking hstate
    rcases s.dt.finishCheck_cases md5 io with ⟨dt', hf, -⟩ | ⟨all, htemp, hequal, hf⟩ <;> rw [hf] at hrenamed
    · cases hrenamed
    obtain ⟨rfl, rfl⟩ : s.dt.fileNameLocal = name ∧ all = bytes := by simpa using hrenamed
    obtain rfl : all = ses.accepted := Option.some.inj (htemp.symm.trans habout.temp)
    have hall : s.dt.md5 = ses.accepted := by
      rw [hmd5]
      simp only [DataTransfer.available, hpos, htemp] at hdone
      exact List.take_of_length_le (by omega)
    have hleft := habout.left
    rw [hrem] at hleft
    have hwhole : s.dt.fileMd5Local = ses.fileMd5 :=
      habout.md5.trans (List.take_of_length_le (hshort ses hses habout.file))
    rw [hall, hwhole] at hequal
    exact ⟨ses, hses, habout.name, rfl, by simpa using hleft, hequal⟩
  | _ => cases hrenamed

end Watched

open Watched in
/-- A rename publishes what one `begin` announced, in every run whose `begin` calls are sound. -/
theorem renamed_content_verified (md5 : Md5) (tempFile : Option (List UInt8)) (es : List TransferCall)
    (e : TransferCall)
    (h : Meets (step md5) Sound (init tempFile) es) : (run (step md5) (init tempFile) es).Publishes md5 e := by
  have hshort : ShortMd5 (init tempFile) := fun ses hses => by cases hses
  have hrun := run_inv (I := fun s => Faithful s ∧ ShortMd5 s)
    (fun _ e hI hG => ⟨hI.1.step md5 e hG.opensInCheck, hI.2.step md5 e hG⟩) ⟨faithful_init tempFile, hshort⟩ h
  exact hrun.1.publishes hrun.2 md5 e

/-! ## Runs on one byte -/

def beginA : TransferCall :=
  .begin .smooth (fun _ => false) 1 (some md5OfA) (some FileName.tubeConfigLocation)

def oneByteUpload : List TransferCall :=
  [beginA, .storeBase64 .smooth 0 (some (ascii "QQ==")), .runValidityCheck .smooth]

open Watched in
theorem renamed_content_verified_oneByteUpload :
    let s := run (step sampleMd5) (init none) oneByteUpload
    s.renamed sampleMd5 (.runValidityCheck .smooth) = some (FileName.tubeConfigLocation, [0x41]) ∧
    s.Publishes sampleMd5 (.runValidityCheck .smooth) := by
  refine ⟨by decide +kernel, renamed_content_verified sampleMd5 none oneByteUpload (.runValidityCheck .smooth)
    ⟨fun md5 name hcheck => ?_, trivial, trivial, trivial⟩⟩
  have hok : DataTransfer.checkBegin (fun _ => false) 1 (some md5OfA)
      (some FileName.tubeConfigLocation) = .ok (md5OfA, FileName.tubeConfigLocation) := by
    rfl
  cases hok.symm.trans hcheck
  exact ⟨fun _ => (by decide), fun _ _ => (by decide)⟩

/-- A second `begin` comes while the first file is checked, and finds too little room. -/
def failedBegin : List TransferCall :=
  [beginA, .storeBase64 .smooth 0 (some (ascii "QQ==")),
   .begin .smooth (fun _ => false) 5000 (some md5OfNothing)
     (some FileName.mqttServerCredLocation)]

open Watched in
theorem renamed_content_not_always_verified :
    ¬ ∀ (md5 : Md5) (tempFile : Option (List UInt8)) (es : List TransferCall) (e : TransferCall),
      (run (step md5) (init tempFile) es).Publishes md5 e := by
  intro h
  obtain ⟨ses, hses, hname, -⟩ := h sampleMd5 none failedBegin (.runValidityCheck .smooth)
    FileName.mqttServerCredLocation [] (by decide +kernel)
  have hlast : (run (step sampleMd5) (init none) failedBegin).session =
      some ⟨1, md5OfA, FileName.tubeConfigLocation, [0x41]⟩ := by decide +kernel
  cases hlast.symm.trans hses
  exact absurd hname (by decide)

end CanSystems
