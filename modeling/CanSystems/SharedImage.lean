import CanSystems.Lib.Machine
import CanSystems.OtaRegistry

/-!
# Whose image facts are sent

Files are queued from one task while the targets take their turns in another, so
a file can be queued at any point of a target's pass. A turn is taken and the
transfer started in one step: nothing between the two can tell them apart, since
`queueForFile` touches no transfer and a target that has been given its turn has
its file in transfer. The report of a target comes after its pass, and a file may
be queued in between.
-/

namespace CanSystems

open Machine

structure SharedImage (n : Nat) where
  registry : OtaRegistry n
  files : LittleFS
  /-- The target that has summed its file and not reported yet. -/
  reporting : Option (Fin n)

inductive BatchEvent (n : Nat)
  | queueForFile (fileName : Option String)
  | run (i : Fin n) (online : Bool) (startTime : UInt32) (io : PassIo)
  | reportImage
  | answer (i : Fin n) (frame : CanFrame)
  | changeFile (fileName : String) (data : Option FileData)

def CanOta.summing (ota : CanOta) : Bool := ota.transferState == .START && !ota.imageCrcKnown

def OtaImageInfo.Describes (image : OtaImageInfo) (data : FileData) : Prop :=
  image.valid = true → image.size = (⟨data, 0⟩ : File).size → image.crc = crcOf data.bytes

instance (image : OtaImageInfo) (data : FileData) : Decidable (image.Describes data) :=
  inferInstanceAs (Decidable (_ → _ → _))

def File.image (file : File) : OtaImageInfo := ⟨file.size, crcOf file.data.bytes, true⟩

theorem File.image_describes (file : File) : file.image.Describes file.data := fun _ _ => rfl

namespace SharedImage

variable {n : Nat} (fwFileName : Fin n → Option String)

def init (files : LittleFS) : SharedImage n := ⟨.init, files, none⟩

def step (s : SharedImage n) : BatchEvent n → SharedImage n
  | .queueForFile fileName => { s with registry := s.registry.queueForFile fwFileName fileName }
  | .run i online startTime io =>
    if s.reporting.isSome then s else
    let r := s.registry.runTarget fwFileName s.files i online startTime io
    { s with registry := r.registry, reporting := if r.owesReport then some i else none }
  | .reportImage =>
    match s.reporting with
    | none => s
    | some i => { s with registry := s.registry.reportImage (s.registry.targets i).image, reporting := none }
  | .answer i frame => { s with registry := s.registry.deliver i frame }
  | .changeFile fileName data =>
    if s.registry.isFileInUse fwFileName (some fileName) then s else
    { s with files := Function.update s.files fileName data }

def sent (s : SharedImage n) : BatchEvent n → Option (Fin n × CanFrame)
  | .run i online startTime io =>
    if s.reporting.isSome then none else
    (s.registry.runTarget fwFileName s.files i online startTime io).pass.sent.map (i, ·)
  | _ => none

/-- The claimed property of one step: an announcement is about the file its target has open. -/
def FactsMatch (s : SharedImage n) (e : BatchEvent n) : Prop :=
  ∀ i frame, s.sent fwFileName e = some (i, frame) → frame.cmd = .OTA_START →
    ∃ file, ((s.step fwFileName e).registry.targets i).canOta.receivedFile = some file ∧
      (OtaCanFrame.unpackStart frame.data).fwSize = file.size ∧
      (OtaCanFrame.unpackStart frame.data).fwCrc = crcOf file.data.bytes

def content (s : SharedImage n) (j : Fin n) : Option FileData := (fwFileName j).bind s.files

/-- A checksum that is still to be reported would not pass for that of the file queued now. -/
def Settled (s : SharedImage n) : BatchEvent n → Prop
  | .queueForFile (some fileName) => ∀ j data, fwFileName j = some fileName → s.files fileName = some data →
      (∀ i file, (s.registry.targets i).canOta.summing = true →
        (s.registry.targets i).canOta.receivedFile = some file → file.image.Describes data) ∧
      (∀ i, s.reporting = some i → (s.registry.targets i).image.Describes data)
  | _ => True

end SharedImage

/-! ## What a transfer knows of its file -/

namespace CanOta

/-- Until the announcement the checksum is that of the bytes read, then that of the whole file. -/
def Summed (ota : CanOta) : Prop :=
  ota.transferState = .START → ∃ file, ota.receivedFile = some file ∧ ota.fileSize = file.size ∧
    ota.sharesImage = true ∧
    (ota.imageCrcKnown = true → ota.imageCrc = crcOf file.data.bytes) ∧
    (ota.imageCrcKnown = false → ota.crc16 = Crc16.init.next (file.data.bytes.take file.pos))

def Reads (ota : CanOta) (fileName : Option String) (fs : LittleFS) : Prop :=
  ota.isOtaInProgress = true → fileName.isSome ∧
    ∀ file, ota.receivedFile = some file → fileName.bind fs = some file.data

structure PassSpec (ota : CanOta) (image : OtaImageInfo) (p : Pass) : Prop where
  summed : p.ota.Summed
  inProgress : p.ota.isOtaInProgress = true → ota.isOtaInProgress = true
  sameFile : ∀ file, p.ota.receivedFile = some file → ∃ file', ota.receivedFile = some file' ∧
    file'.data = file.data
  summing : p.ota.summing = true → ota.summing = true
  image : p.image = image ∨ ota.summing = true ∧ ∃ file, ota.receivedFile = some file ∧ p.image = file.image
  sent : ∀ frame, p.sent = some frame → frame.cmd = .OTA_START → ∃ file, p.ota.receivedFile = some file ∧
    (OtaCanFrame.unpackStart frame.data).fwSize = file.size ∧
    (OtaCanFrame.unpackStart frame.data).fwCrc = crcOf file.data.bytes

theorem summed_of_ne {ota : CanOta} (h : ota.transferState ≠ .START) : ota.Summed := fun hs => absurd hs h

theorem summing_of_ne {ota : CanOta} (h : ota.transferState ≠ .START) : ota.summing = false := by
  simp [CanOta.summing, h]

theorem PassSpec.of_sending {ota : CanOta} {image : OtaImageInfo} {p : Pass}
    (hprogress : ota.isOtaInProgress = true)
    (hstate : p.ota.transferState ≠ .START) (himage : p.image = image)
    (hfile : ∀ file, p.ota.receivedFile = some file → ∃ file', ota.receivedFile = some file' ∧
      file'.data = file.data)
    (hsent : ∀ frame, p.sent = some frame → frame.cmd ≠ .OTA_START) : ota.PassSpec image p where
  summed := summed_of_ne hstate
  inProgress _ := hprogress
  sameFile := hfile
  summing h := absurd h (by simp [summing_of_ne hstate])
  image := Or.inl himage
  sent frame h hcmd := absurd hcmd (hsent frame h)

theorem sendStart_spec (ota : CanOta) (image : OtaImageInfo) {image₀ : OtaImageInfo} {file : File} (io : PassIo)
    (hprogress : ota.isOtaInProgress = true) (hfile : ota.receivedFile = some file)
    (hsize : ota.fileSize = file.size)
    (hcrc : ota.imageCrc = crcOf file.data.bytes)
    (himage : image = image₀ ∨ ota.summing = true ∧ ∃ file, ota.receivedFile = some file ∧ image = file.image) :
    ota.PassSpec image₀ (ota.sendStart io image) := by
  rcases ota.sendStart_cases io image with ⟨frame, h, hframe, -⟩ | h <;> rw [h]
  · refine ⟨summed_of_ne (by simp), fun _ => hprogress, ?_, fun h => ?_, himage, ?_⟩
    · intro f hf
      refine ⟨file, hfile, ?_⟩
      simp only [hfile, Option.map_some, Option.some.injEq] at hf
      rw [← hf]; rfl
    · simp [CanOta.summing] at h
    · rintro frame' ⟨⟩ -
      refine ⟨file.rewind, by simp [hfile], ?_⟩
      rw [hframe, OtaCanFrame.unpackStart_packStart]
      exact ⟨hsize, hcrc⟩
  · refine ⟨summed_of_ne (by simp), fun _ => hprogress, ?_, fun h => ?_, himage, by simp⟩
    · intro f hf
      refine ⟨file, hfile, ?_⟩
      simp only [hfile, Option.map_some, Option.some.injEq] at hf
      rw [← hf]; rfl
    · simp [CanOta.summing] at h

theorem sendNextPiece_spec {ota : CanOta} (hprogress : ota.isOtaInProgress = true) (io : PassIo)
    (image : OtaImageInfo) :
    ota.PassSpec image (sendNextPiece { ota with otaTimeoutTimer := io.now } io image) := by
  rcases sendNextPiece_cases { ota with otaTimeoutTimer := io.now } io image with ⟨-, h⟩ | ⟨file, k, hfile, h⟩ |
    ⟨file, hfile, -, h⟩ <;> rw [h]
  · exact .of_sending hprogress (by simp) rfl (fun f hf => ⟨f, hf, rfl⟩) (by simp)
  · exact .of_sending hprogress (by simp) rfl hfile (by simp)
  · refine .of_sending hprogress (by simp) rfl ?_ ?_
    · rintro f ⟨⟩
      exact ⟨file, hfile, rfl⟩
    · rintro frame ⟨⟩
      simp

theorem checksumOrSendStart_spec {ota : CanOta} (h : ota.Summed) (hstart : ota.transferState = .START) (io : PassIo)
    (image : OtaImageInfo) : ota.PassSpec image (ota.checksumOrSendStart io image) := by
  obtain ⟨file, hfile, hsize, hshares, hknown, hread⟩ := h hstart
  have hprogress : ota.isOtaInProgress = true := by simp [isOtaInProgress, hstart]
  rcases ota.checksumOrSendStart_cases io image with ⟨hk, h⟩ | ⟨hk, h⟩ | ⟨hk, file', n, hfile', hn, h⟩ |
    ⟨hk, hdone, h⟩ <;> rw [h]
  · exact sendStart_spec ota _ io hprogress hfile hsize (hknown hk) (Or.inl rfl)
  · exact .of_sending hprogress (by simp) rfl (fun f hf => ⟨f, hf, rfl⟩) (by simp)
  · obtain rfl : file = file' := Option.some.inj (hfile.symm.trans hfile')
    refine ⟨fun _ => ⟨_, rfl, hsize, hshares, fun hk' => ?_, fun _ => ?_⟩, fun _ => hprogress, ?_, fun _ => ?_,
      Or.inl rfl, by simp⟩
    · rw [hk] at hk'; cases hk'
    · change ota.crc16.next (file.next n) = _
      rw [hread hk, ← Crc16.next_append, File.next, List.take_add]
    · rintro f ⟨⟩
      exact ⟨file, hfile, rfl⟩
    · simp [CanOta.summing, hstart, hk]
  · have hall : file.data.bytes.take file.pos = file.data.bytes := by
      apply List.take_of_length_le
      simp only [available, hfile, File.available] at hdone
      omega
    have hcrc : ota.crc16.get = crcOf file.data.bytes := by rw [hread hk, hall, get_next_init]
    have hsumming : ota.summing = true := by simp [CanOta.summing, hstart, hk]
    have hspec := sendStart_spec { ota with imageCrc := ota.crc16.get, imageCrcKnown := true }
      ⟨ota.fileSize, ota.crc16.get, true⟩ io hprogress hfile hsize hcrc (Or.inl rfl)
    rw [if_pos hshares]
    refine ⟨hspec.summed, fun _ => hprogress, hspec.sameFile, fun _ => hsumming, Or.inr ⟨hsumming, file, hfile, ?_⟩,
      hspec.sent⟩
    rcases hspec.image with himage | ⟨himage, -⟩
    · rw [himage, hsize, hcrc, File.image]
    · simp [CanOta.summing] at himage

theorem runOta_spec {ota : CanOta} (h : ota.Summed) (io : PassIo) (image : OtaImageInfo) :
    ota.PassSpec image (ota.runOta io image) := by
  rcases ota.runOta_cases io image with ⟨ht, h'⟩ | ⟨hs, h'⟩ | ⟨hs, h'⟩ | ⟨hs, h'⟩ | ⟨hs, h'⟩ | ⟨hs, h'⟩ <;> rw [h']
  · have hprogress : ota.isOtaInProgress = true := by
      simp only [timesOut, otaInProgress, Bool.and_eq_true, Bool.or_eq_true, beq_iff_eq] at ht
      rcases ht.2 with (hs | hs) | hs <;> simp [isOtaInProgress, hs]
    exact .of_sending hprogress (by simp [conclude]) rfl (by simp [conclude]) (by simp [conclude])
  · refine ⟨summed_of_ne (by simp [hs]), fun h => h, fun f hf => ⟨f, hf, rfl⟩, fun h => h, Or.inl rfl, by simp⟩
  · exact .of_sending (by simp [isOtaInProgress, hs]) (by simp [hs]) rfl (fun f hf => ⟨f, hf, rfl⟩) (by simp)
  · exact checksumOrSendStart_spec h hs io image
  · have hprogress : ota.isOtaInProgress = true := by simp [isOtaInProgress, hs]
    exact sendNextPiece_spec hprogress io image
  · have hprogress : ota.isOtaInProgress = true := by rcases hs with hs | hs <;> simp [isOtaInProgress, hs]
    exact .of_sending hprogress (by simp [conclude]) rfl (by simp [conclude]) (by simp [conclude])

/-- A transfer starts with facts that describe its file, or with its file unread. -/
theorem startOta_spec {ota : CanOta} {image : OtaImageInfo} {fileName : Option String} {fs : LittleFS}
    (hidle : ota.isOtaInProgress = false) (himage : ∀ data, fileName.bind fs = some data → image.Describes data)
    (now : UInt32) (storageNumber : UInt16) :
    let ota' := (ota.startOta now fs fileName storageNumber (some image)).2
    ota'.Summed ∧ ota'.Reads fileName fs := by
  replace hidle : ota.transferState = .IDLE := by simpa [isOtaInProgress] using hidle
  rcases ota.startOta_cases now fs fileName storageNumber (some image) with ⟨code, -, h⟩ |
    ⟨code, -, name, size, -, rfl, h⟩ | ⟨name, data, -, rfl, hfile, -, h⟩ <;> rw [h]
  · exact ⟨summed_of_ne (by simp [hidle]), by simp [Reads, isOtaInProgress, hidle]⟩
  · exact ⟨summed_of_ne (by simp), by simp [Reads]⟩
  · refine ⟨fun _ => ⟨_, rfl, rfl, rfl, fun hk => ?_, fun _ => by simp⟩, ?_⟩
    · replace hk : knownFrom (some image) (⟨data, 0⟩ : File).size = true := hk
      simp only [hk, if_true, Option.getD_some]
      simp only [knownFrom, Bool.and_eq_true, beq_iff_eq] at hk
      exact himage data (by simpa using hfile) hk.1 hk.2
    · exact fun _ => ⟨rfl, by rintro f ⟨⟩; simpa using hfile⟩

theorem handleOtaCanFrames_spec (ota : CanOta) (frame : CanFrame) :
    let ota' := ota.handleOtaCanFrames frame
    (ota' = ota) ∨ (ota'.transferState ≠ .START ∧ ota.isOtaInProgress = true ∧
      ota'.receivedFile = ota.receivedFile) := by
  rcases ota.handleOtaCanFrames_cases frame with h | ⟨hwait, state, h, hstate, -⟩ <;> rw [h]
  · exact Or.inl rfl
  · right
    refine ⟨?_, by simp [isOtaInProgress, hwait], by simp⟩
    rcases hstate with rfl | ⟨rfl, -⟩ | ⟨rfl, -⟩ <;> simp

end CanOta

/-! ## The shared facts are about the queued file -/

namespace SharedImage

variable {n : Nat} {fwFileName : Fin n → Option String} {s : SharedImage n}

def QueuedFile (fwFileName : Fin n → Option String) (s : SharedImage n) (data : FileData) : Prop :=
  ∃ j, (s.registry.targets j).otaQueued = true ∧ s.content fwFileName j = some data

structure Consistent (fwFileName : Fin n → Option String) (s : SharedImage n) : Prop where
  oneBatch : ∀ i j, (s.registry.targets i).otaQueued = true → (s.registry.targets j).otaQueued = true →
    fwFileName i = fwFileName j
  summed : ∀ i, (s.registry.targets i).canOta.Summed
  reads : ∀ i, (s.registry.targets i).canOta.Reads (fwFileName i) s.files
  known : ∀ data, s.QueuedFile fwFileName data → s.registry.batchImage.Describes data
  owed : ∀ i file data, (s.registry.targets i).canOta.summing = true →
    (s.registry.targets i).canOta.receivedFile = some file → s.QueuedFile fwFileName data →
      file.image.Describes data
  pending : ∀ i data, s.reporting = some i → s.QueuedFile fwFileName data →
    (s.registry.targets i).image.Describes data

theorem consistent_init (files : LittleFS) : Consistent fwFileName (init files) where
  oneBatch := by simp [init, OtaRegistry.init, OtaTarget.init]
  summed _ := CanOta.summed_of_ne (by simp [init, OtaRegistry.init, OtaTarget.init, CanOta.init])
  reads _ := by simp [CanOta.Reads, CanOta.isOtaInProgress, init, OtaRegistry.init, OtaTarget.init, CanOta.init]
  known := by simp [QueuedFile, init, OtaRegistry.init, OtaTarget.init]
  owed := by simp [CanOta.summing, init, OtaRegistry.init, OtaTarget.init, CanOta.init]
  pending := by simp [init]

namespace Consistent

theorem put (h : Consistent fwFileName s) {i : Fin n} {target : OtaTarget}
    (hqueued : target.otaQueued = true → (s.registry.targets i).otaQueued = true)
    (hsummed : target.canOta.Summed) (hreads : target.canOta.Reads (fwFileName i) s.files)
    (howed : target.canOta.summing = true → ∀ file data, target.canOta.receivedFile = some file →
      s.QueuedFile fwFileName data → file.image.Describes data)
    (himage : s.reporting = some i → target.image = (s.registry.targets i).image) :
    Consistent fwFileName { s with registry := s.registry.put i target } := by
  have hold : ∀ j, (Function.update s.registry.targets i target j).otaQueued = true →
      (s.registry.targets j).otaQueued = true := by
    rw [Function.forall_update_iff s.registry.targets (fun j t => t.otaQueued = true →
      (s.registry.targets j).otaQueued = true)]
    exact ⟨hqueued, fun _ _ hj => hj⟩
  have hfile : ∀ data, QueuedFile fwFileName { s with registry := s.registry.put i target } data →
      s.QueuedFile fwFileName data := fun data ⟨j, hj, hdata⟩ => ⟨j, hold j hj, hdata⟩
  refine ⟨fun a b ha hb => h.oneBatch a b (hold a ha) (hold b hb), ?_, ?_,
    fun data hd => h.known data (hfile data hd), ?_, ?_⟩
  · exact (Function.forall_update_iff s.registry.targets (fun _ t => t.canOta.Summed)).mpr
      ⟨hsummed, fun j _ => h.summed j⟩
  · exact (Function.forall_update_iff s.registry.targets (fun j t => t.canOta.Reads (fwFileName j) s.files)).mpr
      ⟨hreads, fun j _ => h.reads j⟩
  · intro j file data hj hf hd
    by_cases hji : j = i
    · subst hji
      simp only [OtaRegistry.put_targets, Function.update_self] at hj hf
      exact howed hj file data hf (hfile data hd)
    · simp only [OtaRegistry.put_targets, Function.update_of_ne hji] at hj hf
      exact h.owed j file data hj hf (hfile data hd)
  · intro j data hj hd
    by_cases hji : j = i
    · subst hji
      simp only [OtaRegistry.put_targets, Function.update_self]
      rw [himage hj]
      exact h.pending j data hj (hfile data hd)
    · simp only [OtaRegistry.put_targets, Function.update_of_ne hji]
      exact h.pending j data hj (hfile data hd)

theorem takeTurn (h : Consistent fwFileName s) (hfree : s.reporting = none) (i : Fin n) (online : Bool)
    (now : UInt32) :
    Consistent fwFileName { s with registry := s.registry.takeTurn fwFileName s.files i online now } := by
  rcases OtaRegistry.takeTurn_cases fwFileName s.registry s.files i online now with he |
    ⟨hqueued, hidle, -, target, he, hout, rfl | ⟨himage, hota⟩⟩ <;> rw [he]
  · exact h
  · exact h.put (by simp) (h.summed i) (h.reads i) (fun hs file data => h.owed i file data hs) (by simp [hfree])
  · have hstart := CanOta.startOta_spec hidle (fun data hd => h.known data ⟨i, hqueued, hd⟩) now 0
    rw [← hota] at hstart
    obtain ⟨hsummed, hreads⟩ := hstart
    refine h.put (by simp [hout]) hsummed hreads ?_ (by simp [hfree])
    intro hsumming file data hfile ⟨j, hj, hdata⟩
    have hprogress : target.canOta.isOtaInProgress = true := by
      simp only [CanOta.summing, Bool.and_eq_true, beq_iff_eq] at hsumming
      simp [CanOta.isOtaInProgress, hsumming.1]
    have hcontent := (hreads hprogress).2 file hfile
    rw [h.oneBatch i j hqueued hj] at hcontent
    obtain rfl := Option.some.inj (hcontent.symm.trans hdata)
    exact file.image_describes

theorem pass {r : OtaRegistry n} {files : LittleFS} (h : Consistent fwFileName ⟨r, files, none⟩) (i : Fin n)
    {p : Pass} (hspec : (r.targets i).canOta.PassSpec (r.targets i).image p) :
    Consistent fwFileName
      ⟨r.put i { r.targets i with canOta := p.ota, image := p.image }, files,
        if !(r.targets i).image.valid && p.image.valid then some i else none⟩ := by
  have hput : Consistent fwFileName ⟨r.put i { r.targets i with canOta := p.ota, image := p.image }, files,
    none⟩ := by
    refine h.put (fun hq => hq) hspec.summed (fun hp => ?_) (fun hs file data hfile hd => ?_) (by simp)
    · obtain ⟨hname, hfile⟩ := h.reads i (hspec.inProgress hp)
      refine ⟨hname, fun file hf => ?_⟩
      obtain ⟨file', hf', hsame⟩ := hspec.sameFile file hf
      exact hsame ▸ hfile file' hf'
    · obtain ⟨file', hf', hsame⟩ := hspec.sameFile file hfile
      have := h.owed i file' data (hspec.summing hs) hf' hd
      rwa [File.image, File.size, hsame] at this
  refine { hput with pending := fun k data hk ⟨j, hj, hdata⟩ => ?_ }
  simp only [Option.ite_none_right_eq_some, Bool.and_eq_true, Bool.not_eq_true', Option.some.injEq] at hk
  obtain ⟨⟨hunknown, hvalid⟩, rfl⟩ := hk
  have hqueued : QueuedFile fwFileName ⟨r, files, none⟩ data := by
    refine ⟨j, ?_, hdata⟩
    by_cases hji : j = i
    · subst hji; simpa using hj
    · simpa [Function.update_of_ne hji] using hj
  rcases hspec.image with himage | ⟨hsumming, file, hfile, himage⟩
  · rw [himage, hunknown] at hvalid
    cases hvalid
  · simp only [OtaRegistry.put_targets, Function.update_self, himage]
    exact h.owed i file data hsumming hfile hqueued

theorem run (h : Consistent fwFileName s) (hfree : s.reporting = none) (i : Fin n) (online : Bool) (now : UInt32)
    (io : PassIo) : Consistent fwFileName (s.step fwFileName (.run i online now io)) := by
  have h := h.takeTurn hfree i online now
  have hspec := CanOta.runOta_spec (h.summed i) io
    ((s.registry.takeTurn fwFileName s.files i online now).targets i).image
  simp only [step, hfree, Option.isSome_none, Bool.false_eq_true, if_false]
  rw [hfree] at h
  exact h.pass i hspec

theorem queueForFile (h : Consistent fwFileName s) (fileName : Option String)
    (hsettled : s.Settled fwFileName (.queueForFile fileName)) :
    Consistent fwFileName (s.step fwFileName (.queueForFile fileName)) := by
  cases fileName with
  | none => exact h
  | some fileName =>
    have hfile : ∀ data, QueuedFile fwFileName (s.step fwFileName (.queueForFile (some fileName))) data →
        ∃ j, fwFileName j = some fileName ∧ s.files fileName = some data := by
      rintro data ⟨j, hj, hdata⟩
      have hj : fwFileName j = some fileName := by simpa [step, OtaRegistry.queueForFile] using hj
      have hdata : (fwFileName j).bind s.files = some data := hdata
      exact ⟨j, hj, by simpa [hj] using hdata⟩
    refine ⟨fun i j hi hj => ?_, h.summed, h.reads, fun data _ hv => ?_, fun i file data hs hf hd => ?_,
      fun i data hi hd => ?_⟩
    · simp only [step, OtaRegistry.queueForFile, beq_iff_eq] at hi hj
      rw [hi, hj]
    · cases hv
    · obtain ⟨j, hj, hdata⟩ := hfile data hd
      exact (hsettled j data hj hdata).1 i file hs hf
    · obtain ⟨j, hj, hdata⟩ := hfile data hd
      exact (hsettled j data hj hdata).2 i hi

theorem reportImage (h : Consistent fwFileName s) : Consistent fwFileName (s.step fwFileName .reportImage) := by
  simp only [step]
  cases hr : s.reporting with
  | none => exact h
  | some i =>
    exact ⟨h.oneBatch, h.summed, h.reads, fun data hd => h.pending i data hr hd, h.owed, by simp⟩

theorem answer (h : Consistent fwFileName s) (i : Fin n) (frame : CanFrame) :
    Consistent fwFileName (s.step fwFileName (.answer i frame)) := by
  rcases (s.registry.targets i).canOta.handleOtaCanFrames_spec frame with he | ⟨hstate, hprogress, hfile⟩
  · refine h.put (fun hq => hq) ?_ ?_ ?_ (fun _ => rfl) <;> simp only [he]
    · exact h.summed i
    · exact h.reads i
    · exact fun hs file data => h.owed i file data hs
  · refine h.put (fun hq => hq) (CanOta.summed_of_ne hstate) (fun _ => ?_) (fun hs => ?_) (fun _ => rfl)
    · have hreads := h.reads i hprogress
      exact ⟨hreads.1, fun file hf => hreads.2 file (hfile ▸ hf)⟩
    · rw [CanOta.summing_of_ne hstate] at hs
      cases hs

theorem changeFile (h : Consistent fwFileName s) (fileName : String) (data : Option FileData) :
    Consistent fwFileName (s.step fwFileName (.changeFile fileName data)) := by
  simp only [step]
  split
  · exact h
  rename_i huse
  rw [Bool.not_eq_true, OtaRegistry.isFileInUse_eq_false] at huse
  have hother : ∀ i, ((s.registry.targets i).otaQueued = true ∨
    (s.registry.targets i).canOta.isOtaInProgress = true) →
      (fwFileName i).bind (Function.update s.files fileName data) = (fwFileName i).bind s.files := by
    intro i hi
    cases hname : fwFileName i with
    | none => rfl
    | some name =>
      have hne : name ≠ fileName := by
        rintro rfl
        have := huse i hname
        rcases hi with hi | hi <;> simp [this] at hi
      exact Function.update_of_ne hne _ _
  have hfile : ∀ d, QueuedFile fwFileName { s with files := Function.update s.files fileName data } d →
      s.QueuedFile fwFileName d := by
    rintro d ⟨j, hj, hd⟩
    exact ⟨j, hj, (hother j (Or.inl hj)).symm.trans hd⟩
  refine ⟨h.oneBatch, h.summed, fun i hi => ?_, fun d hd => h.known d (hfile d hd),
    fun i file d hs hf hd => h.owed i file d hs hf (hfile d hd), fun i d hi hd => h.pending i d hi (hfile d hd)⟩
  have hreads := h.reads i hi
  exact ⟨hreads.1, fun file hf => (hother i (Or.inr hi)).trans (hreads.2 file hf)⟩

theorem step (h : Consistent fwFileName s) (e : BatchEvent n) (hsettled : s.Settled fwFileName e) :
    Consistent fwFileName (s.step fwFileName e) := by
  cases e with
  | queueForFile fileName => exact h.queueForFile fileName hsettled
  | run i online startTime io =>
    cases hr : s.reporting with
    | none => exact h.run hr i online startTime io
    | some k => simpa [SharedImage.step, hr] using h
  | reportImage => exact h.reportImage
  | answer i frame => exact h.answer i frame
  | changeFile fileName data => exact h.changeFile fileName data

end Consistent

theorem Consistent.factsMatch (h : Consistent fwFileName s) (e : BatchEvent n) : s.FactsMatch fwFileName e := by
  intro i frame hsent hcmd
  cases e with
  | run k online startTime io =>
    cases hr : s.reporting with
    | some k => simp [sent, hr] at hsent
    | none =>
      simp only [sent, hr, Option.isSome_none, Bool.false_eq_true, if_false, Option.map_eq_some_iff,
        Prod.mk.injEq] at hsent
      obtain ⟨_, hsent, rfl, rfl⟩ := hsent
      have hspec := CanOta.runOta_spec ((h.takeTurn hr k online startTime).summed k) io
        ((s.registry.takeTurn fwFileName s.files k online startTime).targets k).image
      have := hspec.sent _ hsent hcmd
      simpa [SharedImage.step, hr, OtaRegistry.runTarget] using this
  | _ => simp [sent] at hsent

end SharedImage

open SharedImage in
/-- Every announcement of a run whose queueings are settled is about the file its target has open. -/
theorem announced_facts_match {n : Nat} (fwFileName : Fin n → Option String) (files : LittleFS)
    (es : List (BatchEvent n)) (e : BatchEvent n)
    (h : Meets (step fwFileName) (Settled fwFileName) (init files) es) :
    (Machine.run (step fwFileName) (init files) es).FactsMatch fwFileName e :=
  Consistent.factsMatch
    (run_inv (I := Consistent fwFileName) (fun _ e hI hG => hI.step e hG) (consistent_init files) h) e

/-- Two targets of one file; the second announces what the first has summed. -/
def sharedBatch : List (BatchEvent 2) :=
  [.queueForFile (some "/fw"), .run 0 true 0 .smooth, .run 0 true 0 .smooth, .reportImage,
   .answer 0 (.answer .OTA_START .NACK), .run 0 true 0 .smooth]

open SharedImage in
theorem announced_facts_match_sharedBatch :
    let s := Machine.run (step fun _ => some "/fw") (init fun _ => some oneByte) sharedBatch
    s.sent (fun _ => some "/fw") (.run 1 true 0 .smooth) =
      some (1, ⟨.OTA_START, OtaCanFrame.packStart ⟨0, 1, crcOf oneByte.bytes⟩⟩) ∧
    s.FactsMatch (fun _ => some "/fw") (.run 1 true 0 .smooth) :=
  ⟨by decide +kernel,
    announced_facts_match (fun _ => some "/fw") (fun _ => some oneByte) sharedBatch (.run 1 true 0 .smooth)
      ⟨fun _ _ _ _ => ⟨fun _ _ hs => (by cases hs), fun _ hr => (by cases hr)⟩, trivial, trivial, trivial, trivial,
        trivial, trivial⟩⟩

/-! ## A file queued before the report -/

def twoNames : Fin 2 → Option String := fun i => if i = 0 then some "/a" else some "/b"

def twoFiles : LittleFS := fun name => if name = "/a" then some oneByte else some ⟨[0x43], by decide⟩

/-- The second file is queued while the first is summed; the report that follows is taken for its own. -/
def lateReport : List (BatchEvent 2) :=
  [.queueForFile (some "/a"), .run 0 true 0 .smooth, .queueForFile (some "/b"), .run 0 true 0 .smooth, .reportImage,
   .answer 0 (.answer .OTA_START .NACK), .run 0 true 0 .smooth]

/-- The announcement of "/b" after `lateReport`. -/
def staleStart : CanFrame := ⟨.OTA_START, OtaCanFrame.packStart ⟨0, 1, crcOf oneByte.bytes⟩⟩

open SharedImage in
theorem announced_facts_not_always_match :
    ¬ ∀ (n : Nat) (fwFileName : Fin n → Option String) (files : LittleFS) (es : List (BatchEvent n))
      (e : BatchEvent n),
      (Machine.run (step fwFileName) (init files) es).FactsMatch fwFileName e := by
  intro h
  obtain ⟨file, hfile, -, hcrc⟩ := h 2 twoNames twoFiles lateReport (.run 1 true 0 .smooth) 1 staleStart
    (by decide +kernel) rfl
  have hopen : ((step twoNames (Machine.run (step twoNames) (init twoFiles) lateReport)
      (.run 1 true 0 .smooth)).registry.targets 1).canOta.receivedFile = some ⟨⟨[0x43], by decide⟩, 0⟩ := by
        decide +kernel
  obtain rfl := Option.some.inj (hopen.symm.trans hfile)
  exact absurd hcrc (by decide +kernel)

end CanSystems
