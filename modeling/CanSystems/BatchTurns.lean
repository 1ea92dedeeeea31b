import CanSystems.FileReaders

/-!
# One transfer at a time

A pass of a target is its turn with the start, which the lock makes one step,
the transfer's own step, and the report. Uploads, answers from the bus and the
steps of other targets may come between them. A turn is not yet a transfer: a
file that does not open ends it in the same pass (`turn_without_transfer`).
-/

namespace CanSystems

open Machine

inductive TurnEvent (n : Nat)
  | queueForFile (fileName : Option String)
  | turn (i : Fin n) (files : LittleFS) (online : Bool) (now : UInt32)
  | pass (i : Fin n) (io : PassIo)
  | reportImage (i : Fin n)
  | answer (i : Fin n) (frame : CanFrame)

structure BatchTurns (n : Nat) where
  registry : OtaRegistry n
  /-- The file queued last. -/
  upload : Option String
  /-- The calls of `startOta` since it was queued. -/
  starts : Fin n → Nat

namespace OtaRegistry

variable {n : Nat} (fwFileName : Fin n → Option String)

/-- The target's pass calls `startOta`. -/
def givesTurn (r : OtaRegistry n) (i : Fin n) (online : Bool) : Bool :=
  !(r.targets i).canOta.isOtaInProgress && (r.claimStart fwFileName i online).1.isSome

def runOta (r : OtaRegistry n) (i : Fin n) (io : PassIo) : OtaRegistry n :=
  let pass := (r.targets i).canOta.runOta io (r.targets i).image
  r.put i { r.targets i with canOta := pass.ota, image := pass.image }

/-- A turn does nothing, is lost by a target that does not answer, or calls `startOta`. -/
theorem takeTurn_turns (r : OtaRegistry n) (files : LittleFS) (i : Fin n) (online : Bool) (now : UInt32) :
    ((r.targets i).otaQueued = false ∨ (r.targets i).canOta.isOtaInProgress = true ∨
      r.anyInProgress fwFileName = true) ∧
      r.givesTurn fwFileName i online = false ∧ r.takeTurn fwFileName files i online now = r ∨
    (r.targets i).otaQueued = true ∧ (r.targets i).canOta.isOtaInProgress = false ∧
      r.anyInProgress fwFileName = false ∧
      (online = false ∧ r.givesTurn fwFileName i online = false ∧
          r.takeTurn fwFileName files i online now = r.put i { r.targets i with otaQueued := false } ∨
        online = true ∧ r.givesTurn fwFileName i online = true ∧
          r.takeTurn fwFileName files i online now = r.put i
            { otaQueued := false
              canOta := ((r.targets i).canOta.startOta now files (fwFileName i) 0 (some r.batchImage)).2
              image := r.batchImage }) := by
  unfold givesTurn takeTurn
  by_cases hbusy : (r.targets i).canOta.isOtaInProgress = true
  · left
    refine ⟨Or.inr (Or.inl hbusy), ?_, if_pos hbusy⟩
    rw [hbusy]
    rfl
  rw [if_neg hbusy]
  rw [Bool.not_eq_true] at hbusy
  by_cases hqueued : (r.targets i).otaQueued = false
  · left
    simp [claimStart, hqueued]
  by_cases hany : r.anyInProgress fwFileName = true
  · left
    simp [claimStart, hany, hqueued]
  right
  refine ⟨Bool.not_eq_false _ ▸ hqueued, hbusy, Bool.not_eq_true _ ▸ hany, ?_⟩
  cases online with
  | false =>
    left
    simp [claimStart, hqueued, hany]
  | true =>
    right
    simp [claimStart, hqueued, hany, hbusy, put]

end OtaRegistry

namespace CanOta

/-- `startOta` opens this file under the target's name. -/
def Opens (files : LittleFS) (fileName : Option String) (data : FileData) : Prop :=
  ∃ name, fileName = some name ∧ name.toList.head? = some '/' ∧ files name = some data ∧ (⟨data, 0⟩ : File).size ≠ 0

theorem startOta_opens {ota : CanOta} (hidle : ota.isOtaInProgress = false) {files : LittleFS}
    {fileName : Option String}
    {data : FileData} (h : Opens files fileName data) (now : UInt32) (storageNumber : UInt16)
    (image : Option OtaImageInfo) :
    (ota.startOta now files fileName storageNumber image).2.transferState = .START ∧
      (ota.startOta now files fileName storageNumber image).2.receivedFile = some ⟨data, 0⟩ := by
  obtain ⟨name, rfl, hslash, hfile, hsize⟩ := h
  unfold startOta
  simp [hidle, hslash, hfile, hsize]

theorem runOta_invalid {ota : CanOta} (h : ota.transferState = .INVALID) (io : PassIo) (image : OtaImageInfo) :
    (ota.runOta io image).ota.isOtaInProgress = false := by
  have htime : ota.timesOut io.now = false := by simp [timesOut, otaInProgress, h]
  unfold runOta
  simp [htime, h, conclude, isOtaInProgress]

theorem startOta_fails {ota : CanOta} (hidle : ota.isOtaInProgress = false) {files : LittleFS}
    {fileName : Option String}
    (h : ¬ ∃ data, Opens files fileName data) (now : UInt32) (storageNumber : UInt16) (image : Option OtaImageInfo)
    (io : PassIo) (facts : OtaImageInfo) :
    ((ota.startOta now files fileName storageNumber image).2.runOta io facts).ota.isOtaInProgress = false := by
  cases fileName with
  | none =>
    have hsame : (ota.startOta now files none storageNumber image).2 = ota := by simp [startOta, hidle]
    rw [hsame]
    exact runOta_idle hidle io facts
  | some name =>
    by_cases hslash : name.toList.head? = some '/'
    swap
    · have hsame : (ota.startOta now files (some name) storageNumber image).2 = ota := by
        simp [startOta, hidle, hslash]
      rw [hsame]
      exact runOta_idle hidle io facts
    apply runOta_invalid
    unfold startOta
    cases hfile : files name with
    | none => simp [hidle, hslash, hfile]
    | some data =>
      by_cases hsize : (⟨data, 0⟩ : File).size = 0
      · simp [hidle, hslash, hfile, hsize]
      · exact absurd ⟨data, name, rfl, hslash, hfile, hsize⟩ h

theorem handleOtaCanFrames_idle {ota : CanOta} (h : ota.isOtaInProgress = false) (frame : CanFrame) :
    (ota.handleOtaCanFrames frame).isOtaInProgress = false := by
  have hidle : ota.transferState = .IDLE := by simpa [isOtaInProgress] using h
  rw [handleOtaCanFrames_of_ne (by simp [hidle])]
  exact h

end CanOta

namespace BatchTurns

variable {n : Nat} (fwFileName : Fin n → Option String)

def init : BatchTurns n := ⟨.init, none, fun _ => 0⟩

def step (s : BatchTurns n) : TurnEvent n → BatchTurns n
  | .queueForFile none => s
  | .queueForFile (some fileName) => ⟨s.registry.queueForFile fwFileName (some fileName), some fileName, fun _ => 0⟩
  | .turn i files online now =>
    { s with
      registry := s.registry.takeTurn fwFileName files i online now
      starts := Function.update s.starts i (s.starts i + (s.registry.givesTurn fwFileName i online).toNat) }
  | .pass i io => { s with registry := s.registry.runOta i io }
  | .reportImage i => { s with registry := s.registry.reportImage (s.registry.targets i).image }
  | .answer i frame => { s with registry := s.registry.deliver i frame }

theorem turn_pass (s : BatchTurns n) (files : LittleFS) (i : Fin n) (online : Bool) (now : UInt32) (io : PassIo) :
    ((s.step fwFileName (.turn i files online now)).step fwFileName (.pass i io)).registry =
      (s.registry.runTarget fwFileName files i online now io).registry := rfl

def inProgress (s : BatchTurns n) (i : Fin n) : Prop := (s.registry.targets i).canOta.isOtaInProgress = true

def queued (s : BatchTurns n) (i : Fin n) : Prop := (s.registry.targets i).otaQueued = true

def Free (s : BatchTurns n) : Prop := ∀ i, ¬ s.inProgress i

/-- A turn changes nothing, takes a target that does not answer out of the queue, or calls `startOta`. -/
theorem turn_cases (s : BatchTurns n) (i : Fin n) (files : LittleFS) (online : Bool) (now : UInt32) :
    ((¬ s.queued i ∨ ¬ s.Free) ∧ s.step fwFileName (.turn i files online now) = s) ∨
    (s.queued i ∧ s.registry.anyInProgress fwFileName = false ∧ online = false ∧
      s.step fwFileName (.turn i files online now) =
        { s with registry := s.registry.put i { s.registry.targets i with otaQueued := false } }) ∨
    (s.queued i ∧ s.registry.anyInProgress fwFileName = false ∧
      (s.registry.targets i).canOta.isOtaInProgress = false ∧
      online = true ∧ s.step fwFileName (.turn i files online now) =
        { s with
          registry := s.registry.put i
            { otaQueued := false
              canOta := ((s.registry.targets i).canOta.startOta now files (fwFileName i) 0
                (some s.registry.batchImage)).2
              image := s.registry.batchImage }
          starts := Function.update s.starts i (s.starts i + 1) }) := by
  rcases s.registry.takeTurn_turns fwFileName files i online now with ⟨hwhy, hgives, hturn⟩ |
    ⟨hqueued, hidle, hany, ⟨honline, hgives, hturn⟩ | ⟨honline, hgives, hturn⟩⟩
  · left
    constructor
    · rcases hwhy with hqueued | hbusy | hany
      · exact Or.inl (by simp [queued, hqueued])
      · exact Or.inr fun hfree => hfree i hbusy
      · right
        intro hfree
        obtain ⟨j, -, hj⟩ := of_decide_eq_true hany
        exact hfree j hj
    · simp [step, hgives, hturn]
  · right; left
    refine ⟨hqueued, hany, honline, ?_⟩
    simp [step, hgives, hturn]
  · right; right
    refine ⟨hqueued, hany, hidle, honline, ?_⟩
    simp [step, hgives, hturn]

/-! ## The invariant -/

structure Serial (s : BatchTurns n) : Prop where
  alone : ∀ i j, s.inProgress i → s.inProgress j → i = j
  once : ∀ i, s.starts i + (s.registry.targets i).otaQueued.toNat ≤ 1
  matching : ∀ i, s.queued i ∨ 0 < s.starts i → s.upload = fwFileName i ∧ (fwFileName i).isSome
  named : ∀ i, s.inProgress i → (fwFileName i).isSome

variable {fwFileName} {s : BatchTurns n}

theorem serial_init : (init : BatchTurns n).Serial fwFileName where
  alone := by simp [inProgress, init, OtaRegistry.init, OtaTarget.init, CanOta.init, CanOta.isOtaInProgress]
  once := by simp [init, OtaRegistry.init, OtaTarget.init]
  matching := by simp [queued, init, OtaRegistry.init, OtaTarget.init]
  named := by simp [inProgress, init, OtaRegistry.init, OtaTarget.init, CanOta.init, CanOta.isOtaInProgress]

theorem Serial.free_iff (h : s.Serial fwFileName) : s.Free ↔ s.registry.anyInProgress fwFileName = false := by
  rw [OtaRegistry.anyInProgress_eq_false]
  constructor
  · intro hfree i _
    exact Bool.not_eq_true _ ▸ hfree i
  · intro hnone i hi
    have hidle := hnone i (h.named i hi)
    unfold inProgress at hi
    rw [hidle] at hi
    cases hi

/-- One target changes, and takes up neither a place in the queue nor a transfer. -/
theorem Serial.put (h : s.Serial fwFileName) {i : Fin n} {target : OtaTarget}
    (hqueued : target.otaQueued = true → s.queued i)
    (hidle : (s.registry.targets i).canOta.isOtaInProgress = false → target.canOta.isOtaInProgress = false) :
    Serial fwFileName { s with registry := s.registry.put i target } := by
  have hold : ∀ j, inProgress { s with registry := s.registry.put i target } j → s.inProgress j := by
    intro j hj
    by_cases hji : j = i
    · subst hji
      unfold inProgress at hj ⊢
      simp only [OtaRegistry.put_targets, Function.update_self] at hj
      by_contra hn
      rw [hidle (Bool.not_eq_true _ ▸ hn)] at hj
      cases hj
    · simpa [inProgress, Function.update_of_ne hji] using hj
  have hplace : ∀ j, queued { s with registry := s.registry.put i target } j → s.queued j := by
    intro j hj
    by_cases hji : j = i
    · subst hji
      exact hqueued (by simpa [queued] using hj)
    · simpa [queued, Function.update_of_ne hji] using hj
  refine ⟨?_, ?_, ?_, ?_⟩
  · intro j k hj hk
    exact h.alone j k (hold j hj) (hold k hk)
  · intro j
    exact Nat.le_trans (Nat.add_le_add_left (Bool.toNat_le_toNat (hplace j)) _) (h.once j)
  · intro j hj
    exact h.matching j (hj.imp_left (hplace j))
  · intro j hj
    exact h.named j (hold j hj)

theorem Serial.queueForFile (h : s.Serial fwFileName) (fileName : Option String) :
    (s.step fwFileName (.queueForFile fileName)).Serial fwFileName := by
  cases fileName with
  | none => exact h
  | some fileName =>
    refine ⟨h.alone, ?_, ?_, h.named⟩
    · intro i
      simp only [step, Nat.zero_add]
      exact Bool.toNat_le _
    · intro i hi
      have hname : fwFileName i = some fileName := by
        simpa [queued, step, OtaRegistry.queueForFile] using hi
      rw [hname]
      exact ⟨rfl, rfl⟩

theorem Serial.turn (h : s.Serial fwFileName) (i : Fin n) (files : LittleFS) (online : Bool) (now : UInt32) :
    (s.step fwFileName (.turn i files online now)).Serial fwFileName := by
  rcases s.turn_cases fwFileName i files online now with ⟨-, hturn⟩ | ⟨hqueued, -, -, hturn⟩ | ⟨hqueued, hany, -, -,
    hturn⟩
  · rw [hturn]
    exact h
  · rw [hturn]
    exact h.put nofun fun hidle => hidle
  rw [hturn]
  have hfree := h.free_iff.mpr hany
  have hname := h.matching i (Or.inl hqueued)
  refine ⟨?_, ?_, ?_, ?_⟩
  · intro j k hj hk
    by_cases hji : j = i
    · by_cases hki : k = i
      · rw [hji, hki]
      · exact absurd (by simpa [inProgress, Function.update_of_ne hki] using hk) (hfree k)
    · exact absurd (by simpa [inProgress, Function.update_of_ne hji] using hj) (hfree j)
  · intro j
    by_cases hji : j = i
    · subst hji
      have honce := h.once j
      rw [hqueued] at honce
      simpa using honce
    · simpa [Function.update_of_ne hji] using h.once j
  · intro j hj
    by_cases hji : j = i
    · subst hji
      exact hname
    · exact h.matching j (by simpa [queued, Function.update_of_ne hji] using hj)
  · intro j hj
    by_cases hji : j = i
    · subst hji
      exact hname.2
    · exact h.named j (by simpa [inProgress, Function.update_of_ne hji] using hj)

theorem Serial.step (h : s.Serial fwFileName) (e : TurnEvent n) : (s.step fwFileName e).Serial fwFileName := by
  cases e with
  | queueForFile fileName => exact h.queueForFile fileName
  | turn i files online now => exact h.turn i files online now
  | pass i io => exact h.put (fun hq => hq) fun hidle => CanOta.runOta_idle hidle io _
  | reportImage i => exact ⟨h.alone, h.once, h.matching, h.named⟩
  | answer i frame => exact h.put (fun hq => hq) fun hidle => CanOta.handleOtaCanFrames_idle hidle frame

/-! ## Turns -/

variable (fwFileName) in
/-- A target that does not answer starts nothing, keeps no place in a queue that is free, and leaves the others
alone. -/
theorem turn_offline (s : BatchTurns n) (i : Fin n) (files : LittleFS) (now : UInt32) :
    (s.step fwFileName (.turn i files false now)).starts = s.starts ∧
    (∀ j, ((s.step fwFileName (.turn i files false now)).registry.targets j).canOta =
      (s.registry.targets j).canOta) ∧
    (∀ j, j ≠ i → (s.step fwFileName (.turn i files false now)).registry.targets j = s.registry.targets j) ∧
    (s.Free → ¬ (s.step fwFileName (.turn i files false now)).queued i) := by
  rcases s.turn_cases fwFileName i files false now with ⟨hwhy, hturn⟩ | ⟨-, -, -, hturn⟩ | ⟨-, -, -, honline, -⟩
  · rw [hturn]
    refine ⟨rfl, fun _ => rfl, fun _ _ => rfl, ?_⟩
    intro hfree
    exact hwhy.resolve_right (not_not_intro hfree)
  · rw [hturn]
    refine ⟨rfl, ?_, ?_, ?_⟩
    · intro j
      by_cases hji : j = i
      · subst hji
        simp
      · simp [Function.update_of_ne hji]
    · intro j hji
      simp [Function.update_of_ne hji]
    · intro _
      simp [queued]
  · cases honline

theorem free_pass (hfree : s.Free) (i : Fin n) (io : PassIo) : (s.step fwFileName (.pass i io)).Free := by
  intro j hj
  by_cases hji : j = i
  · subst hji
    have hidle := CanOta.runOta_idle (Bool.not_eq_true _ ▸ hfree j) io (s.registry.targets j).image
    simp [inProgress, step, OtaRegistry.runOta, hidle] at hj
  · exact hfree j (by simpa [inProgress, step, OtaRegistry.runOta, Function.update_of_ne hji] using hj)

/-- A queued target that answers is started on a free bus: it reads its file, or the bus is free again after its
pass. -/
theorem Serial.turn_online (h : s.Serial fwFileName) {i : Fin n} (hfree : s.Free) (hqueued : s.queued i)
    (files : LittleFS) (now : UInt32) :
    (s.step fwFileName (.turn i files true now)).starts i = 1 ∧
    (∀ data, CanOta.Opens files (fwFileName i) data →
      ((s.step fwFileName (.turn i files true now)).registry.targets i).canOta.transferState = .START ∧
      ((s.step fwFileName (.turn i files true now)).registry.targets i).canOta.receivedFile = some ⟨data, 0⟩) ∧
    ((¬ ∃ data, CanOta.Opens files (fwFileName i) data) → ∀ io,
      ((s.step fwFileName (.turn i files true now)).step fwFileName (.pass i io)).Free) := by
  rcases s.turn_cases fwFileName i files true now with ⟨hwhy, -⟩ | ⟨-, -, honline, -⟩ | ⟨-, -, hidle, -, hturn⟩
  · rcases hwhy with hnot | hnot
    · exact absurd hqueued hnot
    · exact absurd hfree hnot
  · cases honline
  rw [hturn]
  refine ⟨?_, ?_, ?_⟩
  · have honce := h.once i
    rw [hqueued] at honce
    simpa using honce
  · intro data hopens
    simpa using CanOta.startOta_opens hidle hopens now 0 (some s.registry.batchImage)
  · intro hnone io j hj
    by_cases hji : j = i
    · subst hji
      have hover := CanOta.startOta_fails hidle hnone now 0 (some s.registry.batchImage) io s.registry.batchImage
      simp [inProgress, BatchTurns.step, OtaRegistry.runOta, hover] at hj
    · exact hfree j (by simpa [inProgress, BatchTurns.step, OtaRegistry.runOta, Function.update_of_ne hji] using hj)


variable (fwFileName) in
/-- Over any uploads, passes and answers: at most one transfer at a time, at most one start of each target for an
upload and only where its file was uploaded, no start and no place left in the queue for a target that does not
answer on a free bus, and a start for one that does. -/
theorem batch_serialised (es : List (TurnEvent n)) :
    let s := run (step fwFileName) init es
    (∀ i j, s.inProgress i → s.inProgress j → i = j) ∧
    (∀ i, s.starts i ≤ 1 ∧ (0 < s.starts i → s.upload = fwFileName i)) ∧
    (∀ i files now, let s' := s.step fwFileName (.turn i files false now)
      s'.starts = s.starts ∧ (∀ j, s'.inProgress j ↔ s.inProgress j) ∧ (∀ j, j ≠ i → (s'.queued j ↔ s.queued j)) ∧
      (s.Free → ¬ s'.queued i ∧ ∀ io, (s'.step fwFileName (.pass i io)).Free)) ∧
    (∀ i files now, s.Free → s.queued i → let s' := s.step fwFileName (.turn i files true now)
      s'.starts i = 1 ∧
      (∀ data, CanOta.Opens files (fwFileName i) data →
        (s'.registry.targets i).canOta.transferState = .START ∧ (s'.registry.targets i).canOta.receivedFile = some
          ⟨data, 0⟩) ∧
      ((¬ ∃ data, CanOta.Opens files (fwFileName i) data) → ∀ io, (s'.step fwFileName (.pass i io)).Free)) := by
  have h : (run (step fwFileName) init es).Serial fwFileName :=
    run_inv_all (I := Serial fwFileName) (fun _ e hs => hs.step e) es serial_init
  refine ⟨h.alone, ?_, ?_, ?_⟩
  · intro i
    exact ⟨Nat.le_trans (Nat.le_add_right ..) (h.once i), fun hstarts => (h.matching i (Or.inr hstarts)).1⟩
  · intro i files now
    obtain ⟨hstarts, hsame, hothers, hout⟩ := turn_offline fwFileName
      (run (step fwFileName) init es) i files now
    have hprogress : ∀ j, inProgress ((run (step fwFileName) init es).step fwFileName (.turn i files false now)) j ↔
        inProgress (run (step fwFileName) init es) j := by
      intro j
      unfold inProgress
      rw [hsame]
    refine ⟨hstarts, hprogress, ?_, ?_⟩
    · intro j hji
      unfold queued
      rw [hothers j hji]
    · intro hfree
      refine ⟨hout hfree, ?_⟩
      apply free_pass
      intro j hj
      exact hfree j ((hprogress j).mp hj)
  · intro i files now hfree hqueued
    exact h.turn_online hfree hqueued files now

/-- The target's name has no leading slash: its turn comes on a free bus, and no transfer starts. -/
theorem turn_without_transfer :
    ¬ ∀ (n : Nat) (fwFileName : Fin n → Option String) (es : List (TurnEvent n)) (i : Fin n) (files : LittleFS)
      (now : UInt32), let s := run (step fwFileName) init es
      s.Free → s.queued i → (s.step fwFileName (.turn i files true now)).inProgress i := by
  intro h
  have hstarted := h 1 (fun _ => some "fw_a.bin") [.queueForFile (some "fw_a.bin")] 0 (fun _ => some oneByte) 0
    (by unfold Free inProgress; decide +kernel) (by unfold queued; decide +kernel)
  unfold inProgress at hstarted
  revert hstarted
  decide +kernel

end BatchTurns

end CanSystems
