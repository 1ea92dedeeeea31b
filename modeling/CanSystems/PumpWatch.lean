import CanSystems.PumpOutput
import CanSystems.Lib.Machine

/-!
# What becomes of an irrigation

Each put into the queue gets a number, and an observer notes what becomes of it:
started, dropped because its channel could not be selected, or cleared with the
whole queue. The observer looks at the queue and at the state, before and after
each step; the code does not know of it.

The pump runs only where its channel is selected for the oldest irrigation
(`pump_output`). An error drops the oldest irrigation, whichever it is: one that
was put after the error was raised is lost (`irrigation_lost`), and no other is
(`nothing_lost_iff`).
-/

namespace CanSystems

structure PumpWatch where
  pc : PumpControl
  /-- The numbers of the puts still in the queue, the oldest first. -/
  waiting : List Nat
  puts : Nat
  started : List Nat
  failed : List Nat
  cleared : List Nat
  /-- The oldest irrigation was put there after the error was raised. -/
  stray : Bool

namespace PumpWatch

def init (pcf : PCF8574) (reportError : Bool) (now : UInt32) : PumpWatch :=
  ⟨PumpControl.init pcf reportError now, [], 0, [], [], [], false⟩

def taken (pc : PumpControl) : PumpOp → Nat
  | .run _ => if pc.irrigationState = .STOP ∨ pc.irrigationState = .ERROR then 1 else 0
  | .skipAllIrrigations _ => pc.irrigationQueue.items.length
  | _ => 0

def startedBy (w : PumpWatch) (pc : PumpControl) : List Nat :=
  if w.pc.irrigationState = .IDLE ∧ pc.irrigationState = .RUN then w.waiting.take 1 else []

def failedBy (w : PumpWatch) (pc : PumpControl) : PumpOp → List Nat
  | .run _ => if w.pc.irrigationState = .IDLE ∧ pc.irrigationState = .ERROR then w.waiting.take 1 else []
  | _ => []

def clearedBy (w : PumpWatch) : PumpOp → List Nat
  | .skipAllIrrigations _ => w.waiting
  | _ => []

/-- A put into an empty queue while the error waits for its pass, or by the very pass that raised it. -/
def strayAfter (w : PumpWatch) (pc : PumpControl) : PumpOp → Bool
  | .run _ => decide (w.pc.irrigationState = .IDLE ∧ w.waiting = [] ∧ pc.irrigationState = .ERROR) &&
      !pc.irrigationQueue.isEmpty
  | .createIrrigation _ => w.stray || decide (w.pc.irrigationState = .ERROR ∧ w.waiting = [])
  | .skipAllIrrigations _ => false
  | _ => w.stray

def step (w : PumpWatch) (op : PumpOp) : PumpWatch :=
  let pc := w.pc.step op
  let left := w.waiting.drop (taken w.pc op)
  let added := pc.irrigationQueue.items.length - left.length
  { pc := pc
    waiting := left ++ List.range' w.puts added
    puts := w.puts + added
    started := w.started ++ w.startedBy pc
    failed := w.failed ++ w.failedBy pc op
    cleared := w.cleared ++ w.clearedBy op
    stray := w.strayAfter pc op }

/-- No pass drops an irrigation that was put after the error was raised. -/
def NoStray (w : PumpWatch) : PumpOp → Prop
  | .run _ => w.stray = false
  | _ => True

def Logged (w : PumpWatch) (id : Nat) : Prop := id ∈ w.started ∨ id ∈ w.failed ∨ id ∈ w.cleared

/-- The numbers go with the elements: as many leave at the front, and those that are put get the next ones. -/
def Numbered (w : PumpWatch) (op : PumpOp) : Prop :=
  ∃ added, (w.step op).pc.irrigationQueue.items = w.pc.irrigationQueue.items.drop (taken w.pc op) ++ added ∧
    (w.step op).waiting = w.waiting.drop (taken w.pc op) ++ List.range' w.puts added.length

/-- Every irrigation that was ever put is in the queue, or was started, failed by itself, or cleared with the
queue. -/
def NothingLost (w : PumpWatch) : Prop := ∀ id < w.puts, id ∈ w.waiting ∨ w.Logged id

/-! ## The numbers in the queue -/

theorem step_items {pc : PumpControl} (h : pc.Output) (op : PumpOp) :
    ∃ added, (pc.step op).irrigationQueue.items = pc.irrigationQueue.items.drop (taken pc op) ++ added := by
  cases op with
  | run io =>
    simp only [taken, PumpControl.step]
    cases hstate : pc.irrigationState with
    | IDLE =>
      cases hqueue : pc.irrigationQueue.items with
      | cons e rest =>
        refine ⟨[], ?_⟩
        rw [(PumpControl.run_idle_start io hstate hqueue).1]
        simp
      | nil => exact ⟨_, rfl⟩
    | RUN =>
      refine ⟨[], ?_⟩
      rw [(PumpControl.run_run io hstate).1]
      simp
    | STOP =>
      obtain ⟨head, rest, hqueue, -⟩ := h.running (Or.inr hstate)
      obtain ⟨⟨added, hitems⟩, -⟩ := PumpControl.run_stop io hstate hqueue
      exact ⟨added, by simpa [hqueue] using hitems⟩
    | ERROR =>
      refine ⟨[], ?_⟩
      rw [(PumpControl.run_error io hstate).1]
      simp
    | CALIBRATION =>
      refine ⟨[], ?_⟩
      rw [(PumpControl.run_calibration io hstate).1]
      simp
  | createIrrigation element => exact (pc.createIrrigation_puts element).items
  | addSafetyIrrigation time channel duration checkFlow checkCurrent pwmValue repeatNum now =>
    exact ⟨[], (List.append_nil _).symm⟩
  | addLimitSwitch channel limitSwitch => exact ⟨[], (List.append_nil _).symm⟩
  | skipActualIrrigation now =>
    refine ⟨[], ?_⟩
    simp only [PumpControl.step, PumpControl.skipActualIrrigation, taken]
    split <;> simp
  | skipAllIrrigations now => exact ⟨[], by simp [PumpControl.step, PumpControl.skipAllIrrigations, taken]⟩

structure Head (w : PumpWatch) : Prop where
  running : w.pc.irrigationState = .RUN ∨ w.pc.irrigationState = .STOP →
    ∃ id, w.waiting.head? = some id ∧ w.started.getLast? = some id
  idle : w.pc.irrigationState = .IDLE ∨ w.pc.irrigationState = .CALIBRATION → ∀ id ∈ w.waiting.head?, ¬ w.Logged id
  error : w.pc.irrigationState = .ERROR → w.stray = false → ∀ id ∈ w.waiting.head?, w.Logged id
  stray : w.stray = true → w.pc.irrigationState = .ERROR ∧ ∃ id, w.waiting.head? = some id ∧ ¬ w.Logged id

structure Inv (w : PumpWatch) : Prop extends Head w where
  output : w.pc.Output
  length : w.waiting.length = w.pc.irrigationQueue.items.length
  below : ∀ id, id ∈ w.waiting ∨ w.Logged id → id < w.puts
  nodup : w.waiting.Nodup
  behind : ∀ id ∈ w.waiting.tail, ¬ w.Logged id

theorem inv_init (pcf : PCF8574) (reportError : Bool) (now : UInt32) : (init pcf reportError now).Inv where
  output := PumpControl.output_init pcf reportError now
  length := rfl
  below := by
    rintro id (h | h | h | h) <;> cases h
  nodup := List.nodup_nil
  behind := by
    intro id h
    cases h
  running := by
    rintro (h | h) <;> cases h
  idle := by
    intro _ id h
    cases h
  error := by
    intro _ _ id h
    cases h
  stray := by
    intro h
    cases h

theorem step_waiting {w : PumpWatch} (h : w.Inv) (op : PumpOp) :
    ∃ k, (w.step op).waiting = w.waiting.drop (taken w.pc op) ++ List.range' w.puts k ∧
      (w.step op).puts = w.puts + k ∧
      (w.step op).waiting.length = (w.step op).pc.irrigationQueue.items.length := by
  obtain ⟨added, hitems⟩ := step_items h.output op
  have hk : (w.pc.step op).irrigationQueue.items.length - (w.waiting.drop (taken w.pc op)).length =
      added.length := by
    rw [hitems, List.length_append, List.length_drop, List.length_drop, h.length]
    omega
  refine ⟨added.length, ?_, ?_, ?_⟩
  · rw [← hk]
    rfl
  · rw [← hk]
    rfl
  · show (w.waiting.drop (taken w.pc op) ++ List.range' w.puts _).length =
      (w.pc.step op).irrigationQueue.items.length
    rw [hk, hitems, List.length_append, List.length_append, List.length_drop, List.length_drop, List.length_range',
      h.length]

theorem logged_step (w : PumpWatch) (op : PumpOp) (id : Nat) :
    (w.step op).Logged id ↔ w.Logged id ∨ id ∈ w.startedBy (w.pc.step op) ∨ id ∈ w.failedBy (w.pc.step op) op ∨
      id ∈ w.clearedBy op := by
  simp only [Logged, step, List.mem_append]
  tauto

/-- Only numbers in the queue are noted, and only the oldest one unless the queue is cleared. -/
theorem noted_cases (w : PumpWatch) (op : PumpOp) (id : Nat)
    (h : id ∈ w.startedBy (w.pc.step op) ∨ id ∈ w.failedBy (w.pc.step op) op ∨ id ∈ w.clearedBy op) :
    (id ∈ w.waiting.take 1 ∧ w.pc.irrigationState = .IDLE) ∨
      (id ∈ w.waiting ∧ ∃ now, op = .skipAllIrrigations now) := by
  rcases h with h | h | h
  · unfold startedBy at h
    split at h
    · rename_i hs
      exact Or.inl ⟨h, hs.1⟩
    · cases h
  · unfold failedBy at h
    split at h
    · split at h
      · rename_i hs
        exact Or.inl ⟨h, hs.1⟩
      · cases h
    · cases h
  · unfold clearedBy at h
    split at h
    · exact Or.inr ⟨h, _, rfl⟩
    · cases h

theorem mem_of_mem_take_one {l : List Nat} {id : Nat} (h : id ∈ l.take 1) : l.head? = some id := by
  cases l with
  | nil => cases h
  | cons a l =>
    obtain rfl := List.mem_singleton.mp (by simpa using h)
    rfl

theorem fresh_step {w : PumpWatch} (h : w.Inv) {op : PumpOp} (hop : ∀ now, op ≠ .skipAllIrrigations now) {id : Nat}
    (hid : id ∈ w.waiting.tail ∨ w.puts ≤ id) : ¬ (w.step op).Logged id := by
  rw [logged_step]
  rintro (hold | hnoted)
  · rcases hid with hid | hid
    · exact h.behind id hid hold
    · exact absurd (h.below id (Or.inr hold)) (Nat.not_lt.mpr hid)
  rcases noted_cases w op id hnoted with ⟨hhead, -⟩ | ⟨-, now, hnow⟩
  · have hhead := mem_of_mem_take_one hhead
    obtain ⟨rest, hwaiting⟩ : ∃ rest, w.waiting = id :: rest := by
      cases hw : w.waiting with
      | nil =>
        rw [hw] at hhead
        cases hhead
      | cons a rest =>
        rw [hw] at hhead
        cases hhead
        exact ⟨rest, rfl⟩
    rcases hid with hid | hid
    · have hnodup := h.nodup
      rw [hwaiting] at hid hnodup
      exact (List.nodup_cons.mp hnodup).1 hid
    · refine absurd (h.below id (Or.inl ?_)) (Nat.not_lt.mpr hid)
      rw [hwaiting]
      exact List.mem_cons_self
  · exact hop now hnow

theorem skipAll_waiting {w : PumpWatch} (h : w.Inv) (now : UInt32) :
    (w.step (.skipAllIrrigations now)).waiting = [] := by
  obtain ⟨k, -, -, hlen⟩ := step_waiting h (.skipAllIrrigations now)
  exact List.length_eq_zero_iff.mp hlen

theorem below_step {w : PumpWatch} (h : w.Inv) (op : PumpOp) {id : Nat}
    (hid : id ∈ (w.step op).waiting ∨ (w.step op).Logged id) : id < (w.step op).puts := by
  obtain ⟨k, hwaiting, hputs, -⟩ := step_waiting h op
  rw [hputs]
  have hmem : id ∈ w.waiting ∨ w.Logged id ∨ id ∈ List.range' w.puts k := by
    rcases hid with hid | hid
    · rw [hwaiting] at hid
      rcases List.mem_append.mp hid with hid | hid
      · exact Or.inl (List.mem_of_mem_drop hid)
      · exact Or.inr (Or.inr hid)
    · rcases (logged_step w op id).mp hid with hid | hid
      · exact Or.inr (Or.inl hid)
      · rcases noted_cases w op id hid with ⟨hid, -⟩ | ⟨hid, -⟩
        · exact Or.inl (List.mem_of_mem_take hid)
        · exact Or.inl hid
  rcases hmem with hmem | hmem | hmem
  · exact Nat.lt_add_right k (h.below id (Or.inl hmem))
  · exact Nat.lt_add_right k (h.below id (Or.inr hmem))
  · exact (List.mem_range'_1.mp hmem).2

theorem nodup_step {w : PumpWatch} (h : w.Inv) (op : PumpOp) : (w.step op).waiting.Nodup := by
  obtain ⟨k, hwaiting, -, -⟩ := step_waiting h op
  rw [hwaiting]
  apply List.Nodup.append (h.nodup.sublist (List.drop_sublist _ _)) List.nodup_range'
  intro id hold hnew
  have hlt := h.below id (Or.inl (List.mem_of_mem_drop hold))
  have hge := (List.mem_range'_1.mp hnew).1
  omega

/-- After a step that takes the oldest irrigation, nothing in the queue is noted. -/
theorem fresh_of_taken {w : PumpWatch} (h : w.Inv) {op : PumpOp} (hop : ∀ now, op ≠ .skipAllIrrigations now)
    (htaken : taken w.pc op = 1) {id : Nat} (hid : id ∈ (w.step op).waiting) : ¬ (w.step op).Logged id := by
  obtain ⟨k, hwaiting, -, -⟩ := step_waiting h op
  rw [hwaiting, htaken, List.drop_one] at hid
  apply fresh_step h hop
  rcases List.mem_append.mp hid with hid | hid
  · exact Or.inl hid
  · exact Or.inr (List.mem_range'_1.mp hid).1

theorem taken_le (pc : PumpControl) (op : PumpOp) :
    taken pc op = 0 ∨ taken pc op = 1 ∨ ∃ now, op = .skipAllIrrigations now := by
  cases op with
  | run io =>
    simp only [taken]
    split
    · exact Or.inr (Or.inl rfl)
    · exact Or.inl rfl
  | skipAllIrrigations now => exact Or.inr (Or.inr ⟨now, rfl⟩)
  | createIrrigation element => exact Or.inl rfl
  | addSafetyIrrigation time channel duration checkFlow checkCurrent pwmValue repeatNum now => exact Or.inl rfl
  | addLimitSwitch channel limitSwitch => exact Or.inl rfl
  | skipActualIrrigation now => exact Or.inl rfl

theorem behind_step {w : PumpWatch} (h : w.Inv) (op : PumpOp) {id : Nat} (hid : id ∈ (w.step op).waiting.tail) :
    ¬ (w.step op).Logged id := by
  by_cases hskip : ∃ now, op = .skipAllIrrigations now
  · obtain ⟨now, rfl⟩ := hskip
    rw [skipAll_waiting h now] at hid
    cases hid
  have hop : ∀ now, op ≠ .skipAllIrrigations now := fun now hnow => hskip ⟨now, hnow⟩
  rcases taken_le w.pc op with htaken | htaken | ⟨now, rfl⟩
  · obtain ⟨k, hwaiting, -, -⟩ := step_waiting h op
    rw [hwaiting, htaken, List.drop_zero] at hid
    apply fresh_step h hop
    cases hw : w.waiting with
    | nil =>
      rw [hw, List.nil_append] at hid
      exact Or.inr (List.mem_range'_1.mp (List.mem_of_mem_tail hid)).1
    | cons a rest =>
      rw [hw, List.cons_append, List.tail_cons] at hid
      rcases List.mem_append.mp hid with hid | hid
      · exact Or.inl hid
      · exact Or.inr (List.mem_range'_1.mp hid).1
  · exact fresh_of_taken h hop htaken (List.mem_of_mem_tail hid)
  · exact absurd rfl (hop now)

/-! ## The oldest number -/

theorem Inv.of_head {w : PumpWatch} {op : PumpOp} (h : w.Inv) (hhead : (w.step op).Head) : (w.step op).Inv where
  toHead := hhead
  output := h.output.step op
  length := (step_waiting h op).choose_spec.2.2
  below := fun _ hid => below_step h op hid
  nodup := nodup_step h op
  behind := fun _ hid => behind_step h op hid

/-- A step that changes neither the state nor the oldest number, and notes nothing. -/
theorem Head.same {w w' : PumpWatch} (h : w.Head) (hstate : w'.pc.irrigationState = w.pc.irrigationState)
    (hhead : w'.waiting.head? = w.waiting.head?) (hstarted : w'.started = w.started)
    (hlogged : ∀ id, w'.Logged id ↔ w.Logged id) (hstray : w'.stray = w.stray) : w'.Head where
  running := by
    rw [hstate, hhead, hstarted]
    exact h.running
  idle := by
    rw [hstate, hhead]
    intro hs id hid
    rw [hlogged]
    exact h.idle hs id hid
  error := by
    rw [hstate, hhead, hstray]
    intro hs hnot id hid
    rw [hlogged]
    exact h.error hs hnot id hid
  stray := by
    rw [hstate, hhead, hstray]
    intro hs
    obtain ⟨herror, id, hid, hnot⟩ := h.stray hs
    exact ⟨herror, id, hid, fun hl => hnot ((hlogged id).mp hl)⟩

theorem stray_eq_false {w : PumpWatch} (h : w.Head) (hw : w.pc.irrigationState ≠ .ERROR ∨ w.waiting = []) :
    w.stray = false := by
  by_contra hstray
  obtain ⟨herror, id, hid, -⟩ := h.stray (by simpa using hstray)
  rcases hw with hw | hw
  · exact hw herror
  · rw [hw] at hid
    cases hid

theorem head_of_cons {w : PumpWatch} {id : Nat} {rest : List Nat} (h : w.waiting = id :: rest) :
    w.waiting.head? = some id := by
  rw [h, List.head?_cons]

theorem Inv.cons {w : PumpWatch} (h : w.Inv) {e : IrrigationQueueElement} {es : List IrrigationQueueElement}
    (hqueue : w.pc.irrigationQueue.items = e :: es) : ∃ id rest, w.waiting = id :: rest := by
  cases hw : w.waiting with
  | nil =>
    have hlen := h.length
    rw [hw, hqueue] at hlen
    cases hlen
  | cons id rest => exact ⟨id, rest, rfl⟩

theorem Inv.nil_iff {w : PumpWatch} (h : w.Inv) : w.waiting = [] ↔ w.pc.irrigationQueue.items = [] := by
  rw [← List.length_eq_zero_iff, ← List.length_eq_zero_iff, h.length]

/-- A pass that takes nothing and leaves a queue of the same length leaves its numbers. -/
theorem waiting_same {w : PumpWatch} (h : w.Inv) {op : PumpOp} (htaken : taken w.pc op = 0)
    (hlength : (w.pc.step op).irrigationQueue.items.length = w.pc.irrigationQueue.items.length) :
    (w.step op).waiting = w.waiting := by
  obtain ⟨k, hwaiting, -, hlen⟩ := step_waiting h op
  rw [htaken, List.drop_zero] at hwaiting
  have hsame : (w.step op).pc.irrigationQueue.items.length = w.waiting.length := by
    rw [h.length]
    exact hlength
  rw [hwaiting, List.length_append, List.length_range'] at hlen
  obtain rfl : k = 0 := by omega
  rw [hwaiting]
  simp

theorem quiet_run {w : PumpWatch} (io : PumpIo) (hidle : w.pc.irrigationState ≠ .IDLE) :
    (w.step (.run io)).started = w.started ∧ (∀ id, (w.step (.run io)).Logged id ↔ w.Logged id) ∧
      (w.step (.run io)).stray = false := by
  have hstarted : w.startedBy (w.pc.step (.run io)) = [] := by simp [startedBy, hidle]
  have hfailed : w.failedBy (w.pc.step (.run io)) (.run io) = [] := by simp [failedBy, hidle]
  refine ⟨?_, ?_, ?_⟩
  · show w.started ++ w.startedBy (w.pc.step (.run io)) = w.started
    rw [hstarted, List.append_nil]
  · intro id
    rw [logged_step, hstarted, hfailed]
    simp [clearedBy]
  · show w.strayAfter (w.pc.step (.run io)) (.run io) = false
    simp [strayAfter, hidle]

theorem head_taken {w : PumpWatch} (h : w.Inv) {io : PumpIo} (htaken : taken w.pc (.run io) = 1)
    (hnot : w.pc.irrigationState ≠ .IDLE) (hnext : (w.pc.run io).2.irrigationState = .IDLE) :
    (w.step (.run io)).Head := by
  have hstate : (w.step (.run io)).pc.irrigationState = .IDLE := hnext
  constructor
  case running =>
    rw [hstate]
    rintro (hs | hs) <;> cases hs
  case idle =>
    intro _ id hid
    exact fresh_of_taken h (fun now hnow => by cases hnow) htaken (List.mem_of_mem_head? hid)
  case error =>
    rw [hstate]
    intro hs
    cases hs
  case stray =>
    rw [(quiet_run io hnot).2.2]
    intro hs
    cases hs

theorem head_run_idle {w : PumpWatch} (h : w.Inv) (io : PumpIo) (hstate : w.pc.irrigationState = .IDLE) :
    (w.step (.run io)).Head := by
  have htaken : taken w.pc (.run io) = 0 := by simp [taken, hstate]
  cases hqueue : w.pc.irrigationQueue.items with
  | cons e es =>
    obtain ⟨hitems, hnext⟩ := PumpControl.run_idle_start io hstate hqueue
    obtain ⟨id, rest, hw⟩ := h.cons hqueue
    have hwaiting : (w.step (.run io)).waiting = w.waiting := by
      apply waiting_same h htaken
      show (w.pc.run io).2.irrigationQueue.items.length = _
      rw [hitems, hqueue]
    have hhead : (w.step (.run io)).waiting.head? = some id := by
      rw [hwaiting]
      exact head_of_cons hw
    have hstray : (w.step (.run io)).stray = false := by
      show w.strayAfter (w.pc.step (.run io)) (.run io) = false
      simp [strayAfter, hw]
    rcases hnext with ⟨hrun, -, -⟩ | ⟨herror, -⟩
    · -- The head is started.
      have hnow : (w.step (.run io)).pc.irrigationState = .RUN := hrun
      constructor
      case running =>
        intro _
        refine ⟨id, hhead, ?_⟩
        show (w.started ++ w.startedBy (w.pc.run io).2).getLast? = some id
        simp [startedBy, hstate, hrun, hw]
      case idle =>
        rw [hnow]
        rintro (hs | hs) <;> cases hs
      case error =>
        rw [hnow]
        intro hs
        cases hs
      case stray =>
        rw [hstray]
        intro hs
        cases hs
    · -- The channel of the head cannot be selected.
      have hnow : (w.step (.run io)).pc.irrigationState = .ERROR := herror
      constructor
      case running =>
        rw [hnow]
        rintro (hs | hs) <;> cases hs
      case idle =>
        rw [hnow]
        rintro (hs | hs) <;> cases hs
      case error =>
        intro _ _ id' hid'
        rw [hhead] at hid'
        cases hid'
        refine Or.inr (Or.inl (List.mem_append_right _ ?_))
        show id ∈ w.failedBy (w.pc.run io).2 (.run io)
        simp [failedBy, hstate, herror, hw]
      case stray =>
        rw [hstray]
        intro hs
        cases hs
  | nil =>
    have hw := h.nil_iff.mpr hqueue
    obtain ⟨-, hnext⟩ := PumpControl.run_idle_watch io hstate hqueue
    have hfresh : ∀ id ∈ (w.step (.run io)).waiting.head?, ¬ (w.step (.run io)).Logged id := by
      intro id hid
      obtain ⟨k, hwaiting, -, -⟩ := step_waiting h (.run io)
      apply fresh_step h (fun now hnow => by cases hnow)
      have hmem := List.mem_of_mem_head? hid
      rw [hwaiting, hw] at hmem
      exact Or.inr (List.mem_range'_1.mp (by simpa using hmem)).1
    have hstray : (w.step (.run io)).stray =
        (decide ((w.pc.run io).2.irrigationState = .ERROR) && !(w.pc.run io).2.irrigationQueue.isEmpty) := by
      show w.strayAfter (w.pc.step (.run io)) (.run io) = _
      simp [strayAfter, hstate, hw, PumpControl.step]
    constructor
    case running =>
      intro hs
      exfalso
      rcases hnext with hn | hn <;> rcases hs with hs | hs <;> exact IrrigationState.noConfusion (hn.symm.trans hs)
    case idle => exact fun _ => hfresh
    case error =>
      intro herror hnot id hid
      exfalso
      have herr : (w.pc.run io).2.irrigationState = .ERROR := herror
      rw [hstray, herr] at hnot
      have hempty : (w.pc.run io).2.irrigationQueue.items = [] := by simpa using hnot
      have hlen := (step_waiting h (.run io)).choose_spec.2.2
      rw [show (w.step (.run io)).pc.irrigationQueue.items = [] from hempty] at hlen
      rw [List.length_eq_zero_iff.mp hlen] at hid
      cases hid
    case stray =>
      intro hs
      rw [hstray, Bool.and_eq_true, decide_eq_true_eq] at hs
      refine ⟨hs.1, ?_⟩
      have hlen := (step_waiting h (.run io)).choose_spec.2.2
      cases hwaiting : (w.step (.run io)).waiting with
      | nil =>
        rw [hwaiting] at hlen
        have hempty : (w.pc.run io).2.irrigationQueue.items = [] := List.length_eq_zero_iff.mp hlen.symm
        simp [Fifo.isEmpty, hempty] at hs
      | cons id rest =>
        refine ⟨id, rfl, hfresh id ?_⟩
        exact head_of_cons hwaiting

theorem head_run_run {w : PumpWatch} (h : w.Inv) (io : PumpIo) (hstate : w.pc.irrigationState = .RUN) :
    (w.step (.run io)).Head := by
  obtain ⟨hitems, -, hnext⟩ := PumpControl.run_run io hstate
  obtain ⟨id, hhead, hlast⟩ := h.running (Or.inl hstate)
  obtain ⟨hstarted, hlogged, hstray⟩ := quiet_run (w := w) io (by rw [hstate]; decide)
  have hwaiting : (w.step (.run io)).waiting = w.waiting := by
    apply waiting_same h (by simp [taken, hstate])
    show (w.pc.run io).2.irrigationQueue.items.length = _
    rw [hitems]
  constructor
  case running =>
    intro _
    rw [hwaiting, hstarted]
    exact ⟨id, hhead, hlast⟩
  case idle =>
    intro hs
    exfalso
    rcases hnext with hn | hn | hn <;> rcases hs with hs | hs <;>
      exact IrrigationState.noConfusion (hn.symm.trans hs)
  case error =>
    intro _ _ id' hid'
    rw [hwaiting, hhead] at hid'
    cases hid'
    rw [hlogged]
    exact Or.inl (List.mem_of_getLast? hlast)
  case stray =>
    rw [hstray]
    intro hs
    cases hs

theorem head_run_calibration {w : PumpWatch} (h : w.Inv) (io : PumpIo)
    (hstate : w.pc.irrigationState = .CALIBRATION) :
    (w.step (.run io)).Head := by
  obtain ⟨hitems, -, hnext⟩ := PumpControl.run_calibration io hstate
  obtain ⟨-, hlogged, hstray⟩ := quiet_run (w := w) io (by rw [hstate]; decide)
  have hwaiting : (w.step (.run io)).waiting = w.waiting := by
    apply waiting_same h (by simp [taken, hstate])
    show (w.pc.run io).2.irrigationQueue.items.length = _
    rw [hitems]
  constructor
  case running =>
    intro hs
    exfalso
    rcases hnext with hn | hn <;> rcases hs with hs | hs <;> exact IrrigationState.noConfusion (hn.symm.trans hs)
  case idle =>
    intro _ id hid
    rw [hwaiting] at hid
    rw [hlogged]
    exact h.idle (Or.inr hstate) id hid
  case error =>
    intro hs
    exfalso
    rcases hnext with hn | hn <;> exact IrrigationState.noConfusion (hn.symm.trans hs)
  case stray =>
    rw [hstray]
    intro hs
    cases hs

theorem head_run {w : PumpWatch} (h : w.Inv) (io : PumpIo) : (w.step (.run io)).Head := by
  cases hstate : w.pc.irrigationState with
  | IDLE => exact head_run_idle h io hstate
  | RUN => exact head_run_run h io hstate
  | STOP =>
    obtain ⟨e, rest, hqueue, -⟩ := h.output.running (Or.inr hstate)
    apply head_taken h
    · simp [taken, hstate]
    · rw [hstate]
      decide
    · exact (PumpControl.run_stop io hstate hqueue).2.1
  | ERROR =>
    apply head_taken h
    · simp [taken, hstate]
    · rw [hstate]
      decide
    · exact (PumpControl.run_error io hstate).2.1
  | CALIBRATION => exact head_run_calibration h io hstate

theorem head_create {w : PumpWatch} (h : w.Inv) (e : IrrigationQueueElement) :
    (w.step (.createIrrigation e)).Head := by
  have hputs := w.pc.createIrrigation_puts e
  have hstate : (w.step (.createIrrigation e)).pc.irrigationState = w.pc.irrigationState := hputs.state
  have hquiet : w.startedBy (w.pc.step (.createIrrigation e)) = [] := by
    unfold startedBy
    rw [if_neg]
    rintro ⟨hs, hs'⟩
    rw [show (w.pc.step (.createIrrigation e)).irrigationState = w.pc.irrigationState from hputs.state, hs] at hs'
    cases hs'
  have hlogged : ∀ id, (w.step (.createIrrigation e)).Logged id ↔ w.Logged id := by
    intro id
    rw [logged_step, hquiet]
    simp [failedBy, clearedBy]
  have hstarted : (w.step (.createIrrigation e)).started = w.started := by
    show w.started ++ w.startedBy _ = _
    rw [hquiet, List.append_nil]
  have hstray : (w.step (.createIrrigation e)).stray =
      (w.stray || decide (w.pc.irrigationState = .ERROR ∧ w.waiting = [])) := rfl
  obtain ⟨k, hwaiting, -, hlen⟩ := step_waiting h (.createIrrigation e)
  rw [show taken w.pc (.createIrrigation e) = 0 from rfl, List.drop_zero] at hwaiting
  cases hw : w.waiting with
  | cons id rest =>
    apply h.toHead.same hstate _ hstarted hlogged
    · rw [hstray, hw]
      simp
    · rw [hwaiting, hw, List.cons_append, List.head?_cons, List.head?_cons]
  | nil =>
    -- The queue was empty, so it has room.
    have hqueue := h.nil_iff.mp hw
    have hone : (w.pc.createIrrigation e).irrigationQueue.items = [e] := by
      have hroom : w.pc.irrigationQueue.isFull = false := by simp [Fifo.isFull, hqueue]
      rw [PumpControl.createIrrigation, if_pos hroom]
      show (w.pc.irrigationQueue.put e).items = [e]
      rw [Fifo.items_put hroom, hqueue, List.nil_append]
    have hfresh : ∀ id ∈ (w.step (.createIrrigation e)).waiting, ¬ (w.step (.createIrrigation e)).Logged id := by
      intro id hid
      apply fresh_step h (fun now hnow => by cases hnow)
      rw [hwaiting, hw, List.nil_append] at hid
      exact Or.inr (List.mem_range'_1.mp hid).1
    obtain ⟨id, hid⟩ : ∃ id, (w.step (.createIrrigation e)).waiting.head? = some id := by
      cases hnew : (w.step (.createIrrigation e)).waiting with
      | nil =>
        rw [hnew, show (w.step (.createIrrigation e)).pc.irrigationQueue.items = [e] from hone] at hlen
        cases hlen
      | cons id rest => exact ⟨id, rfl⟩
    constructor
    case running =>
      rw [hstate]
      intro hs
      obtain ⟨id', hid', -⟩ := h.running hs
      rw [hw] at hid'
      cases hid'
    case idle =>
      intro _ id' hid'
      exact hfresh id' (List.mem_of_mem_head? hid')
    case error =>
      rw [hstate, hstray, hw]
      intro hs hnot
      simp [hs] at hnot
    case stray =>
      rw [hstate, hstray, stray_eq_false h.toHead (Or.inr hw), Bool.false_or, decide_eq_true_eq]
      rintro ⟨hs, -⟩
      exact ⟨hs, id, hid, hfresh id (List.mem_of_mem_head? hid)⟩

theorem head_skipAll {w : PumpWatch} (h : w.Inv) (now : UInt32) : (w.step (.skipAllIrrigations now)).Head := by
  have hstate : (w.step (.skipAllIrrigations now)).pc.irrigationState = .ERROR := rfl
  constructor
  case running =>
    rw [hstate]
    rintro (hs | hs) <;> cases hs
  case idle =>
    rw [hstate]
    rintro (hs | hs) <;> cases hs
  case error =>
    intro _ _ id hid
    rw [skipAll_waiting h now] at hid
    cases hid
  case stray =>
    intro hs
    cases hs

theorem head_other {w : PumpWatch} (h : w.Inv) {op : PumpOp} (htaken : taken w.pc op = 0)
    (hqueue : (w.pc.step op).irrigationQueue = w.pc.irrigationQueue)
    (hstate : (w.pc.step op).irrigationState = w.pc.irrigationState) (hfailed : w.failedBy (w.pc.step op) op = [])
    (hcleared : w.clearedBy op = []) (hstray : w.strayAfter (w.pc.step op) op = w.stray) : (w.step op).Head := by
  have hquiet : w.startedBy (w.pc.step op) = [] := by
    unfold startedBy
    rw [if_neg]
    rintro ⟨hs, hs'⟩
    rw [hstate, hs] at hs'
    cases hs'
  apply h.toHead.same hstate
  · rw [waiting_same h htaken]
    rw [hqueue]
  · show w.started ++ w.startedBy (w.pc.step op) = w.started
    rw [hquiet, List.append_nil]
  · intro id
    rw [logged_step, hquiet, hfailed, hcleared]
    simp
  · exact hstray

theorem inv_step (w : PumpWatch) (op : PumpOp) (h : w.Inv) : (w.step op).Inv := by
  apply h.of_head
  cases op with
  | run io => exact head_run h io
  | createIrrigation element => exact head_create h element
  | addSafetyIrrigation time channel duration checkFlow checkCurrent pwmValue repeatNum now =>
    exact head_other h rfl rfl rfl rfl rfl rfl
  | addLimitSwitch channel limitSwitch => exact head_other h rfl rfl rfl rfl rfl rfl
  | skipActualIrrigation now =>
    have hsame : (w.pc.skipActualIrrigation now).irrigationQueue = w.pc.irrigationQueue ∧
        (w.pc.skipActualIrrigation now).irrigationState = w.pc.irrigationState := by
      unfold PumpControl.skipActualIrrigation
      split
      all_goals exact ⟨rfl, rfl⟩
    exact head_other h rfl hsame.1 hsame.2 rfl rfl rfl
  | skipAllIrrigations now => exact head_skipAll h now

theorem inv_run (pcf : PCF8574) (reportError : Bool) (now : UInt32) (es : List PumpOp) :
    (Machine.run step (init pcf reportError now) es).Inv :=
  Machine.run_inv_all inv_step es (inv_init pcf reportError now)

theorem Inv.numbered {w : PumpWatch} (h : w.Inv) (op : PumpOp) : w.Numbered op := by
  obtain ⟨added, hitems⟩ := step_items h.output op
  refine ⟨added, hitems, ?_⟩
  have hlength : (w.pc.step op).irrigationQueue.items.length = (w.waiting.drop (taken w.pc op)).length +
      added.length := by
    rw [hitems, List.length_append, List.length_drop, List.length_drop, h.length]
  simp only [step, hlength, Nat.add_sub_cancel_left]

theorem meets_numbered (pcf : PCF8574) (reportError : Bool) (now : UInt32) (es : List PumpOp) :
    Machine.Meets step Numbered (init pcf reportError now) es :=
  Machine.meets_of_inv inv_step (fun _ op h => h.numbered op) es (inv_init pcf reportError now)

/-- In RUN and STOP the oldest irrigation is the one started, and the expander selects its channel; the pump is on
only in RUN, STOP and ERROR, or for an idle pass that finds the oldest irrigation on the selected channel. -/
theorem pump_output (pcf : PCF8574) (reportError : Bool) (now : UInt32) (es : List PumpOp) :
    let w := Machine.run step (init pcf reportError now) es
    Machine.Meets step Numbered (init pcf reportError now) es ∧
    (w.pc.irrigationState = .RUN ∨ w.pc.irrigationState = .STOP →
      (∃ id, w.waiting.head? = some id ∧ w.started.getLast? = some id) ∧
      ∃ head rest, w.pc.irrigationQueue.items = head :: rest ∧
        w.pc.pcf.chip &&& 0x0F = (1 : UInt8) <<< UInt8.ofNat head.channel) ∧
    (w.pc.pwm ≠ 0 → w.pc.irrigationState = .RUN ∨ w.pc.irrigationState = .STOP ∨ w.pc.irrigationState = .ERROR ∨
      (w.pc.irrigationState = .IDLE ∧ ∃ head rest, w.pc.irrigationQueue.items = head :: rest ∧
        w.pc.pcf.chip &&& 0x0F = (1 : UInt8) <<< UInt8.ofNat head.channel)) ∧
    (w.pc.irrigationState = .IDLE → w.pc.irrigationQueue.items = [] → w.pc.pwm = 0) := by
  intro w
  have hinv : w.Inv := inv_run pcf reportError now es
  refine ⟨meets_numbered pcf reportError now es, fun hs => ⟨hinv.running hs, hinv.output.running hs⟩,
    hinv.output.pump, ?_⟩
  intro hidle hempty
  by_contra hpwm
  have hpump := hinv.output.pump hpwm
  rw [hidle, hempty] at hpump
  rcases hpump with hs | hs | hs | ⟨-, head, rest, hs, -⟩ <;> cases hs

/-! ## Lost irrigations -/

/-- A put that is nowhere: it was taken off the queue, and nothing was noted. -/
def Lost (w : PumpWatch) (id : Nat) : Prop := id < w.puts ∧ id ∉ w.waiting ∧ ¬ w.Logged id

theorem nothingLost_iff {w : PumpWatch} : w.NothingLost ↔ ∀ id, ¬ w.Lost id := by
  constructor
  · intro h id hlost
    rcases h id hlost.1 with hw | hl
    · exact hlost.2.1 hw
    · exact hlost.2.2 hl
  · intro h id hid
    by_contra hnot
    exact h id ⟨hid, fun hw => hnot (Or.inl hw), fun hl => hnot (Or.inr hl)⟩

theorem nothingLost_step (w : PumpWatch) (op : PumpOp) (h : w.Inv ∧ w.NothingLost) (hop : w.NoStray op) :
    (w.step op).Inv ∧ (w.step op).NothingLost := by
  obtain ⟨hinv, hnone⟩ := h
  refine ⟨inv_step w op hinv, ?_⟩
  obtain ⟨k, hwaiting, hputs, -⟩ := step_waiting hinv op
  intro id hid
  rw [hputs] at hid
  by_cases hnew : w.puts ≤ id
  · left
    rw [hwaiting]
    exact List.mem_append_right _ (List.mem_range'_1.mpr ⟨hnew, hid⟩)
  have hlogged : w.Logged id → (w.step op).Logged id := fun hl => (logged_step w op id).mpr (Or.inl hl)
  rcases hnone id (Nat.not_le.mp hnew) with hw | hl
  swap
  · exact Or.inr (hlogged hl)
  by_cases hleft : id ∈ w.waiting.drop (taken w.pc op)
  · left
    rw [hwaiting]
    exact List.mem_append_left _ hleft
  -- It is taken off the queue by this step.
  right
  cases op with
  | run io =>
    by_cases hstate : w.pc.irrigationState = .STOP ∨ w.pc.irrigationState = .ERROR
    swap
    · simp only [taken, if_neg hstate, List.drop_zero] at hleft
      exact absurd hw hleft
    simp only [taken, if_pos hstate, List.drop_one] at hleft
    have hhead : w.waiting.head? = some id := by
      cases hcons : w.waiting with
      | nil =>
        rw [hcons] at hw
        cases hw
      | cons a rest =>
        rw [hcons] at hw hleft
        rcases List.mem_cons.mp hw with rfl | hw
        · rfl
        · exact absurd hw hleft
    apply hlogged
    rcases hstate with hstate | hstate
    · obtain ⟨id', hid', hlast⟩ := hinv.running (Or.inr hstate)
      rw [hhead] at hid'
      cases hid'
      exact Or.inl (List.mem_of_getLast? hlast)
    · exact hinv.error hstate hop id hhead
  | skipAllIrrigations now => exact (logged_step w _ id).mpr (Or.inr (Or.inr (Or.inr hw)))
  | createIrrigation element => exact absurd hw hleft
  | addSafetyIrrigation time channel duration checkFlow checkCurrent pwmValue repeatNum now => exact absurd hw hleft
  | addLimitSwitch channel limitSwitch => exact absurd hw hleft
  | skipActualIrrigation now => exact absurd hw hleft

theorem lost_of_stray {w : PumpWatch} {op : PumpOp} (h : w.Inv) (hop : ¬ w.NoStray op) :
    ∃ id, (w.step op).Lost id := by
  cases op with
  | run io =>
    obtain ⟨hstate, id, hhead, hnot⟩ := h.stray (by simpa [NoStray] using hop)
    obtain ⟨rest, hcons⟩ : ∃ rest, w.waiting = id :: rest := by
      cases hw : w.waiting with
      | nil =>
        rw [hw] at hhead
        cases hhead
      | cons a rest =>
        rw [hw] at hhead
        cases hhead
        exact ⟨rest, rfl⟩
    have hid : id ∈ w.waiting := by
      rw [hcons]
      exact List.mem_cons_self
    have hlt := h.below id (Or.inl hid)
    obtain ⟨k, hwaiting, hputs, -⟩ := step_waiting h (.run io)
    refine ⟨id, ?_, ?_, ?_⟩
    · rw [hputs]
      exact Nat.lt_add_right k hlt
    · rw [hwaiting, show taken w.pc (.run io) = 1 by simp [taken, hstate], hcons]
      intro hmem
      have hnodup := h.nodup
      rw [hcons] at hnodup
      rcases List.mem_append.mp hmem with hmem | hmem
      · exact (List.nodup_cons.mp hnodup).1 hmem
      · exact absurd (List.mem_range'_1.mp hmem).1 (Nat.not_le.mpr hlt)
    · rw [(quiet_run io (by rw [hstate]; decide)).2.1]
      exact hnot
  | createIrrigation element => exact absurd trivial hop
  | addSafetyIrrigation time channel duration checkFlow checkCurrent pwmValue repeatNum now =>
    exact absurd trivial hop
  | addLimitSwitch channel limitSwitch => exact absurd trivial hop
  | skipActualIrrigation now => exact absurd trivial hop
  | skipAllIrrigations now => exact absurd trivial hop

theorem lost_step {w : PumpWatch} (h : w.Inv) (op : PumpOp) {id : Nat} (hlost : w.Lost id) :
    (w.step op).Lost id := by
  obtain ⟨hlt, hwaiting, hlogged⟩ := hlost
  obtain ⟨k, hnew, hputs, -⟩ := step_waiting h op
  refine ⟨?_, ?_, ?_⟩
  · rw [hputs]
    exact Nat.lt_add_right k hlt
  · rw [hnew]
    intro hmem
    rcases List.mem_append.mp hmem with hmem | hmem
    · exact hwaiting (List.mem_of_mem_drop hmem)
    · exact absurd (List.mem_range'_1.mp hmem).1 (Nat.not_le.mpr hlt)
  · rw [logged_step]
    rintro (hold | hnoted)
    · exact hlogged hold
    rcases noted_cases w op id hnoted with ⟨hmem, -⟩ | ⟨hmem, -⟩
    · exact hwaiting (List.mem_of_mem_take hmem)
    · exact hwaiting hmem

/-- A run loses no irrigation exactly when none of its passes drops one that was put after the error was raised. -/
theorem nothing_lost_iff (pcf : PCF8574) (reportError : Bool) (now : UInt32) (es : List PumpOp) :
    Machine.Meets step Numbered (init pcf reportError now) es ∧
    ((Machine.run step (init pcf reportError now) es).NothingLost ↔
      Machine.Meets step NoStray (init pcf reportError now) es) := by
  have hinit : (init pcf reportError now).Inv := inv_init pcf reportError now
  refine ⟨meets_numbered pcf reportError now es, ?_, ?_⟩
  · intro hnone
    have hend : ¬ ∃ id, (Machine.run step (init pcf reportError now) es).Lost id := by
      rintro ⟨id, hlost⟩
      exact nothingLost_iff.mp hnone id hlost
    have hkeep : ∀ (w : PumpWatch) (op : PumpOp), w.Inv → (∃ id, w.Lost id) → ∃ id, (w.step op).Lost id := by
      rintro w op hinv ⟨id, hlost⟩
      exact ⟨id, lost_step hinv op hlost⟩
    exact Machine.meets_of_not inv_step (fun w op hinv hop => lost_of_stray hinv hop) hkeep hinit hend
  · intro hmeets
    have hnone : (init pcf reportError now).NothingLost := by
      intro id hid
      exact absurd hid (Nat.not_lt_zero id)
    exact (Machine.run_inv nothingLost_step ⟨hinit, hnone⟩ hmeets).2

def quietIo (now : UInt32) : PumpIo := ⟨now, 0, 0, true, false, Vector.replicate 4 now, now⟩

/-- Everything is stopped, and an irrigation is asked for before the next pass. -/
def stopThenAdd : List PumpOp :=
  [.run (quietIo 6000), .skipAllIrrigations 6100, .createIrrigation ⟨4, 255, 0⟩, .run (quietIo 6200)]

theorem irrigation_lost :
    ¬ ∀ (pcf : PCF8574) (reportError : Bool) (now : UInt32) (es : List PumpOp),
      (Machine.run step (init pcf reportError now) es).NothingLost := by
  intro hclaim
  have hlost : (Machine.run step (init (.init true) true 0) stopThenAdd).Lost 0 := by
    refine ⟨?_, ?_, ?_⟩
    · decide +kernel
    · decide +kernel
    · rintro (h | h | h)
      all_goals
        revert h
        decide +kernel
  exact nothingLost_iff.mp (hclaim (.init true) true 0 stopThenAdd) 0 hlost

end PumpWatch

end CanSystems
