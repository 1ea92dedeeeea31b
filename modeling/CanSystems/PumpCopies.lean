import CanSystems.PumpLedger

/-!
# One safety irrigation for each channel

An idle pass puts what is due into an empty queue, so that it never puts a second
one. A pass that puts a repeat back asks again what is due, with other irrigations
in the queue: a channel whose safety irrigation has waited through it gets another
one (`safety_put_twice`). Without such a pass there is never a second one.
-/

namespace CanSystems

open PumpControl PumpWatch

namespace PumpLedger

/-- It waits to be started, put because of the safety timer of the channel. -/
def Copy (w : PumpLedger) (i : Fin 4) (id : Nat) : Prop :=
  id ∈ w.watch.waiting ∧ id ∉ w.watch.started ∧ ∃ e ∈ w.entries[id]?, e.cause = .safety i

def OneCopy (w : PumpLedger) : Prop := ∀ i id id', w.Copy i id → w.Copy i id' → id = id'

/-- No pass that puts a repeat back finds, with a place left in the queue, a channel due whose safety irrigation
waits. -/
def NoSecond (w : PumpLedger) : PumpOp → Prop
  | .run io => w.watch.pc.irrigationState = .STOP → ∀ head rest, w.watch.pc.irrigationQueue.items = head :: rest →
    0 < head.repeatNum → ∀ i ∈ (dueChannels w.watch.pc.safetyIrrigation io.safetyClock).take
      (3 - rest.length), ∀ id,
      ¬ w.Copy i id
  | _ => True

theorem safetyPuts_nodup (safety : Vector SafetyIrrigationElement 4) (clock : Vector UInt32 4) (room : Nat) :
    ((safetyPuts safety clock room).map QueuePut.cause).Nodup := by
  have hdue : (dueChannels safety clock).Nodup := (List.nodup_finRange 4).filter _
  rw [safetyPuts, List.map_map]
  apply (hdue.sublist (List.take_sublist _ _)).map
  intro i j hij
  exact PutCause.safety.inj hij

theorem putsOf_nodup (pc : PumpControl) (op : PumpOp) : ((pc.putsOf op).map QueuePut.cause).Nodup := by
  cases op with
  | run io =>
    unfold putsOf
    cases hstate : pc.irrigationState with
    | IDLE =>
      simp only
      split
      · exact safetyPuts_nodup _ _ _
      · exact List.nodup_nil
    | STOP =>
      simp only [stopPuts]
      split
      · exact List.nodup_nil
      split
      · rw [List.map_cons]
        refine List.nodup_cons.mpr ⟨?_, safetyPuts_nodup _ _ _⟩
        intro hmem
        obtain ⟨p, hp, hcause⟩ := List.mem_map.mp hmem
        obtain ⟨i, -, -, hi⟩ := mem_safetyPuts hp
        rw [hi] at hcause
        cases hcause
      · exact List.nodup_nil
    | RUN => exact List.nodup_nil
    | ERROR => exact List.nodup_nil
    | CALIBRATION => exact List.nodup_nil
  | createIrrigation element =>
    simp only [putsOf]
    split
    · exact List.nodup_nil
    · exact List.nodup_singleton _
  | addSafetyIrrigation time channel duration checkFlow checkCurrent pwmValue repeatNum now => exact List.nodup_nil
  | addLimitSwitch channel limitSwitch => exact List.nodup_nil
  | skipActualIrrigation now => exact List.nodup_nil
  | skipAllIrrigations now => exact List.nodup_nil

theorem copy_step {w : PumpLedger} (h : w.Inv) {op : PumpOp} {i : Fin 4} {id : Nat}
    (hcopy : (w.step op).Copy i id) :
    w.Copy i id ∨ ∃ j, id = w.watch.puts + j ∧ ((w.watch.pc.putsOf op).map QueuePut.cause)[j]? = some
      (.safety i) := by
  obtain ⟨hwaiting, hstarted, e, he, hcause⟩ := hcopy
  rw [show (w.step op).watch = w.watch.step op from rfl, (step_numbers h.watch op).1] at hwaiting
  rcases List.mem_append.mp hwaiting with hold | hnew
  · left
    have hmem := List.mem_of_mem_drop hold
    have hlt := h.watch.below id (Or.inl hmem)
    rw [entry_old h op hlt] at he
    exact ⟨hmem, fun hin => hstarted (List.mem_append_left _ hin), e, he, hcause⟩
  · right
    obtain ⟨hge, -⟩ := List.mem_range'_1.mp hnew
    obtain ⟨j, rfl⟩ := Nat.exists_eq_add_of_le hge
    rw [entry_new h op j] at he
    obtain ⟨put, hput, rfl⟩ := Option.mem_map.mp he
    refine ⟨j, rfl, ?_⟩
    rw [List.getElem?_map, hput, Option.map_some]
    exact congrArg some hcause

theorem copy_put {w : PumpLedger} (h : w.Inv) {op : PumpOp} {i : Fin 4} {j : Nat}
    (hj : ((w.watch.pc.putsOf op).map QueuePut.cause)[j]? = some (.safety i)) :
    (w.step op).Copy i (w.watch.puts + j) := by
  rw [List.getElem?_map] at hj
  obtain ⟨put, hput, hcause⟩ := Option.map_eq_some_iff.mp hj
  have hlt := (List.getElem?_eq_some_iff.mp hput).1
  refine ⟨?_, ?_, _, Option.mem_def.mpr (by rw [entry_new h op j, hput]; rfl), hcause⟩
  · show _ ∈ (w.watch.step op).waiting
    rw [(step_numbers h.watch op).1]
    exact List.mem_append_right _ (List.mem_range'_1.mpr ⟨Nat.le_add_right _ _, Nat.add_lt_add_left hlt _⟩)
  · intro hin
    refine @fresh_step _ h.watch op (fun now hskip => ?_) _ (Or.inr (Nat.le_add_right w.watch.puts j)) (Or.inl hin)
    subst hskip
    cases hput

theorem copies_new {pc : PumpControl} {op : PumpOp} {i : Fin 4} {j j' : Nat}
    (hj : ((pc.putsOf op).map QueuePut.cause)[j]? = some (.safety i))
    (hj' : ((pc.putsOf op).map QueuePut.cause)[j']? = some (.safety i)) : j = j' :=
  (List.getElem?_inj (List.getElem?_eq_some_iff.mp hj).1 (putsOf_nodup pc op)).mp (hj.trans hj'.symm)

/-- What a step puts for a channel while a copy for it waits breaks the condition. -/
theorem noSecond_put {w : PumpLedger} (h : w.Inv) {op : PumpOp} (hop : w.NoSecond op) {i : Fin 4} {j : Nat}
    (hj : ((w.watch.pc.putsOf op).map QueuePut.cause)[j]? = some (.safety i)) (id : Nat) : ¬ w.Copy i id := by
  intro hcopy
  have hmem := List.mem_of_getElem? hj
  obtain ⟨put, hput, hcause⟩ := List.mem_map.mp hmem
  cases op with
  | run io =>
    unfold putsOf at hput
    cases hstate : w.watch.pc.irrigationState with
    | IDLE =>
      simp only [hstate] at hput
      split at hput
      · rename_i hempty
        have hnone := h.watch.nil_iff.mpr (Fifo.isEmpty_iff.mp hempty)
        have hin := hcopy.1
        rw [hnone] at hin
        cases hin
      · cases hput
    | STOP =>
      simp only [hstate, stopPuts] at hput
      split at hput
      · cases hput
      rename_i head rest hqueue
      split at hput
      · rename_i hrepeat
        rcases List.mem_cons.mp hput with rfl | hput
        · cases hcause
        · obtain ⟨i', hi', -, hcause'⟩ := mem_safetyPuts hput
          obtain rfl : i' = i := PutCause.safety.inj (hcause'.symm.trans hcause)
          exact hop hstate head rest hqueue hrepeat i' hi' id hcopy
      · cases hput
    | RUN =>
      simp only [hstate] at hput
      cases hput
    | ERROR =>
      simp only [hstate] at hput
      cases hput
    | CALIBRATION =>
      simp only [hstate] at hput
      cases hput
  | createIrrigation element =>
    simp only [putsOf] at hput
    split at hput
    · cases hput
    · obtain rfl := List.mem_singleton.mp hput
      cases hcause
  | addSafetyIrrigation time channel duration checkFlow checkCurrent pwmValue repeatNum now => cases hput
  | addLimitSwitch channel limitSwitch => cases hput
  | skipActualIrrigation now => cases hput
  | skipAllIrrigations now => cases hput

/-- The pass that puts a second one: the first still waits behind the irrigation that ends. -/
theorem second_put {w : PumpLedger} (h : w.Inv) {op : PumpOp} (hop : ¬ w.NoSecond op) :
    ∃ (i : Fin 4) (id j : Nat), w.Copy i id ∧ (w.step op).Copy i id ∧
      ((w.watch.pc.putsOf op).map QueuePut.cause)[j]? = some (.safety i) := by
  cases op with
  | run io =>
    simp only [NoSecond, not_forall, not_not] at hop
    obtain ⟨hstate, head, rest, hqueue, hrepeat, i, hi, id, hcopy⟩ := hop
    have hputs : w.watch.pc.putsOf (.run io) = ⟨head.again, .again⟩ ::
        safetyPuts w.watch.pc.safetyIrrigation io.safetyClock (3 - rest.length) := by
      simp only [putsOf, hstate, stopPuts, hqueue]
      exact if_pos hrepeat
    have hcause : PutCause.safety i ∈ (w.watch.pc.putsOf (.run io)).map QueuePut.cause := by
      rw [hputs, List.map_cons, safetyPuts, List.map_map]
      exact List.mem_cons_of_mem _ (List.mem_map.mpr ⟨i, hi, rfl⟩)
    obtain ⟨j, hj⟩ := List.getElem?_of_mem hcause
    refine ⟨i, id, j, hcopy, ?_, hj⟩
    obtain ⟨hwaiting, hstarted, e, he, hsafety⟩ := hcopy
    refine ⟨?_, ?_, e, ?_, hsafety⟩
    · -- The oldest irrigation is the one that ran, so the copy is not the one that is taken.
      obtain ⟨k, hhead, hlast⟩ := h.watch.running (Or.inr hstate)
      obtain ⟨tail, hcons⟩ : ∃ tail, w.watch.waiting = k :: tail := List.head?_eq_some_iff.mp hhead
      have hne : id ≠ k := by
        rintro rfl
        exact hstarted (List.mem_of_getLast? hlast)
      show id ∈ (w.watch.step (.run io)).waiting
      rw [(step_numbers h.watch _).1, hcons]
      rw [hcons] at hwaiting
      rw [show taken w.watch.pc (.run io) = 1 by simp [taken, hstate], List.drop_one, List.tail_cons]
      exact List.mem_append_left _ ((List.mem_cons.mp hwaiting).resolve_left hne)
    · show id ∉ (w.watch.step (.run io)).started
      rw [(quiet_run io (by rw [hstate]; decide)).1]
      exact hstarted
    · rw [entry_old h _ (h.watch.below id (Or.inl hwaiting))]
      exact he
  | createIrrigation element => exact absurd trivial hop
  | addSafetyIrrigation time channel duration checkFlow checkCurrent pwmValue repeatNum now =>
    exact absurd trivial hop
  | addLimitSwitch channel limitSwitch => exact absurd trivial hop
  | skipActualIrrigation now => exact absurd trivial hop
  | skipAllIrrigations now => exact absurd trivial hop

theorem oneCopy_step_iff (w : PumpLedger) (op : PumpOp) (h : w.Inv) (hone : w.OneCopy) :
    (w.step op).OneCopy ↔ w.NoSecond op := by
  constructor
  · intro hone'
    by_contra hop
    obtain ⟨i, id, j, hcopy, hcopy', hj⟩ := second_put h hop
    have hsame := hone' i id _ hcopy' (copy_put h hj)
    have hlt := h.watch.below id (Or.inl hcopy.1)
    omega
  · intro hop i id id' hcopy hcopy'
    rcases copy_step h hcopy with hold | ⟨j, rfl, hj⟩
    · rcases copy_step h hcopy' with hold' | ⟨j', -, hj'⟩
      · exact hone i id id' hold hold'
      · exact absurd hold (noSecond_put h hop hj' id)
    · rcases copy_step h hcopy' with hold' | ⟨j', rfl, hj'⟩
      · exact absurd hold' (noSecond_put h hop hj id')
      · rw [copies_new hj hj']

/-- No channel ever has two safety irrigations that wait to be started, exactly when no pass that puts a repeat
back finds a channel due whose safety irrigation waits. -/
theorem one_copy_iff (pcf : PCF8574) (reportError : Bool) (now : UInt32) (es : List PumpOp) :
    (∀ fs, fs <+: es → (Machine.run step (init pcf reportError now) fs).Entered) ∧
    ((∀ fs, fs <+: es → (Machine.run step (init pcf reportError now) fs).OneCopy) ↔
      Machine.Meets step NoSecond (init pcf reportError now) es) := by
  refine ⟨fun fs _ => (inv_run pcf reportError now fs).elements, ?_⟩
  apply Machine.throughout_iff inv_step oneCopy_step_iff es (inv_init pcf reportError now)
  intro i id id' hcopy
  cases hcopy.1

/-- Channel 1 is to have water every minute, and an irrigation of channel 0 runs three times for two minutes; the
list ends with the second pass that puts its repeat back. -/
def repeatedRuns : List PumpOp :=
  [.run (.at 5001 0), .addSafetyIrrigation 1 1 1 false false 200 0 5002,
    .createIrrigation (.ofFields 0 2 false false 255 2), .run (.at 5003 0), .run (.at 125004 0),
      .run (.at 125005 0), .run (.at 125006 0), .run (.at 245007 0),
    .run (.at 245008 0)]

theorem safety_put_twice :
    ¬ ∀ (pcf : PCF8574) (reportError : Bool) (now : UInt32) (es : List PumpOp),
      (Machine.run step (init pcf reportError now) es).OneCopy := by
  intro hclaim
  have hfirst : (Machine.run step (init (.init true) true 0) repeatedRuns).Copy 1 2 := by
    refine ⟨by decide +kernel, by decide +kernel, _, rfl, by decide +kernel⟩
  have hsecond : (Machine.run step (init (.init true) true 0) repeatedRuns).Copy 1 4 := by
    refine ⟨by decide +kernel, by decide +kernel, _, rfl, by decide +kernel⟩
  exact absurd (hclaim (.init true) true 0 repeatedRuns 1 2 4 hfirst hsecond) (by decide)

end PumpLedger

end CanSystems
