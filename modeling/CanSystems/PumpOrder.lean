import CanSystems.PumpLedger
import Mathlib.Data.List.Sort

/-!
# The order of the irrigations

As long as no irrigation is dropped that was put after the error was raised,
irrigations are started, or fail by themselves, in the order of their numbers, and
one is started only after all that were in the queue when it was put.
-/

namespace CanSystems

open PumpControl PumpWatch

namespace PumpLedger

/-- No pass drops an irrigation that was put after the error was raised. -/
def NoStray (w : PumpLedger) (op : PumpOp) : Prop := w.watch.NoStray op

structure Order (w : PumpLedger) : Prop where
  served : ∀ id, id ∈ w.served ↔ id ∈ w.watch.started ∨ id ∈ w.watch.failed
  sorted : w.served.Pairwise (· < ·)
  front : ∀ id ∈ w.served, ∀ id' ∈ w.watch.waiting, id ≤ id'
  broken : ∀ id ∈ w.broken, id ∈ w.watch.started
  error : w.watch.pc.irrigationState = .ERROR → w.watch.stray = false → ∀ id ∈ w.watch.waiting.head?,
    id ∈ w.watch.failed ∨ id ∈ w.broken
  queued : ∀ id ∈ w.watch.waiting, ∀ e ∈ w.entries[id]?, ∀ j ∈ e.ahead, j ∈ w.watch.waiting ∨ j ∈ w.served
  done : ∀ id ∈ w.served, ∀ e ∈ w.entries[id]?, ∀ j ∈ e.ahead, j ∈ w.served
  line : ∀ id, ∀ e ∈ w.entries[id]?, (e.ahead ++ [id]).Pairwise (· < ·) ∧
    ∀ k ∈ e.last, k ∈ w.served ∧ ∀ j ∈ e.ahead ++ [id], k < j

theorem order_init (pcf : PCF8574) (reportError : Bool) (now : UInt32) : (init pcf reportError now).Order := by
  constructor
  case served =>
    intro id
    simp [init, PumpWatch.init]
  case sorted => exact List.Pairwise.nil
  case error =>
    intro h
    cases h
  case line =>
    intro id e he
    cases he
  all_goals
    intro id hid
    cases hid

theorem Order.logged {w : PumpLedger} (h : w.Order) {id : Nat} (hid : id ∈ w.served) : w.watch.Logged id := by
  rcases (h.served id).mp hid with hid | hid
  · exact Or.inl hid
  · exact Or.inr (Or.inl hid)

theorem Order.lt_puts {w : PumpLedger} (h : w.Order) (hinv : w.Inv) {id : Nat} (hid : id ∈ w.served) :
    id < w.watch.puts :=
  hinv.watch.below id (Or.inr (h.logged hid))

theorem served_mono (w : PumpLedger) (op : PumpOp) {id : Nat} (hid : id ∈ w.served) : id ∈ (w.step op).served :=
  List.mem_append_left _ (List.mem_append_left _ hid)

theorem mem_served_step {w : PumpLedger} {op : PumpOp} {id : Nat} :
    id ∈ (w.step op).served ↔
      id ∈ w.served ∨ id ∈ w.watch.startedBy (w.watch.pc.step op) ∨ id ∈ w.watch.failedBy
        (w.watch.pc.step op) op := by
  show id ∈ w.served ++ w.watch.startedBy (w.watch.pc.step op) ++ w.watch.failedBy (w.watch.pc.step op) op ↔ _
  rw [List.mem_append, List.mem_append, or_assoc]

/-- What a step serves was the oldest irrigation, and had not been served before. -/
theorem Order.newly {w : PumpLedger} (h : w.Order) (hinv : w.Inv) {op : PumpOp} {id : Nat}
    (hid : id ∈ (w.step op).served) :
    id ∈ w.served ∨ (w.watch.waiting.head? = some id ∧ ∀ j ∈ w.served, j < id) := by
  rcases mem_served_step.mp hid with hold | hnew
  · exact Or.inl hold
  right
  rcases served_cases hinv.watch op with ⟨hstarted, hfailed⟩ | ⟨io, k, rest, rfl, hidle, hwaiting, hnote⟩
  · rw [hstarted, hfailed] at hnew
    rcases hnew with hnew | hnew <;> cases hnew
  have hk : id = k := by
    rcases hnote with ⟨hstarted, hfailed, -⟩ | ⟨hstarted, hfailed, -⟩
    · rw [hstarted, hfailed] at hnew
      simpa using hnew
    · rw [hstarted, hfailed] at hnew
      simpa using hnew
  subst hk
  have hhead := head_of_cons hwaiting
  refine ⟨hhead, ?_⟩
  intro j hj
  have hle := h.front j hj id (List.mem_of_mem_head? hhead)
  have hne : j ≠ id := by
    rintro rfl
    exact hinv.watch.idle (Or.inl hidle) j hhead (h.logged hj)
  omega

/-- What a step takes off the queue has been served, unless the whole queue is cleared. -/
theorem Order.popped {w : PumpLedger} (h : w.Order) (hinv : w.Inv) {op : PumpOp} (hop : w.NoStray op)
    (hskip : ∀ now, op ≠ .skipAllIrrigations now) {id : Nat} (hid : id ∈ w.watch.waiting)
    (hnot : id ∉ w.watch.waiting.drop (taken w.watch.pc op)) : id ∈ w.served := by
  have htaken : taken w.watch.pc op = 1 := by
    rcases taken_le w.watch.pc op with h0 | h1 | ⟨now, rfl⟩
    · rw [h0, List.drop_zero] at hnot
      exact absurd hid hnot
    · exact h1
    · exact absurd rfl (hskip now)
  have hhead : w.watch.waiting.head? = some id := by
    cases hcons : w.watch.waiting with
    | nil =>
      rw [hcons] at hid
      cases hid
    | cons k rest =>
      rw [hcons] at hid
      rw [hcons, htaken, List.drop_one, List.tail_cons] at hnot
      rw [List.head?_cons, (List.mem_cons.mp hid).resolve_right hnot]
  cases op with
  | run io =>
    have hstate : w.watch.pc.irrigationState = .STOP ∨ w.watch.pc.irrigationState = .ERROR := by
      by_contra hno
      rw [taken, if_neg hno] at htaken
      cases htaken
    rcases hstate with hstate | hstate
    · obtain ⟨k, hk, hlast⟩ := hinv.watch.running (Or.inr hstate)
      obtain rfl : k = id := Option.some.inj (hk.symm.trans hhead)
      exact (h.served k).mpr (Or.inl (List.mem_of_getLast? hlast))
    · rcases h.error hstate hop id hhead with hfailed | hbroken
      · exact (h.served id).mpr (Or.inr hfailed)
      · exact (h.served id).mpr (Or.inl (h.broken id hbroken))
  | createIrrigation element => cases htaken
  | addSafetyIrrigation time channel duration checkFlow checkCurrent pwmValue repeatNum now => cases htaken
  | addLimitSwitch channel limitSwitch => cases htaken
  | skipActualIrrigation now => cases htaken
  | skipAllIrrigations now => exact absurd rfl (hskip now)

theorem mem_waiting_step {w : PumpLedger} (hinv : w.Inv) {op : PumpOp} {id : Nat} :
    id ∈ (w.step op).watch.waiting ↔ id ∈ w.watch.waiting.drop (taken w.watch.pc op) ∨
      (w.watch.puts ≤ id ∧ id < (w.step op).watch.puts) := by
  show id ∈ (w.watch.step op).waiting ↔ _ ∨ (_ ∧ id < (w.watch.step op).puts)
  obtain ⟨hwaiting, hputs⟩ := step_numbers hinv.watch op
  rw [hwaiting, hputs, List.mem_append, List.mem_range'_1]

/-! ## One step -/

theorem order_error {w : PumpLedger} (hinv : w.Inv) (h : w.Order) (op : PumpOp) :
    (w.step op).watch.pc.irrigationState = .ERROR → (w.step op).watch.stray = false →
      ∀ id ∈ (w.step op).watch.waiting.head?, id ∈ (w.step op).watch.failed ∨ id ∈ (w.step op).broken := by
  intro herror hstray id hid
  have hskip : ∀ now, op ≠ .skipAllIrrigations now := by
    rintro now rfl
    rw [show (w.step (.skipAllIrrigations now)).watch = w.watch.step (.skipAllIrrigations now) from rfl,
      skipAll_waiting hinv.watch now] at hid
    cases hid
  have hold : id ∈ w.watch.waiting.drop (taken w.watch.pc op) := by
    rcases (mem_waiting_step hinv).mp (List.mem_of_mem_head? hid) with hold | ⟨hge, -⟩
    · exact hold
    · have hlogged := (inv_step w op hinv).watch.error herror hstray id hid
      exact absurd hlogged (fresh_step hinv.watch hskip (Or.inr hge))
  -- No step that takes an irrigation off the queue ends in ERROR.
  have htaken : taken w.watch.pc op = 0 := by
    rcases taken_le w.watch.pc op with h0 | h1 | ⟨now, rfl⟩
    · exact h0
    · cases op with
      | run io =>
        by_cases hstate : w.watch.pc.irrigationState = .STOP ∨ w.watch.pc.irrigationState = .ERROR
        swap
        · rw [taken, if_neg hstate]
        have hnext : (w.watch.pc.run io).2.irrigationState = .IDLE := by
          rcases hstate with hstate | hstate
          · obtain ⟨e, rest, hqueue, -⟩ := hinv.watch.output.running (Or.inr hstate)
            exact (run_stop io hstate hqueue).2.1
          · exact (run_error io hstate).2.1
        exact absurd (hnext.symm.trans herror) (by decide)
      | skipAllIrrigations now => exact absurd rfl (hskip now)
      | createIrrigation element => rfl
      | addSafetyIrrigation time channel duration checkFlow checkCurrent pwmValue repeatNum now => rfl
      | addLimitSwitch channel limitSwitch => rfl
      | skipActualIrrigation now => rfl
    · exact absurd rfl (hskip now)
  rw [htaken, List.drop_zero] at hold
  obtain ⟨k, rest, hcons⟩ := List.exists_cons_of_ne_nil (List.ne_nil_of_mem hold)
  have hhead : w.watch.waiting.head? = some id := by
    rw [show (w.step op).watch = w.watch.step op from rfl, (step_numbers hinv.watch op).1, htaken, List.drop_zero,
      hcons, List.cons_append, List.head?_cons] at hid
    rw [hcons, List.head?_cons]
    exact hid
  have htake : id ∈ w.watch.waiting.take 1 := by
    rw [hcons, List.head?_cons] at hhead
    rw [hcons, Option.some.inj hhead]
    exact List.mem_cons_self
  have hbefore : w.watch.pc.irrigationState = .ERROR → w.watch.stray = false →
      id ∈ (w.step op).watch.failed ∨ id ∈ (w.step op).broken := by
    intro hs hno
    exact (h.error hs hno id hhead).imp (List.mem_append_left _) (List.mem_append_left _)
  cases op with
  | run io =>
    cases hstate : w.watch.pc.irrigationState with
    | IDLE =>
      left
      apply List.mem_append_right
      show id ∈ failedBy _ _ (.run io)
      rw [failedBy, if_pos ⟨hstate, herror⟩]
      exact htake
    | RUN =>
      right
      apply List.mem_append_right
      show id ∈ brokenBy _ _ (.run io)
      rw [brokenBy, if_pos ⟨hstate, herror⟩]
      exact htake
    | STOP => simp [taken, hstate] at htaken
    | ERROR => simp [taken, hstate] at htaken
    | CALIBRATION =>
      rcases (run_calibration io hstate).2.2 with hnext | hnext
      · exact absurd (hnext.symm.trans herror) (by decide)
      · exact absurd (hnext.symm.trans herror) (by decide)
  | createIrrigation element =>
    apply hbefore
    · exact (w.watch.pc.createIrrigation_puts element).state.symm.trans herror
    · rw [show (w.step (.createIrrigation element)).watch.stray = (w.watch.stray || _) from rfl,
        Bool.or_eq_false_iff] at hstray
      exact hstray.1
  | addSafetyIrrigation time channel duration checkFlow checkCurrent pwmValue repeatNum now =>
    exact hbefore herror hstray
  | addLimitSwitch channel limitSwitch => exact hbefore herror hstray
  | skipActualIrrigation now =>
    apply hbefore _ hstray
    rw [← herror]
    show _ = (w.watch.pc.skipActualIrrigation now).irrigationState
    unfold skipActualIrrigation
    split <;> rfl
  | skipAllIrrigations now => exact absurd rfl (hskip now)

theorem order_line {w : PumpLedger} (hinv : w.Inv) (h : w.Order) (op : PumpOp) :
    ∀ id, ∀ e ∈ (w.step op).entries[id]?, (e.ahead ++ [id]).Pairwise (· < ·) ∧
      ∀ k ∈ e.last, k ∈ (w.step op).served ∧ ∀ j ∈ e.ahead ++ [id], k < j := by
  intro id e he
  by_cases hid : id < w.watch.puts
  · rw [entry_old hinv op hid] at he
    obtain ⟨hsorted, hlast⟩ := h.line id e he
    exact ⟨hsorted, fun k hk => ⟨served_mono w op (hlast k hk).1, (hlast k hk).2⟩⟩
  obtain ⟨j, rfl⟩ := Nat.exists_eq_add_of_le (Nat.le_of_not_lt hid)
  obtain ⟨hahead, -, hchain⟩ := new_entry hinv he
  have hleft : (w.watch.waiting.drop (taken w.watch.pc op)).Pairwise (· < ·) :=
    hinv.sorted.sublist (List.drop_sublist _ _)
  have hline : e.ahead ++ [w.watch.puts + j] =
      w.watch.waiting.drop (taken w.watch.pc op) ++ List.range' w.watch.puts (j + 1) := by
    rw [hahead, List.append_assoc, List.range'_1_concat]
  rw [hline]
  constructor
  · rw [List.pairwise_append]
    refine ⟨hleft, List.pairwise_lt_range', ?_⟩
    intro a ha b hb
    have hlt := hinv.lt_puts (List.mem_of_mem_drop ha)
    have hge := (List.mem_range'_1.mp hb).1
    omega
  · intro k hk
    rcases hchain with ⟨hnone, -⟩ | ⟨-, io, head, rest, k', rfl, hstate, -, -, hk', hlast, -⟩
    · rw [hnone] at hk
      cases hk
    rw [hlast] at hk
    obtain rfl : k' = k := Option.some.inj hk
    obtain ⟨k'', hk'', hstarted⟩ := hinv.watch.running (Or.inr hstate)
    obtain rfl : k'' = k' := Option.some.inj (hk''.symm.trans hk')
    refine ⟨served_mono w _ ((h.served k'').mpr (Or.inl (List.mem_of_getLast? hstarted))), ?_⟩
    intro b hb
    obtain ⟨tail, hcons⟩ := List.head?_eq_some_iff.mp hk'
    have hsorted := hinv.sorted
    rw [hcons] at hsorted
    rw [show taken w.watch.pc (.run io) = 1 by simp [taken, hstate], hcons, List.drop_one, List.tail_cons] at hb
    rcases List.mem_append.mp hb with hb | hb
    · exact List.rel_of_pairwise_cons hsorted hb
    · exact Nat.lt_of_lt_of_le (hinv.lt_puts (List.mem_of_mem_head? hk')) (List.mem_range'_1.mp hb).1

theorem order_step (w : PumpLedger) (op : PumpOp) (h : w.Inv ∧ w.Order) (hop : w.NoStray op) :
    (w.step op).Inv ∧ (w.step op).Order := by
  obtain ⟨hinv, h⟩ := h
  refine ⟨inv_step w op hinv, ?_⟩
  constructor
  case served =>
    intro id
    show _ ↔ id ∈ w.watch.started ++ w.watch.startedBy (w.watch.pc.step op) ∨
      id ∈ w.watch.failed ++ w.watch.failedBy (w.watch.pc.step op) op
    rw [mem_served_step, h.served, List.mem_append, List.mem_append]
    tauto
  case sorted =>
    rcases served_cases hinv.watch op with ⟨hstarted, hfailed⟩ | ⟨io, k, rest, rfl, hidle, hwaiting, hnote⟩
    · show (w.served ++ w.watch.startedBy (w.watch.pc.step op) ++ w.watch.failedBy (w.watch.pc.step op) op).Pairwise
        _
      rw [hstarted, hfailed, List.append_nil, List.append_nil]
      exact h.sorted
    · have hserved : (w.step (.run io)).served = w.served ++ [k] := by
        show w.served ++ w.watch.startedBy (w.watch.pc.step (.run io)) ++
          w.watch.failedBy (w.watch.pc.step (.run io)) (.run io) = _
        rcases hnote with ⟨hstarted, hfailed, -⟩ | ⟨hstarted, hfailed, -⟩
        · rw [hstarted, hfailed, List.append_nil]
        · rw [hstarted, hfailed, List.append_nil]
      rw [hserved, List.pairwise_append]
      refine ⟨h.sorted, List.pairwise_singleton _ _, ?_⟩
      intro a ha b hb
      obtain rfl := List.mem_singleton.mp hb
      have hmem : b ∈ (w.step (.run io)).served := by
        rw [hserved]
        exact List.mem_append_right _ List.mem_cons_self
      rcases h.newly hinv hmem with hold | ⟨-, hlt⟩
      · have hnot := hinv.watch.idle (Or.inl hidle) b (head_of_cons hwaiting)
        exact absurd (h.logged hold) hnot
      · exact hlt a ha
  case front =>
    intro id hid id' hid'
    rcases (mem_waiting_step hinv).mp hid' with hold | ⟨hge, -⟩
    · have hmem := List.mem_of_mem_drop hold
      rcases h.newly hinv hid with hserved | ⟨hhead, -⟩
      · exact h.front id hserved id' hmem
      · exact hinv.head_le hhead hmem
    · rcases h.newly hinv hid with hserved | ⟨hhead, -⟩
      · have hlt := h.lt_puts hinv hserved
        omega
      · have hlt := hinv.lt_puts (List.mem_of_mem_head? hhead)
        omega
  case broken =>
    intro id hid
    rcases List.mem_append.mp hid with hold | hnew
    · exact List.mem_append_left _ (h.broken id hold)
    · apply List.mem_append_left
      unfold brokenBy at hnew
      split at hnew
      · split at hnew
        · rename_i hstate
          obtain ⟨k, hk, hlast⟩ := hinv.watch.running (Or.inl hstate.1)
          obtain rfl : k = id := Option.some.inj (hk.symm.trans (mem_of_mem_take_one hnew))
          exact List.mem_of_getLast? hlast
        · cases hnew
      · cases hnew
  case error => exact order_error hinv h op
  case queued =>
    intro id hid e he j hj
    by_cases hlt : id < w.watch.puts
    · rw [entry_old hinv op hlt] at he
      have hmem : id ∈ w.watch.waiting.drop (taken w.watch.pc op) := by
        rcases (mem_waiting_step hinv).mp hid with hold | ⟨hge, -⟩
        · exact hold
        · omega
      have hskip : ∀ now, op ≠ .skipAllIrrigations now := by
        rintro now rfl
        rw [show (w.step (.skipAllIrrigations now)).watch = w.watch.step (.skipAllIrrigations now) from rfl,
          skipAll_waiting hinv.watch now] at hid
        cases hid
      rcases h.queued id (List.mem_of_mem_drop hmem) e he j hj with hwaiting | hserved
      · by_cases hleft : j ∈ w.watch.waiting.drop (taken w.watch.pc op)
        · exact Or.inl ((mem_waiting_step hinv).mpr (Or.inl hleft))
        · exact Or.inr (served_mono w op (h.popped hinv hop hskip hwaiting hleft))
      · exact Or.inr (served_mono w op hserved)
    · obtain ⟨m, rfl⟩ := Nat.exists_eq_add_of_le (Nat.le_of_not_lt hlt)
      left
      rw [(new_entry hinv he).1] at hj
      rw [mem_waiting_step hinv]
      rcases List.mem_append.mp hj with hj | hj
      · exact Or.inl hj
      · right
        obtain ⟨hge, hlt'⟩ := List.mem_range'_1.mp hj
        have hbound := (inv_step w op hinv).lt_of_entry he
        omega
  case done =>
    intro id hid e he j hj
    have hlt : id < w.watch.puts := by
      rcases h.newly hinv hid with hserved | ⟨hhead, -⟩
      · exact h.lt_puts hinv hserved
      · exact hinv.lt_puts (List.mem_of_mem_head? hhead)
    rw [entry_old hinv op hlt] at he
    apply served_mono w op
    rcases h.newly hinv hid with hserved | ⟨hhead, -⟩
    · exact h.done id hserved e he j hj
    · rcases h.queued id (List.mem_of_mem_head? hhead) e he j hj with hwaiting | hserved
      · -- The oldest irrigation has nothing in front of it.
        have hge := hinv.head_le hhead hwaiting
        have hlt := (List.pairwise_append.mp (h.line id e he).1).2.2 j hj id List.mem_cons_self
        omega
      · exact hserved
  case line => exact order_line hinv h op

theorem sublist_of_sorted {l l' : List Nat} (hl : l.Pairwise (· < ·)) (hl' : l'.Pairwise (· < ·)) (hsub : l ⊆ l') :
    l.Sublist l' := by
  have hnodup : l.Nodup := hl.imp Nat.ne_of_lt
  exact List.sublist_of_subperm_of_pairwise (List.subperm_of_subset hnodup hsub) hl hl'

/-- Before an irrigation is started, everything is served that was in the queue when it was put, in order; and all
of it after the run that it repeats. -/
theorem Order.ahead_served {w : PumpLedger} (h : w.Order) {id : Nat} (hid : id ∈ w.served) {e : PutEntry}
    (he : w.entries[id]? = some e) : (e.last.toList ++ e.ahead ++ [id]).Sublist w.served := by
  obtain ⟨hline, hlast⟩ := h.line id e he
  have hserved : ∀ j ∈ e.ahead ++ [id], j ∈ w.served := by
    intro j hj
    rcases List.mem_append.mp hj with hj | hj
    · exact h.done id hid e he j hj
    · rw [List.mem_singleton.mp hj]
      exact hid
  rw [List.append_assoc]
  cases hk : e.last with
  | none => exact sublist_of_sorted hline h.sorted hserved
  | some k =>
    obtain ⟨hmem, hlt⟩ := hlast k hk
    apply sublist_of_sorted (List.pairwise_cons.mpr ⟨hlt, hline⟩) h.sorted
    intro j hj
    rcases List.mem_cons.mp hj with rfl | hj
    · exact hmem
    · exact hserved j hj

end PumpLedger

end CanSystems
