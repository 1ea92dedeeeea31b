import CanSystems.PumpOrder

/-!
# Repeats

An irrigation that was put with `r` repeats is a chain of `r + 1` runs, each with
a number of its own. As long as nothing went wrong with the chain itself, either
its next run is in the queue, and what it has run, what that run still counts for
and the repeats it has left make `r + 1`; or the chain is out of the queue and has
run so often. How far it is from there is counted in passes that go on with what
is in the queue.
-/

namespace CanSystems

open PumpControl PumpWatch

namespace PumpLedger

/-- A run of the chain failed or was stopped by an error, or the queue was cleared with one in it. -/
def Troubled (w : PumpLedger) (c : Nat) : Prop :=
  ∃ id, w.chainOf id = c ∧ (id ∈ w.watch.failed ∨ id ∈ w.broken ∨ id ∈ w.watch.cleared)

def starts (w : PumpLedger) (c : Nat) : Nat := w.watch.started.countP fun id => w.chainOf id == c

/-- One start for a run that waits, none for the one that is going on. -/
def pending (w : PumpLedger) (id : Nat) : Nat := if id ∈ w.watch.started then 0 else 1

def phase : IrrigationState → Nat
  | .CALIBRATION => 4
  | .IDLE => 3
  | .RUN => 2
  | .STOP => 1
  | .ERROR => 1

/-- The next run of the chain `c`, put with the entry `r`, is at place `p` of the queue. -/
structure Owes (w : PumpLedger) (c : Nat) (r : PutEntry) (p id : Nat) (e : PutEntry) : Prop where
  place : w.watch.waiting[p]? = some id
  entry : w.entries[id]? = some e
  chain : e.chain = c
  runs : w.starts c + w.pending id + e.element.repeatNum.toNat = r.element.repeatNum.toNat + 1
  near : w.moves + phase w.watch.pc.irrigationState + 3 * p + 12 * e.element.repeatNum.toNat ≤
    r.moves + 12 * (r.element.repeatNum.toNat + 1) + 1

structure Settled (w : PumpLedger) (c : Nat) (r : PutEntry) : Prop where
  runs : w.starts c = r.element.repeatNum.toNat + 1
  out : ∀ id ∈ w.watch.waiting, w.chainOf id ≠ c

structure Account (w : PumpLedger) : Prop where
  chain : ∀ id, w.chainOf id ≤ id
  first : ∀ (id : Nat) (e : PutEntry), w.entries[id]? = some e → e.last = none → e.chain = id
  distinct : ∀ id ∈ w.watch.waiting, ∀ id' ∈ w.watch.waiting, w.chainOf id = w.chainOf id' → id = id'
  owes : ∀ (c : Nat) (r : PutEntry), w.entries[c]? = some r → r.last = none → ¬ w.Troubled c →
    w.Settled c r ∨ ∃ p id e, w.Owes c r p id e

theorem account_init (pcf : PCF8574) (reportError : Bool) (now : UInt32) : (init pcf reportError now).Account where
  chain := fun id => Nat.le_refl id
  first := by
    intro id e he
    cases he
  distinct := by
    intro id hid
    cases hid
  owes := by
    intro c r hr
    cases hr

theorem troubled_step {w : PumpLedger} (hinv : w.Inv) (h : w.Order) {op : PumpOp} {c : Nat} (hc : w.Troubled c) :
    (w.step op).Troubled c := by
  obtain ⟨id, hchain, hid⟩ := hc
  have hlogged : w.watch.Logged id := by
    rcases hid with hid | hid | hid
    · exact Or.inr (Or.inl hid)
    · exact Or.inl (h.broken id hid)
    · exact Or.inr (Or.inr hid)
  refine ⟨id, ?_, ?_⟩
  · rw [chainOf_old hinv op (hinv.watch.below id (Or.inr hlogged))]
    exact hchain
  · rcases hid with hid | hid | hid
    · exact Or.inl (List.mem_append_left _ hid)
    · exact Or.inr (Or.inl (List.mem_append_left _ hid))
    · exact Or.inr (Or.inr (List.mem_append_left _ hid))

theorem chainOf_new {w : PumpLedger} (hinv : w.Inv) {op : PumpOp} {j : Nat}
    (hj : w.watch.puts + j < (w.step op).watch.puts) :
    (w.step op).chainOf (w.watch.puts + j) = w.watch.puts + j ∨
      (j = 0 ∧ ∃ k, w.watch.waiting.head? = some k ∧ (w.step op).chainOf (w.watch.puts + j) = w.chainOf k ∧
        k ∉ w.watch.waiting.drop (taken w.watch.pc op)) := by
  obtain ⟨e, he⟩ := (inv_step w op hinv).entry_of_lt hj
  rw [chainOf_entry he]
  rcases (new_entry hinv he).2.2 with ⟨-, hchain⟩ | ⟨rfl, io, head, rest, k, rfl, hstate, -, -, hk, -, hchain, -⟩
  · exact Or.inl hchain
  · right
    refine ⟨rfl, k, hk, hchain, ?_⟩
    obtain ⟨tail, hcons⟩ := List.head?_eq_some_iff.mp hk
    have hsorted := hinv.sorted
    rw [hcons] at hsorted
    rw [show taken w.watch.pc (.run io) = 1 by simp [taken, hstate], hcons, List.drop_one, List.tail_cons]
    intro hmem
    exact Nat.lt_irrefl k (List.rel_of_pairwise_cons hsorted hmem)

theorem account_distinct {w : PumpLedger} (hinv : w.Inv) (h : w.Account) (op : PumpOp) :
    ∀ id ∈ (w.step op).watch.waiting, ∀ id' ∈ (w.step op).watch.waiting,
      (w.step op).chainOf id = (w.step op).chainOf id' → id = id' := by
  -- A number that is put against one that was there.
  have hcross : ∀ id ∈ w.watch.waiting.drop (taken w.watch.pc op), ∀ j, w.watch.puts + j < (w.step op).watch.puts →
      (w.step op).chainOf id ≠ (w.step op).chainOf (w.watch.puts + j) := by
    intro id hid j hj hsame
    have hmem := List.mem_of_mem_drop hid
    have hlt := hinv.lt_puts hmem
    rw [chainOf_old hinv op hlt] at hsame
    have hle := h.chain id
    rcases chainOf_new hinv hj with hnew | ⟨-, k, hk, hnew, hout⟩
    · omega
    · rw [hnew] at hsame
      rw [h.distinct id hmem k (List.mem_of_mem_head? hk) hsame] at hid
      exact hout hid
  intro id hid id' hid' hsame
  rcases (mem_waiting_step hinv).mp hid with hold | ⟨hge, hlt⟩
  · rcases (mem_waiting_step hinv).mp hid' with hold' | ⟨hge', hlt'⟩
    · have hmem := List.mem_of_mem_drop hold
      have hmem' := List.mem_of_mem_drop hold'
      rw [chainOf_old hinv op (hinv.lt_puts hmem), chainOf_old hinv op (hinv.lt_puts hmem')] at hsame
      exact h.distinct id hmem id' hmem' hsame
    · obtain ⟨j, rfl⟩ := Nat.exists_eq_add_of_le hge'
      exact absurd hsame (hcross id hold j hlt')
  · obtain ⟨j, rfl⟩ := Nat.exists_eq_add_of_le hge
    rcases (mem_waiting_step hinv).mp hid' with hold' | ⟨hge', hlt'⟩
    · exact absurd hsame.symm (hcross id' hold' j hlt)
    · obtain ⟨j', rfl⟩ := Nat.exists_eq_add_of_le hge'
      have hchain : ∀ k, w.watch.waiting.head? = some k → w.chainOf k < w.watch.puts := fun k hk =>
        Nat.lt_of_le_of_lt (h.chain k) (hinv.lt_puts (List.mem_of_mem_head? hk))
      rcases chainOf_new hinv hlt with hnew | ⟨hj, k, hk, hnew, -⟩
      · rcases chainOf_new hinv hlt' with hnew' | ⟨hj', k', hk', hnew', -⟩
        · omega
        · have hlow := hchain k' hk'
          omega
      · rcases chainOf_new hinv hlt' with hnew' | ⟨hj', k', hk', hnew', -⟩
        · have hlow := hchain k hk
          omega
        · omega

/-! ## One step -/

theorem again_toNat {e : IrrigationQueueElement} (h : 0 < e.repeatNum) :
    e.again.repeatNum.toNat + 1 = e.repeatNum.toNat := by
  have hone : (1 : UInt8) ≤ e.repeatNum := UInt8.le_iff_toNat_le.mpr (UInt8.lt_iff_toNat_lt.mp h)
  show (e.repeatNum - 1).toNat + 1 = _
  rw [UInt8.toNat_sub_of_le _ _ hone]
  exact Nat.sub_add_cancel (UInt8.lt_iff_toNat_lt.mp h)

theorem starts_step {w : PumpLedger} (hinv : w.Inv) (op : PumpOp) (c : Nat) :
    (w.step op).starts c =
      w.starts c + (w.watch.startedBy (w.watch.pc.step op)).countP fun id => w.chainOf id == c := by
  have hsame : ∀ ids : List Nat, (∀ id ∈ ids, id < w.watch.puts) →
      (ids.countP fun id => (w.step op).chainOf id == c) = ids.countP fun id => w.chainOf id == c := by
    intro ids hids
    apply List.countP_congr
    intro id hid
    rw [chainOf_old hinv op (hids id hid)]
  show (w.watch.started ++ w.watch.startedBy (w.watch.pc.step op)).countP (fun id => (w.step op).chainOf id == c) =
    _
  rw [List.countP_append, hsame, hsame]
  · rfl
  · intro id hid
    unfold startedBy at hid
    split at hid
    · exact hinv.lt_puts (List.mem_of_mem_take hid)
    · cases hid
  · intro id hid
    exact hinv.watch.below id (Or.inr (Or.inl hid))

theorem run_calibrated {pc : PumpControl} (io : PumpIo) (hstate : pc.irrigationState = .CALIBRATION)
    (helapsed : Time.hasElapsed io.now pc.eventTimer (Time.secToMs 5) = true) :
    (pc.run io).2.irrigationState = .IDLE := by
  simp only [run]
  rw [show (pc.sense io).irrigationState = .CALIBRATION from hstate]
  rw [handleCalibration, if_pos (show Time.hasElapsed io.now (pc.sense io).eventTimer _ = true from helapsed)]

/-- While something is in the queue, a step that goes on with it brings the oldest irrigation closer to its end. -/
theorem phase_step {w : PumpLedger} (hinv : w.Inv) {op : PumpOp} (hskip : ∀ now, op ≠ .skipAllIrrigations now)
    (hsome : w.watch.waiting ≠ []) :
    (w.step op).moves + phase (w.step op).watch.pc.irrigationState ≤
      w.moves + phase w.watch.pc.irrigationState + 3 * taken w.watch.pc op := by
  obtain ⟨head, rest, hqueue⟩ : ∃ head rest, w.watch.pc.irrigationQueue.items = head :: rest := by
    apply List.exists_cons_of_ne_nil
    intro hnil
    exact hsome (hinv.watch.nil_iff.mpr hnil)
  show w.moves + (advances w.watch.pc op).toNat + phase (w.watch.pc.step op).irrigationState ≤ _
  cases op with
  | run io =>
    simp only [PumpControl.step, advances, taken]
    cases hstate : w.watch.pc.irrigationState with
    | IDLE =>
      rcases (run_idle_start io hstate hqueue).2 with ⟨hnext, -⟩ | ⟨hnext, -⟩
      · rw [hnext]
        simp [phase, Fifo.isEmpty, hqueue]
      · rw [hnext]
        simp [phase, Fifo.isEmpty, hqueue]
    | RUN =>
      cases hended : (w.watch.pc.sense io).ended io with
      | true =>
        rw [(run_timer io hstate).2 hended]
        simp [phase]
      | false =>
        rcases (run_run io hstate).2.2 with hnext | hnext | hnext
        all_goals
          rw [hnext]
          simp [phase]
    | STOP =>
      rw [(run_stop io hstate hqueue).2.1]
      simp [phase]
    | ERROR =>
      rw [(run_error io hstate).2.1]
      simp [phase]
    | CALIBRATION =>
      cases helapsed : Time.hasElapsed io.now w.watch.pc.eventTimer (Time.secToMs 5) with
      | true =>
        rw [run_calibrated io hstate helapsed]
        simp [phase]
      | false =>
        rcases (run_calibration io hstate).2.2 with hnext | hnext
        all_goals
          rw [hnext]
          simp [phase]
  | createIrrigation element =>
    rw [show (w.watch.pc.step (.createIrrigation element)).irrigationState = w.watch.pc.irrigationState from
      (w.watch.pc.createIrrigation_puts element).state]
    simp [advances, taken]
  | addSafetyIrrigation time channel duration checkFlow checkCurrent pwmValue repeatNum now =>
    simp [advances, taken, PumpControl.step, addSafetyIrrigation]
  | addLimitSwitch channel limitSwitch => simp [advances, taken, PumpControl.step, addLimitSwitch]
  | skipActualIrrigation now =>
    have hsame : (w.watch.pc.skipActualIrrigation now).irrigationState = w.watch.pc.irrigationState := by
      unfold skipActualIrrigation
      split <;> rfl
    simp [advances, taken, PumpControl.step, hsame]
  | skipAllIrrigations now => exact absurd rfl (hskip now)

theorem not_cleared {w : PumpLedger} (hinv : w.Inv) {op : PumpOp} {c : Nat} (hc : ¬ (w.step op).Troubled c)
    {id : Nat}
    (hid : id ∈ w.watch.waiting) (hchain : w.chainOf id = c) : ∀ now, op ≠ .skipAllIrrigations now := by
  rintro now rfl
  refine hc ⟨id, ?_, Or.inr (Or.inr (List.mem_append_right _ hid))⟩
  rw [chainOf_old hinv _ (hinv.lt_puts hid)]
  exact hchain

theorem runs_step {w : PumpLedger} (hinv : w.Inv) (h : w.Account) (op : PumpOp) {c id : Nat}
    (hid : id ∈ w.watch.waiting)
    (hchain : w.chainOf id = c) : (w.step op).starts c + (w.step op).pending id = w.starts c + w.pending id := by
  rw [starts_step hinv]
  have hpending : (w.step op).pending id =
      if id ∈ w.watch.started ∨ id ∈ w.watch.startedBy (w.watch.pc.step op) then 0 else 1 := by
    unfold pending
    congr 1
    exact propext List.mem_append
  rw [hpending]
  unfold pending
  rcases served_cases hinv.watch op with ⟨hstarted, -⟩ | ⟨io, k, rest, rfl, hidle, hwaiting, hnote⟩
  · simp [hstarted]
  rcases hnote with ⟨hstarted, -⟩ | ⟨hstarted, -⟩
  swap
  · simp [hstarted]
  have hhead := head_of_cons hwaiting
  have hfresh : k ∉ w.watch.started := fun hin => hinv.watch.idle (Or.inl hidle) k hhead (Or.inl hin)
  rw [hstarted]
  by_cases hk : id = k
  · subst hk
    simp [hfresh, hchain]
  · have hne : w.chainOf k ≠ c := by
      intro hsame
      exact hk (h.distinct id hid k (List.mem_of_mem_head? hhead) (hchain.trans hsame.symm))
    simp [hk, hne]

/-- The next run of a chain stays in the queue, further in front, unless it is taken off it. -/
theorem owes_kept {w : PumpLedger} (hinv : w.Inv) (h : w.Account) {op : PumpOp} {c p id : Nat} {r e : PutEntry}
    (howes : w.Owes c r p id e) (hc : ¬ (w.step op).Troubled c) (hp : taken w.watch.pc op ≤ p) :
    (w.step op).Owes c r (p - taken w.watch.pc op) id e := by
  have hmem := List.mem_of_getElem? howes.place
  have hchain : w.chainOf id = c := (chainOf_entry howes.entry).trans howes.chain
  have hskip := not_cleared hinv hc hmem hchain
  constructor
  case place =>
    show (w.watch.step op).waiting[_]? = _
    rw [(step_numbers hinv.watch op).1, List.getElem?_append_left, List.getElem?_drop, Nat.add_sub_cancel' hp]
    · exact howes.place
    · have hlt := (List.getElem?_eq_some_iff.mp howes.place).1
      rw [List.length_drop]
      omega
  case entry =>
    rw [entry_old hinv op (hinv.lt_puts hmem)]
    exact howes.entry
  case chain => exact howes.chain
  case runs =>
    rw [runs_step hinv h op hmem hchain]
    exact howes.runs
  case near =>
    have hnear := howes.near
    have hphase := phase_step hinv hskip (List.ne_nil_of_mem hmem)
    omega

/-- The next run of a chain is taken off the queue: the chain has all its runs, or the repeat takes the place. -/
theorem owes_popped {w : PumpLedger} (hinv : w.Inv) (horder : w.Order) (h : w.Account) {op : PumpOp}
    (hop : w.NoStray op)
    {c p id : Nat} {r e : PutEntry} (howes : w.Owes c r p id e) (hc : ¬ (w.step op).Troubled c)
    (hp : p < taken w.watch.pc op) :
    (w.step op).Settled c r ∨ ∃ p id e, (w.step op).Owes c r p id e := by
  have hmem := List.mem_of_getElem? howes.place
  have hchain : w.chainOf id = c := (chainOf_entry howes.entry).trans howes.chain
  have hskip := not_cleared hinv hc hmem hchain
  obtain ⟨io, rfl, hstate⟩ : ∃ io, op = .run io ∧
    (w.watch.pc.irrigationState = .STOP ∨ w.watch.pc.irrigationState = .ERROR) := by
    cases op with
    | run io =>
      refine ⟨io, rfl, ?_⟩
      by_contra hno
      rw [taken, if_neg hno] at hp
      exact Nat.not_lt_zero p hp
    | skipAllIrrigations now => exact absurd rfl (hskip now)
    | createIrrigation element => exact absurd hp (Nat.not_lt_zero p)
    | addSafetyIrrigation time channel duration checkFlow checkCurrent pwmValue repeatNum now =>
      exact absurd hp (Nat.not_lt_zero p)
    | addLimitSwitch channel limitSwitch => exact absurd hp (Nat.not_lt_zero p)
    | skipActualIrrigation now => exact absurd hp (Nat.not_lt_zero p)
  have htaken : taken w.watch.pc (.run io) = 1 := if_pos hstate
  obtain rfl : p = 0 := by omega
  have hhead : w.watch.waiting.head? = some id := by
    rw [List.head?_eq_getElem?]
    exact howes.place
  rcases hstate with hstate | hstate
  swap
  · exfalso
    refine hc (troubled_step hinv horder ⟨id, hchain, ?_⟩)
    rcases horder.error hstate hop id hhead with hfailed | hbroken
    · exact Or.inl hfailed
    · exact Or.inr (Or.inl hbroken)
  -- The run that is over was started.
  have hstarted : id ∈ w.watch.started := by
    obtain ⟨k, hk, hlast⟩ := hinv.watch.running (Or.inr hstate)
    obtain rfl : k = id := Option.some.inj (hk.symm.trans hhead)
    exact List.mem_of_getLast? hlast
  obtain ⟨head, rest, hqueue, -⟩ := hinv.watch.output.running (Or.inr hstate)
  have helement := hinv.head_element hhead howes.entry hqueue
  have hquiet : w.watch.startedBy (w.watch.pc.step (.run io)) = [] := by simp [startedBy, hstate]
  have hstarts : (w.step (.run io)).starts c = w.starts c := by
    rw [starts_step hinv, hquiet, List.countP_nil, Nat.add_zero]
  have hruns := howes.runs
  rw [show w.pending id = 0 from if_pos hstarted, helement] at hruns
  obtain ⟨tail, hcons⟩ := List.head?_eq_some_iff.mp hhead
  have hwaiting : (w.step (.run io)).watch.waiting =
      tail ++ List.range' w.watch.puts (w.watch.pc.putsOf (.run io)).length := by
    show (w.watch.step (.run io)).waiting = _
    rw [(step_numbers hinv.watch _).1, htaken, hcons, List.drop_one, List.tail_cons]
  by_cases hrepeat : 0 < head.repeatNum
  · right
    have hputs : (w.watch.pc.putsOf (.run io))[0]? = some ⟨head.again, .again⟩ := by
      simp only [putsOf, hstate, stopPuts, hqueue]
      rw [if_pos hrepeat]
      rfl
    have hlt : 0 < (w.watch.pc.putsOf (.run io)).length := (List.getElem?_eq_some_iff.mp hputs).1
    have hentry := entry_new hinv (.run io) 0
    rw [hputs, Nat.add_zero, Option.map_some] at hentry
    have hbounded := w.watch.pc.irrigationQueue.bounded
    rw [← hinv.watch.length, hcons, List.length_cons] at hbounded
    have hless : head.again.repeatNum.toNat + 1 = head.repeatNum.toNat := again_toNat hrepeat
    refine ⟨tail.length, w.watch.puts, _, ?_, hentry, ?_, ?_, ?_⟩
    · rw [hwaiting, List.getElem?_append_right (Nat.le_refl _), Nat.sub_self, List.getElem?_range' hlt]
      simp
    · simp [entryOf, hhead, hchain]
    · have hpending : (w.step (.run io)).pending w.watch.puts = 1 := by
        refine if_neg ?_
        intro hin
        exact fresh_step hinv.watch hskip (Or.inr (Nat.le_refl _)) (Or.inl hin)
      rw [hpending, hstarts]
      show w.starts c + 1 + head.again.repeatNum.toNat = _
      omega
    · have hnear := howes.near
      rw [hstate, helement] at hnear
      have hmoves : (w.step (.run io)).moves = w.moves + 1 := by
        show w.moves + (advances w.watch.pc (.run io)).toNat = _
        simp [advances, hstate]
      rw [hmoves, show (w.step (.run io)).watch.pc.irrigationState = .IDLE from (run_stop io hstate hqueue).2.1]
      show w.moves + 1 + phase .IDLE + 3 * tail.length + 12 * head.again.repeatNum.toNat ≤ _
      simp only [phase] at hnear ⊢
      omega
  · left
    have hzero : head.repeatNum.toNat = 0 := Nat.le_zero.mp (Nat.not_lt.mp hrepeat)
    have hputs : w.watch.pc.putsOf (.run io) = [] := by
      simp only [putsOf, hstate, stopPuts, hqueue]
      exact if_neg hrepeat
    rw [hputs, List.length_nil, List.range'_zero, List.append_nil] at hwaiting
    constructor
    case runs => omega
    case out =>
      rw [hwaiting]
      intro id' hid' hsame
      have hmem' : id' ∈ w.watch.waiting := by
        rw [hcons]
        exact List.mem_cons_of_mem _ hid'
      rw [chainOf_old hinv _ (hinv.lt_puts hmem')] at hsame
      have heq := h.distinct id' hmem' id hmem (hsame.trans hchain.symm)
      have hsorted := hinv.sorted
      rw [hcons] at hsorted
      exact absurd (List.rel_of_pairwise_cons hsorted hid') (by omega)

theorem settled_step {w : PumpLedger} (hinv : w.Inv) (op : PumpOp) {c : Nat} (hlt : c < w.watch.puts)
    {r : PutEntry} (hsettled : w.Settled c r) : (w.step op).Settled c r := by
  have hstarted : ∀ id ∈ w.watch.startedBy (w.watch.pc.step op), w.chainOf id ≠ c := by
    intro id hid
    unfold startedBy at hid
    split at hid
    · exact hsettled.out id (List.mem_of_mem_take hid)
    · cases hid
  constructor
  case runs =>
    rw [starts_step hinv, List.countP_eq_zero.mpr (by simpa using hstarted), Nat.add_zero]
    exact hsettled.runs
  case out =>
    intro id hid
    rcases (mem_waiting_step hinv).mp hid with hold | ⟨hge, hlt'⟩
    · have hmem := List.mem_of_mem_drop hold
      rw [chainOf_old hinv op (hinv.lt_puts hmem)]
      exact hsettled.out id hmem
    · obtain ⟨j, rfl⟩ := Nat.exists_eq_add_of_le hge
      rcases chainOf_new hinv hlt' with hnew | ⟨-, k, hk, hnew, -⟩
      · omega
      · rw [hnew]
        exact hsettled.out k (List.mem_of_mem_head? hk)

theorem owes_new {w : PumpLedger} (hinv : w.Inv) (h : w.Account) {op : PumpOp} {j : Nat} {r : PutEntry}
    (hr : (w.step op).entries[w.watch.puts + j]? = some r) (hlast : r.last = none) :
    ∃ p id e, (w.step op).Owes (w.watch.puts + j) r p id e := by
  have hinv' := inv_step w op hinv
  have hlt := hinv'.lt_of_entry hr
  obtain ⟨-, hmoves, hchain⟩ := new_entry hinv hr
  have hchain : r.chain = w.watch.puts + j := by
    rcases hchain with ⟨-, hchain⟩ | ⟨-, io, head, rest, k, -, -, -, -, -, hsome, -⟩
    · exact hchain
    · rw [hsome] at hlast
      cases hlast
  have hskip : ∀ now, op ≠ .skipAllIrrigations now := by
    rintro now rfl
    have hputs : (w.step (.skipAllIrrigations now)).watch.puts = w.watch.puts := (step_numbers hinv.watch _).2
    omega
  have hmem : w.watch.puts + j ∈ (w.step op).watch.waiting :=
    (mem_waiting_step hinv).mpr (Or.inr ⟨Nat.le_add_right _ _, hlt⟩)
  obtain ⟨p, hp, hplace⟩ := List.getElem_of_mem hmem
  have hstarts : (w.step op).starts (w.watch.puts + j) = 0 := by
    unfold starts
    rw [List.countP_eq_zero]
    intro id hid
    have hold : id < w.watch.puts := by
      rcases List.mem_append.mp hid with hid | hid
      · exact hinv.watch.below id (Or.inr (Or.inl hid))
      · unfold startedBy at hid
        split at hid
        · exact hinv.lt_puts (List.mem_of_mem_take hid)
        · cases hid
    have hle := h.chain id
    rw [chainOf_old hinv op hold, beq_iff_eq]
    omega
  have hpending : (w.step op).pending (w.watch.puts + j) = 1 :=
    if_neg fun hin => fresh_step hinv.watch hskip (Or.inr (Nat.le_add_right _ _)) (Or.inl hin)
  refine ⟨p, w.watch.puts + j, r, ?_, hr, hchain, ?_, ?_⟩
  · rw [List.getElem?_eq_getElem hp, hplace]
  · rw [hstarts, hpending]
    omega
  · have hbounded := (w.step op).watch.pc.irrigationQueue.bounded
    rw [← hinv'.watch.length] at hbounded
    have hphase : phase (w.step op).watch.pc.irrigationState ≤ 4 := by
      cases (w.step op).watch.pc.irrigationState <;> decide
    omega

theorem account_step (w : PumpLedger) (op : PumpOp) (h : (w.Inv ∧ w.Order) ∧ w.Account) (hop : w.NoStray op) :
    ((w.step op).Inv ∧ (w.step op).Order) ∧ (w.step op).Account := by
  obtain ⟨⟨hinv, horder⟩, h⟩ := h
  refine ⟨order_step w op ⟨hinv, horder⟩ hop, ?_⟩
  constructor
  case chain =>
    intro id
    by_cases hid : id < w.watch.puts
    · rw [chainOf_old hinv op hid]
      exact h.chain id
    obtain ⟨j, rfl⟩ := Nat.exists_eq_add_of_le (Nat.le_of_not_lt hid)
    by_cases hlt : w.watch.puts + j < (w.step op).watch.puts
    · rcases chainOf_new hinv hlt with hnew | ⟨-, k, hk, hnew, -⟩
      · exact Nat.le_of_eq hnew
      · have hle := h.chain k
        have hk' := hinv.lt_puts (List.mem_of_mem_head? hk)
        omega
    · unfold chainOf
      rw [List.getElem?_eq_none (by rw [(inv_step w op hinv).entries]; omega)]
  case first =>
    intro id e he hlast
    by_cases hid : id < w.watch.puts
    · rw [entry_old hinv op hid] at he
      exact h.first id e he hlast
    obtain ⟨j, rfl⟩ := Nat.exists_eq_add_of_le (Nat.le_of_not_lt hid)
    rcases (new_entry hinv he).2.2 with ⟨-, hchain⟩ | ⟨-, io, head, rest, k, -, -, -, -, -, hsome, -⟩
    · exact hchain
    · rw [hsome] at hlast
      cases hlast
  case distinct => exact account_distinct hinv h op
  case owes =>
    intro c r hr hlast hc
    by_cases hlt : c < w.watch.puts
    · rw [entry_old hinv op hlt] at hr
      rcases h.owes c r hr hlast (fun hold => hc (troubled_step hinv horder hold)) with hsettled | ⟨p, id, e, howes⟩
      · exact Or.inl (settled_step hinv op hlt hsettled)
      · rcases Nat.lt_or_ge p (taken w.watch.pc op) with hp | hp
        · exact owes_popped hinv horder h hop howes hc hp
        · exact Or.inr ⟨_, id, e, owes_kept hinv h howes hc hp⟩
    · obtain ⟨j, rfl⟩ := Nat.exists_eq_add_of_le (Nat.le_of_not_lt hlt)
      exact Or.inr (owes_new hinv h hr hlast)

/-! ## Every run -/

theorem Account.exact {w : PumpLedger} (h : w.Account) {c : Nat} {r : PutEntry} (hr : w.entries[c]? = some r)
    (hlast : r.last = none) (hc : ¬ w.Troubled c) :
    w.starts c ≤ r.element.repeatNum.toNat + 1 ∧
      ((∀ id ∈ w.watch.waiting, w.chainOf id ≠ c) → w.starts c = r.element.repeatNum.toNat + 1) ∧
      (r.moves + (12 * (r.element.repeatNum.toNat + 1) + 1) ≤ w.moves → w.starts c = r.element.repeatNum.toNat +
        1) := by
  rcases h.owes c r hr hlast hc with hsettled | ⟨p, id, e, howes⟩
  · exact ⟨Nat.le_of_eq hsettled.runs, fun _ => hsettled.runs, fun _ => hsettled.runs⟩
  have hruns := howes.runs
  have hnear := howes.near
  have hphase : 0 < phase w.watch.pc.irrigationState := by
    cases w.watch.pc.irrigationState <;> decide
  refine ⟨by omega, ?_, ?_⟩
  · intro hout
    have hchain : w.chainOf id = c := (chainOf_entry howes.entry).trans howes.chain
    exact absurd hchain (hout id (List.mem_of_getElem? howes.place))
  · intro hmoves
    omega

/-- Whatever is put meanwhile, an irrigation that was put with `r` repeats, and nothing goes wrong with, is
started `r + 1` times, before it is out of the queue and within `12 * (r + 1) + 1` passes that go on with the
queue; and each start comes after everything that was in the queue when that run was put, which comes after the
run that it repeats. -/
theorem repeats_run (pcf : PCF8574) (reportError : Bool) (now : UInt32) (es : List PumpOp)
    (h : Machine.Meets step NoStray (init pcf reportError now) es) :
    let w := Machine.run step (init pcf reportError now) es
    w.Entered ∧
    (∀ (c : Nat) (r : PutEntry), w.entries[c]? = some r → r.last = none → ¬ w.Troubled c →
      w.starts c ≤ r.element.repeatNum.toNat + 1 ∧
      ((∀ id ∈ w.watch.waiting, w.chainOf id ≠ c) → w.starts c = r.element.repeatNum.toNat + 1) ∧
      (r.moves + (12 * (r.element.repeatNum.toNat + 1) + 1) ≤ w.moves → w.starts c = r.element.repeatNum.toNat +
        1)) ∧
    (∀ (id : Nat) (e : PutEntry), w.entries[id]? = some e → id ∈ w.watch.started →
      (e.last.toList ++ e.ahead ++ [id]).Sublist w.served) := by
  intro w
  have hstart := And.intro (And.intro (inv_init pcf reportError now) (order_init pcf reportError now))
    (account_init pcf reportError now)
  obtain ⟨⟨hinv, horder⟩, haccount⟩ := Machine.run_inv account_step hstart h
  refine ⟨hinv.elements, fun c r hr hlast hc => haccount.exact hr hlast hc, ?_⟩
  intro id e he hid
  exact horder.ahead_served ((horder.served id).mpr (Or.inl hid)) he

instance (w : PumpLedger) : ∀ op, Decidable (w.NoStray op)
  | .run _ => inferInstanceAs (Decidable (w.watch.stray = false))
  | .createIrrigation _ => isTrue trivial
  | .addSafetyIrrigation _ _ _ _ _ _ _ _ => isTrue trivial
  | .addLimitSwitch _ _ => isTrue trivial
  | .skipActualIrrigation _ => isTrue trivial
  | .skipAllIrrigations _ => isTrue trivial

/-- One minute of channel 0, and once more, with one of channel 1 put in while it runs for the first time. -/
def onceMore : List PumpOp :=
  [.run (.at 5001 0), .createIrrigation (.ofFields 0 1 false false 255 1), .run (.at 5002 0),
    .createIrrigation (.ofFields 1 1 false false 255 0), .run (.at 65003 0), .run (.at 65004 0), .run (.at 65005 0),
    .run (.at 125006 0), .run (.at 125007 0), .run (.at 125008 0), .run (.at 185009 0), .run (.at 185010 0)]

theorem repeats_run_once_more :
    (Machine.run step (init (.init true) true 0) onceMore).starts 0 = 2 ∧
      [0, 1, 2].Sublist (Machine.run step (init (.init true) true 0) onceMore).served := by
  have hrun := repeats_run (.init true) true 0 onceMore (by decide +kernel)
  refine ⟨?_, hrun.2.2 2 ⟨⟨.ofFields 0 1 false false 255 0, .again⟩, [1], some 0, 0, 4⟩ (by decide +kernel)
    (by decide +kernel)⟩
  have hcalm : ¬ (Machine.run step (init (.init true) true 0) onceMore).Troubled 0 := by
    rintro ⟨id, -, hfailed | hbroken | hcleared⟩
    · revert hfailed
      rw [show (Machine.run step (init (.init true) true 0) onceMore).watch.failed = [] by decide +kernel]
      exact List.not_mem_nil
    · revert hbroken
      rw [show (Machine.run step (init (.init true) true 0) onceMore).broken = [] by decide +kernel]
      exact List.not_mem_nil
    · revert hcleared
      rw [show (Machine.run step (init (.init true) true 0) onceMore).watch.cleared = [] by decide +kernel]
      exact List.not_mem_nil
  refine (hrun.2.1 0 ⟨⟨.ofFields 0 1 false false 255 1, .asked⟩, [], none, 0, 1⟩ (by decide +kernel) rfl hcalm).2.1
    ?_
  rw [show (Machine.run step (init (.init true) true 0) onceMore).watch.waiting = [] by decide +kernel]
  intro id hid
  cases hid

/-- An irrigation that is put between a stop and the next pass is gone, and was never started. -/
theorem never_started :
    ¬ ∀ (pcf : PCF8574) (reportError : Bool) (now : UInt32) (es : List PumpOp) (c : Nat) (r : PutEntry),
      let w := Machine.run step (init pcf reportError now) es
      w.entries[c]? = some r → r.last = none → ¬ w.Troubled c → (∀ id ∈ w.watch.waiting, w.chainOf id ≠ c) →
        w.starts c = r.element.repeatNum.toNat + 1 := by
  intro hclaim
  have hcalm : ¬ (Machine.run step (init (.init true) true 0) stopThenAdd).Troubled 0 := by
    rintro ⟨id, -, hfailed | hbroken | hcleared⟩
    · revert hfailed
      rw [show (Machine.run step (init (.init true) true 0) stopThenAdd).watch.failed = [] by decide +kernel]
      exact List.not_mem_nil
    · revert hbroken
      rw [show (Machine.run step (init (.init true) true 0) stopThenAdd).broken = [] by decide +kernel]
      exact List.not_mem_nil
    · revert hcleared
      rw [show (Machine.run step (init (.init true) true 0) stopThenAdd).watch.cleared = [] by decide +kernel]
      exact List.not_mem_nil
  have hstarted := hclaim (.init true) true 0 stopThenAdd 0 ⟨⟨⟨4, 255, 0⟩, .asked⟩, [], none, 0, 1⟩
    (by decide +kernel) rfl
    hcalm (by
      rw [show (Machine.run step (init (.init true) true 0) stopThenAdd).watch.waiting = [] by decide +kernel]
      intro id hid
      cases hid)
  rw [show (Machine.run step (init (.init true) true 0) stopThenAdd).starts 0 = 0 by decide +kernel] at hstarted
  cases hstarted

end PumpLedger

end CanSystems
