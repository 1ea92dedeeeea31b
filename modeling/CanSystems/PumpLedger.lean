import CanSystems.PumpWatch
import CanSystems.PumpSafety

/-!
# What is put, and why

The observer of `PumpWatch` numbers the puts. A ledger goes along with it and
enters each of them: the element, whether it was asked for, is a repeat, or comes
from a safety timer, what stood in front of it, and which irrigation it repeats.
The queue holds the entered elements in the order of their numbers.
-/

namespace CanSystems

inductive PutCause
  | asked | again | safety (channel : Fin 4)
  deriving DecidableEq, Repr

structure QueuePut where
  element : IrrigationQueueElement
  cause : PutCause
  deriving DecidableEq, Repr

def IrrigationQueueElement.again (e : IrrigationQueueElement) : IrrigationQueueElement :=
  { e with repeatNum := e.repeatNum - 1 }

namespace PumpControl

/-! ## The puts of a call -/

def safetyPuts (safety : Vector SafetyIrrigationElement 4) (clock : Vector UInt32 4) (room : Nat) : List QueuePut :=
  ((dueChannels safety clock).take room).map fun i => ⟨safetyOf safety i, .safety i⟩

/-- The repeat takes the place that its own run leaves, and what is due the places after it. -/
def stopPuts (pc : PumpControl) (io : PumpIo) : List QueuePut :=
  match pc.irrigationQueue.items with
  | [] => []
  | e :: rest =>
    if e.repeatNum > 0 then ⟨e.again, .again⟩ :: safetyPuts pc.safetyIrrigation io.safetyClock
      (3 - rest.length) else []

def putsOf (pc : PumpControl) : PumpOp → List QueuePut
  | .run io =>
    match pc.irrigationState with
    | .IDLE => if pc.irrigationQueue.isEmpty then safetyPuts pc.safetyIrrigation io.safetyClock 4 else []
    | .STOP => pc.stopPuts io
    | _ => []
  | .createIrrigation element => if pc.irrigationQueue.isFull then [] else [⟨element, .asked⟩]
  | _ => []

theorem safetyPuts_elements (safety : Vector SafetyIrrigationElement 4) (clock : Vector UInt32 4) (room : Nat) :
    (safetyPuts safety clock room).map QueuePut.element = ((dueChannels safety clock).take room).map
    (safetyOf safety) := by
  simp [safetyPuts, Function.comp_def]

theorem mem_safetyPuts {safety : Vector SafetyIrrigationElement 4} {clock : Vector UInt32 4} {room : Nat}
    {p : QueuePut}
    (h : p ∈ safetyPuts safety clock room) :
    ∃ i ∈ (dueChannels safety clock).take room, p.element = safetyOf safety i ∧ p.cause = .safety i := by
  obtain ⟨i, hi, rfl⟩ := List.mem_map.mp h
  exact ⟨i, hi, rfl, rfl⟩

/-- A repeat is put by the pass that takes its last run off the queue, before anything else. -/
theorem putsOf_again {pc : PumpControl} {op : PumpOp} {j : Nat} {put : QueuePut} (h : (pc.putsOf op)[j]? = some put)
    (hcause : put.cause = .again) :
    j = 0 ∧ ∃ io head rest, op = .run io ∧ pc.irrigationState = .STOP ∧ pc.irrigationQueue.items = head :: rest ∧
      0 < head.repeatNum ∧ put = ⟨head.again, .again⟩ := by
  have hsafety : ∀ clock room, put ∉ safetyPuts pc.safetyIrrigation clock room := by
    intro clock room hmem
    obtain ⟨i, -, -, hi⟩ := mem_safetyPuts hmem
    rw [hi] at hcause
    cases hcause
  have hmem := List.mem_of_getElem? h
  cases op with
  | run io =>
    simp only [putsOf] at h hmem
    cases hstate : pc.irrigationState with
    | IDLE =>
      simp only [hstate] at hmem
      split at hmem
      · exact absurd hmem (hsafety _ _)
      · cases hmem
    | STOP =>
      simp only [hstate, stopPuts] at h
      split at h
      · cases h
      rename_i head rest hqueue
      split at h
      · rename_i hrepeat
        cases j with
        | zero => exact ⟨rfl, io, head, rest, rfl, rfl, hqueue, hrepeat, (Option.some.inj h).symm⟩
        | succ j => exact absurd (List.mem_of_getElem? (by simpa using h)) (hsafety _ _)
      · cases h
    | RUN =>
      simp only [hstate] at hmem
      cases hmem
    | ERROR =>
      simp only [hstate] at hmem
      cases hmem
    | CALIBRATION =>
      simp only [hstate] at hmem
      cases hmem
  | createIrrigation element =>
    simp only [putsOf] at hmem
    split at hmem
    · cases hmem
    · obtain rfl := List.mem_singleton.mp hmem
      cases hcause
  | addSafetyIrrigation time channel duration checkFlow checkCurrent pwmValue repeatNum now => cases hmem
  | addLimitSwitch channel limitSwitch => cases hmem
  | skipActualIrrigation now => cases hmem
  | skipAllIrrigations now => cases hmem

theorem run_stop_items {pc : PumpControl} (io : PumpIo) {e : IrrigationQueueElement}
    {rest : List IrrigationQueueElement}
    (hstate : pc.irrigationState = .STOP) (hqueue : pc.irrigationQueue.items = e :: rest) :
    (pc.run io).2.irrigationQueue.items = rest ++ (pc.stopPuts io).map QueuePut.element := by
  have hpeek : (pc.sense io).irrigationQueue.peek = e := Fifo.peek_cons hqueue
  have hrun : (pc.run io).2 = (pc.sense io).handleStop io := by
    simp only [run]
    rw [show (pc.sense io).irrigationState = .STOP from hstate]
  have hbounded := pc.irrigationQueue.bounded
  rw [hqueue, List.length_cons] at hbounded
  rw [hrun]
  unfold handleStop
  simp only [Fifo.pop, hpeek]
  generalize hleft : { pc.sense io with irrigationQueue := (pc.sense io).irrigationQueue.rest } = left
  have hitems : left.irrigationQueue.items = rest := by
    rw [← hleft]
    show pc.irrigationQueue.items.tail = rest
    rw [hqueue, List.tail_cons]
  have hsafety : left.safetyIrrigation = pc.safetyIrrigation := by
    rw [← hleft]
    rfl
  show (left.requeue io e).irrigationQueue.items = _
  unfold requeue stopPuts
  rw [hqueue]
  simp only
  split
  · -- The place of the run that ended is free.
    have hput := left.createIrrigation_items e.again
    rw [hitems, List.take_of_length_le (by rw [List.length_singleton]; omega)] at hput
    rw [checkSafetyIrrigations_items]
    show (left.createIrrigation e.again).irrigationQueue.items ++ _ = _
    rw [show left.createIrrigation { e with repeatNum := e.repeatNum - 1 } = left.createIrrigation e.again from rfl,
      createIrrigation_safety, hsafety, hput, List.length_append, List.length_singleton, List.map_cons,
      safetyPuts_elements, List.append_assoc, List.singleton_append,
      show 4 - (rest.length + 1) = 3 - rest.length by omega]
  · rw [hitems, List.map_nil, List.append_nil]

theorem createIrrigation_puts_items (pc : PumpControl) (e : IrrigationQueueElement) :
    (pc.createIrrigation e).irrigationQueue.items =
      pc.irrigationQueue.items ++ (pc.putsOf (.createIrrigation e)).map QueuePut.element := by
  rw [createIrrigation_items]
  unfold putsOf
  have hbounded := pc.irrigationQueue.bounded
  by_cases hfull : pc.irrigationQueue.isFull = true
  · have hlen : pc.irrigationQueue.items.length = 4 := by simpa [Fifo.isFull] using hfull
    simp [hfull, hlen]
  · have hlen : pc.irrigationQueue.items.length ≠ 4 := by simpa [Fifo.isFull] using hfull
    rw [List.take_of_length_le (by rw [List.length_singleton]; omega)]
    simp [hfull]

end PumpControl

open PumpControl PumpWatch

theorem step_puts {pc : PumpControl} (h : pc.Output) (op : PumpOp) :
    (pc.step op).irrigationQueue.items =
      pc.irrigationQueue.items.drop (taken pc op) ++ (pc.putsOf op).map QueuePut.element := by
  cases op with
  | run io =>
    simp only [taken, PumpControl.step, putsOf]
    cases hstate : pc.irrigationState with
    | IDLE =>
      cases hqueue : pc.irrigationQueue.items with
      | cons e rest =>
        rw [(run_idle_start io hstate hqueue).1]
        simp [Fifo.isEmpty, hqueue]
      | nil =>
        rw [(run_idle_empty io hstate hqueue).1]
        simp [Fifo.isEmpty, hqueue, safetyPuts_elements, List.take_of_length_le (dueChannels_length _ _)]
    | RUN =>
      rw [(run_run io hstate).1]
      simp
    | STOP =>
      obtain ⟨head, rest, hqueue, -⟩ := h.running (Or.inr hstate)
      rw [run_stop_items io hstate hqueue, hqueue]
      simp
    | ERROR =>
      rw [(run_error io hstate).1]
      simp
    | CALIBRATION =>
      rw [(run_calibration io hstate).1]
      simp
  | createIrrigation element => exact pc.createIrrigation_puts_items element
  | addSafetyIrrigation time channel duration checkFlow checkCurrent pwmValue repeatNum now =>
    exact (List.append_nil _).symm
  | addLimitSwitch channel limitSwitch => exact (List.append_nil _).symm
  | skipActualIrrigation now =>
    simp only [PumpControl.step, PumpControl.skipActualIrrigation, taken, putsOf]
    split <;> simp
  | skipAllIrrigations now => simp [PumpControl.step, PumpControl.skipAllIrrigations, taken, putsOf]

structure PutEntry extends QueuePut where
  /-- The numbers in the queue when it was put. -/
  ahead : List Nat
  /-- The irrigation that it repeats. -/
  last : Option Nat
  /-- The first run of the irrigation. -/
  chain : Nat
  /-- The passes counted when it was put. -/
  moves : Nat
  deriving DecidableEq, Repr

structure PumpLedger where
  watch : PumpWatch
  /-- The entry of each number. -/
  entries : List PutEntry
  /-- The numbers started or failed by themselves, in this order. -/
  served : List Nat
  /-- The numbers stopped by an error while they ran. -/
  broken : List Nat
  /-- The passes that go on with what is in the queue. -/
  moves : Nat

namespace PumpLedger

def init (pcf : PCF8574) (reportError : Bool) (now : UInt32) : PumpLedger :=
  ⟨.init pcf reportError now, [], [], [], 0⟩

/-- A pass that finds something to do: an irrigation to start, the end of one that runs, one to take off the
queue, or the end of the calibration. -/
def advances (pc : PumpControl) : PumpOp → Bool
  | .run io =>
    match pc.irrigationState with
    | .IDLE => !pc.irrigationQueue.isEmpty
    | .RUN => (pc.sense io).ended io
    | .STOP => true
    | .ERROR => true
    | .CALIBRATION => Time.hasElapsed io.now pc.eventTimer (Time.secToMs 5)
  | _ => false

def brokenBy (w : PumpWatch) (pc : PumpControl) : PumpOp → List Nat
  | .run _ => if w.pc.irrigationState = .RUN ∧ pc.irrigationState = .ERROR then w.waiting.take 1 else []
  | _ => []

def chainOf (w : PumpLedger) (id : Nat) : Nat :=
  match w.entries[id]? with
  | some e => e.chain
  | none => id

/-- The entry of the put at place `j` of a step that leaves `left` in the queue. -/
def entryOf (w : PumpLedger) (left : List Nat) (moves j : Nat) (put : QueuePut) : PutEntry :=
  let last := if put.cause = .again then w.watch.waiting.head? else none
  { put with
    ahead := left ++ List.range' w.watch.puts j
    last := last
    chain := match last with
      | some k => w.chainOf k
      | none => w.watch.puts + j
    moves := moves }

def movesAfter (w : PumpLedger) (op : PumpOp) : Nat := w.moves + (advances w.watch.pc op).toNat

def step (w : PumpLedger) (op : PumpOp) : PumpLedger :=
  let watch := w.watch.step op
  let left := w.watch.waiting.drop (taken w.watch.pc op)
  { watch := watch
    entries := w.entries ++ (w.watch.pc.putsOf op).mapIdx (w.entryOf left (w.movesAfter op))
    served := w.served ++ w.watch.startedBy watch.pc ++ w.watch.failedBy watch.pc op
    broken := w.broken ++ brokenBy w.watch watch.pc op
    moves := w.movesAfter op }

/-! ## The numbers and the entries -/

/-- The queue holds the entered elements in the order of their numbers. -/
def Entered (w : PumpLedger) : Prop :=
  w.watch.waiting.map (fun id => w.entries[id]?.map fun e => e.element) = w.watch.pc.irrigationQueue.items.map some

structure Inv (w : PumpLedger) : Prop where
  watch : w.watch.Inv
  /-- The queue holds the last numbers. -/
  numbers : ∃ first n, w.watch.waiting = List.range' first n ∧ w.watch.puts = first + n
  entries : w.entries.length = w.watch.puts
  elements : w.watch.waiting.map (fun id => w.entries[id]?.map fun e => e.element) =
    w.watch.pc.irrigationQueue.items.map some

theorem inv_init (pcf : PCF8574) (reportError : Bool) (now : UInt32) : (init pcf reportError now).Inv where
  watch := PumpWatch.inv_init pcf reportError now
  numbers := ⟨0, 0, rfl, rfl⟩
  entries := rfl
  elements := rfl

theorem step_numbers {w : PumpWatch} (h : w.Inv) (op : PumpOp) :
    (w.step op).waiting = w.waiting.drop (taken w.pc op) ++ List.range' w.puts (w.pc.putsOf op).length ∧
      (w.step op).puts = w.puts + (w.pc.putsOf op).length := by
  obtain ⟨k, hwaiting, hputs, hlen⟩ := step_waiting h op
  have hitems := congrArg List.length (step_puts h.output op)
  rw [List.length_append, List.length_drop, List.length_map] at hitems
  rw [show (w.step op).pc = w.pc.step op from rfl, hwaiting, List.length_append, List.length_drop,
    List.length_range', hitems, h.length] at hlen
  obtain rfl : k = (w.pc.putsOf op).length := by omega
  exact ⟨hwaiting, hputs⟩

theorem entry_old {w : PumpLedger} (h : w.Inv) (op : PumpOp) {id : Nat} (hid : id < w.watch.puts) :
    (w.step op).entries[id]? = w.entries[id]? := by
  apply List.getElem?_append_left
  rw [h.entries]
  exact hid

theorem entry_new {w : PumpLedger} (h : w.Inv) (op : PumpOp) (j : Nat) :
    (w.step op).entries[w.watch.puts + j]? =
      (w.watch.pc.putsOf op)[j]?.map (w.entryOf (w.watch.waiting.drop (taken w.watch.pc op))
        (w.movesAfter op) j) := by
  show (w.entries ++ _)[w.watch.puts + j]? = _
  rw [List.getElem?_append_right (by rw [h.entries]; omega), h.entries, Nat.add_sub_cancel_left,
    List.getElem?_mapIdx]

theorem chainOf_old {w : PumpLedger} (h : w.Inv) (op : PumpOp) {id : Nat} (hid : id < w.watch.puts) :
    (w.step op).chainOf id = w.chainOf id := by
  unfold chainOf
  rw [entry_old h op hid]

theorem chainOf_entry {w : PumpLedger} {id : Nat} {e : PutEntry} (h : w.entries[id]? = some e) :
    w.chainOf id = e.chain := by
  unfold chainOf
  rw [h]

theorem elements_step {w : PumpLedger} (h : w.Inv) (op : PumpOp) :
    (w.step op).watch.waiting.map (fun id => (w.step op).entries[id]?.map fun e => e.element) =
      (w.step op).watch.pc.irrigationQueue.items.map some := by
  have hold : (w.watch.waiting.drop (taken w.watch.pc op)).map (fun id => (w.step op).entries[id]?.map fun e =>
    e.element) =
      (w.watch.pc.irrigationQueue.items.drop (taken w.watch.pc op)).map some := by
    rw [List.map_drop (l := w.watch.pc.irrigationQueue.items), ← h.elements, ← List.map_drop]
    apply List.map_congr_left
    intro id hid
    rw [entry_old h op (h.watch.below id (Or.inl (List.mem_of_mem_drop hid)))]
  have hnew : (List.range' w.watch.puts (w.watch.pc.putsOf op).length).map
      (fun id => (w.step op).entries[id]?.map fun e => e.element) =
      ((w.watch.pc.putsOf op).map QueuePut.element).map some := by
    apply List.ext_getElem?
    intro j
    rw [List.getElem?_map, List.getElem?_map, List.getElem?_map]
    by_cases hj : j < (w.watch.pc.putsOf op).length
    · rw [List.getElem?_range' hj, Nat.one_mul, Option.map_some, entry_new h, List.getElem?_eq_getElem hj]
      rfl
    · rw [List.getElem?_eq_none (by rw [List.length_range']; omega), List.getElem?_eq_none (Nat.le_of_not_lt hj)]
      rfl
  show (w.watch.step op).waiting.map _ = (w.watch.pc.step op).irrigationQueue.items.map some
  rw [(step_numbers h.watch op).1, List.map_append, hold, hnew, step_puts h.watch.output op, List.map_append]

theorem inv_step (w : PumpLedger) (op : PumpOp) (h : w.Inv) : (w.step op).Inv where
  watch := PumpWatch.inv_step w.watch op h.watch
  numbers := by
    obtain ⟨first, n, hwaiting, hputs⟩ := h.numbers
    obtain ⟨hwaiting', hputs'⟩ := step_numbers h.watch op
    refine ⟨first + min (taken w.watch.pc op) n, n - taken w.watch.pc op + (w.watch.pc.putsOf op).length, ?_, ?_⟩
    · show (w.watch.step op).waiting = _
      rw [hwaiting', hwaiting, List.drop_range', Nat.mul_one, hputs]
      rcases Nat.le_total n (taken w.watch.pc op) with hle | hle
      · rw [Nat.min_eq_right hle, Nat.sub_eq_zero_of_le hle, Nat.zero_add]
        rfl
      · rw [Nat.min_eq_left hle, ← List.range'_append_1, Nat.add_assoc, Nat.add_sub_cancel' hle]
    · show (w.watch.step op).puts = _
      rw [hputs', hputs]
      omega
  entries := by
    show (w.entries ++ _).length = _
    rw [List.length_append, List.length_mapIdx, h.entries]
    exact (step_numbers h.watch op).2.symm
  elements := elements_step h op

theorem Inv.sorted {w : PumpLedger} (h : w.Inv) : w.watch.waiting.Pairwise (· < ·) := by
  obtain ⟨first, n, hwaiting, -⟩ := h.numbers
  rw [hwaiting]
  exact List.pairwise_lt_range'

theorem Inv.head_le {w : PumpLedger} (h : w.Inv) {k id : Nat} (hk : w.watch.waiting.head? = some k)
    (hid : id ∈ w.watch.waiting) : k ≤ id := by
  obtain ⟨tail, hcons⟩ := List.head?_eq_some_iff.mp hk
  have hsorted := h.sorted
  rw [hcons] at hid hsorted
  rcases List.mem_cons.mp hid with rfl | hid
  · exact Nat.le_refl _
  · exact Nat.le_of_lt (List.rel_of_pairwise_cons hsorted hid)

theorem Inv.lt_puts {w : PumpLedger} (h : w.Inv) {id : Nat} (hid : id ∈ w.watch.waiting) : id < w.watch.puts :=
  h.watch.below id (Or.inl hid)

theorem Inv.entry_of_lt {w : PumpLedger} (h : w.Inv) {id : Nat} (hid : id < w.watch.puts) :
    ∃ e, w.entries[id]? = some e := by
  rw [← h.entries] at hid
  exact ⟨_, List.getElem?_eq_getElem hid⟩

theorem Inv.lt_of_entry {w : PumpLedger} (h : w.Inv) {id : Nat} {e : PutEntry} (he : w.entries[id]? = some e) :
    id < w.watch.puts := by
  rw [← h.entries]
  exact (List.getElem?_eq_some_iff.mp he).1

theorem Inv.head_element {w : PumpLedger} (h : w.Inv) {k : Nat} (hk : w.watch.waiting.head? = some k) {e : PutEntry}
    (he : w.entries[k]? = some e) {head : IrrigationQueueElement} {rest : List IrrigationQueueElement}
    (hqueue : w.watch.pc.irrigationQueue.items = head :: rest) : e.element = head := by
  obtain ⟨tail, hcons⟩ := List.head?_eq_some_iff.mp hk
  have helements := h.elements
  rw [hcons, hqueue, List.map_cons, List.map_cons, he] at helements
  exact Option.some.inj (List.cons.inj helements).1

/-- What an entry that a step adds says of its irrigation: it starts a chain of its own, or goes on with the one
of the irrigation that has just ended. -/
theorem new_entry {w : PumpLedger} (h : w.Inv) {op : PumpOp} {j : Nat} {e : PutEntry}
    (he : (w.step op).entries[w.watch.puts + j]? = some e) :
    e.ahead = w.watch.waiting.drop (taken w.watch.pc op) ++ List.range' w.watch.puts j ∧
      e.moves = (w.step op).moves ∧
    ((e.last = none ∧ e.chain = w.watch.puts + j) ∨
      (j = 0 ∧ ∃ io head rest k, op = .run io ∧ w.watch.pc.irrigationState = .STOP ∧
        w.watch.pc.irrigationQueue.items = head :: rest ∧ 0 < head.repeatNum ∧ w.watch.waiting.head? = some k ∧
        e.last = some k ∧ e.chain = w.chainOf k ∧ e.element = head.again)) := by
  rw [entry_new h] at he
  obtain ⟨put, hput, rfl⟩ := Option.map_eq_some_iff.mp he
  refine ⟨rfl, rfl, ?_⟩
  by_cases hcause : put.cause = .again
  · right
    obtain ⟨rfl, io, head, rest, rfl, hstate, hqueue, hrepeat, rfl⟩ := putsOf_again hput hcause
    obtain ⟨k, hk, -⟩ := h.watch.running (Or.inr hstate)
    refine ⟨rfl, io, head, rest, k, rfl, hstate, hqueue, hrepeat, hk, hk, ?_, rfl⟩
    simp [entryOf, hk]
  · left
    simp [entryOf, hcause]

/-! ## What is served -/

theorem served_cases {w : PumpWatch} (h : w.Inv) (op : PumpOp) :
    (w.startedBy (w.pc.step op) = [] ∧ w.failedBy (w.pc.step op) op = []) ∨
      ∃ io id rest, op = .run io ∧ w.pc.irrigationState = .IDLE ∧ w.waiting = id :: rest ∧
        ((w.startedBy (w.pc.step op) = [id] ∧ w.failedBy (w.pc.step op) op = [] ∧
          (w.pc.step op).irrigationState = .RUN) ∨
          (w.startedBy (w.pc.step op) = [] ∧ w.failedBy (w.pc.step op) op = [id] ∧
            (w.pc.step op).irrigationState = .ERROR)) := by
  by_cases hop : ∃ io, op = .run io
  swap
  · left
    constructor
    · unfold startedBy
      rw [if_neg]
      rintro ⟨hidle, hrun⟩
      exact hop (step_starts (by rw [hidle]; decide) hrun)
    · unfold failedBy
      split
      · exact absurd ⟨_, rfl⟩ hop
      · rfl
  obtain ⟨io, rfl⟩ := hop
  by_cases hstate : w.pc.irrigationState = .IDLE
  swap
  · left
    simp [startedBy, failedBy, hstate]
  cases hwaiting : w.waiting with
  | nil =>
    left
    simp [startedBy, failedBy, hwaiting]
  | cons id rest =>
    right
    obtain ⟨e, es, hqueue⟩ : ∃ e es, w.pc.irrigationQueue.items = e :: es := by
      apply List.exists_cons_of_ne_nil
      intro hnil
      rw [h.nil_iff.mpr hnil] at hwaiting
      cases hwaiting
    refine ⟨io, id, rest, rfl, hstate, rfl, ?_⟩
    rcases (run_idle_start io hstate hqueue).2 with ⟨hrun, -⟩ | ⟨herror, -⟩
    · left
      simp [startedBy, failedBy, hstate, hwaiting, PumpControl.step, hrun]
    · right
      simp [startedBy, failedBy, hstate, hwaiting, PumpControl.step, herror]

theorem inv_run (pcf : PCF8574) (reportError : Bool) (now : UInt32) (es : List PumpOp) :
    (Machine.run step (init pcf reportError now) es).Inv :=
  Machine.run_inv_all inv_step es (inv_init pcf reportError now)

end PumpLedger

end CanSystems
