import Mathlib.Data.List.Basic
import Mathlib.Data.UInt
import Mathlib.Data.Vector.Basic

/-!
# The task handler

The loop of every device calls the handler, and the handler calls its tasks in
turns. Either one task has its turn in a call, or the first one has a turn in
every call and the others share the second turn. A call answers with the tasks
that failed in it, one bit for each.
-/

namespace CanSystems

/-- A task acts on what the tasks share, and answers whether it went well. -/
structure Task (σ : Type*) where
  init : σ → Bool × σ
  run : σ → Bool × σ

structure TaskHandler (σ : Type*) (taskNum : UInt8) where
  taskList : Vector (Option (Task σ)) taskNum.toNat
  currentTask : UInt8
  inside : currentTask < taskNum
  bounded : taskNum ≤ 32

/-- What a call answers, the tasks that ran in it with their answers, and what it leaves. -/
structure TaskPass (σ : Type*) (taskNum : UInt8) where
  failureMask : UInt32
  ran : List (ℕ × Bool)
  handler : TaskHandler σ taskNum
  world : σ

namespace TaskHandler

variable {σ : Type*} {taskNum : UInt8}

theorem pos (h : TaskHandler σ taskNum) : 0 < taskNum := UInt8.lt_of_le_of_lt UInt8.zero_le h.inside

def new (taskList : Vector (Option (Task σ)) taskNum.toNat) (hpos : 0 < taskNum) (hbounded : taskNum ≤ 32) :
    TaskHandler σ taskNum := ⟨taskList, 0, hpos, hbounded⟩

def turn (action : Task σ → σ → Bool × σ) (task : Option (Task σ)) (i : UInt8) (world : σ) : UInt32 × List
    (ℕ × Bool) × σ :=
  match task with
  | none => (0, [], world)
  | some task =>
    let (ok, world) := action task world
    (if ok then 0 else 1 <<< i.toUInt32, [(i.toNat, ok)], world)

/-- The initialisation of the tasks from `i` on. -/
def initFrom (i : UInt8) : List (Option (Task σ)) → σ → UInt32 × List (ℕ × Bool) × σ
  | [], world => (0, [], world)
  | task :: tasks, world =>
    let (failure, ran, world) := turn Task.init task i world
    let (failures, rans, world) := initFrom (i + 1) tasks world
    (failure ||| failures, ran ++ rans, world)

def initTasks (h : TaskHandler σ taskNum) (world : σ) : UInt32 × List (ℕ × Bool) × σ :=
  initFrom 0 h.taskList.toList world

def first (h : TaskHandler σ taskNum) : Option (Task σ) := h.taskList.get ⟨0, UInt8.lt_iff_toNat_lt.mp h.pos⟩

def current (h : TaskHandler σ taskNum) : Option (Task σ) :=
  h.taskList.get ⟨h.currentTask.toNat, UInt8.lt_iff_toNat_lt.mp h.inside⟩

def runSingleTask (h : TaskHandler σ taskNum) (world : σ) : TaskPass σ taskNum :=
  let (failureMask, ran, world) := turn Task.run h.first 0 world
  ⟨failureMask, ran, h, world⟩

/-- The task behind the current one; behind the last one it is `again`. -/
def next (h : TaskHandler σ taskNum) (again : UInt8) (hagain : again < taskNum) : TaskHandler σ taskNum where
  taskList := h.taskList
  currentTask := if h.currentTask + 1 < taskNum then h.currentTask + 1 else again
  inside := by
    split
    · assumption
    · exact hagain
  bounded := h.bounded

def runFullRoundRobin (h : TaskHandler σ taskNum) (world : σ) : TaskPass σ taskNum :=
  let (failureMask, ran, world) := turn Task.run h.current h.currentTask world
  ⟨failureMask, ran, h.next 0 h.pos, world⟩

def runPartialRoundRobin (h : TaskHandler σ taskNum) (hmore : 1 < taskNum) (world : σ) : TaskPass σ taskNum :=
  let (firstMask, firstRan, world) := turn Task.run h.first 0 world
  let h := h.next 1 hmore
  let (failureMask, ran, world) := turn Task.run h.current h.currentTask world
  ⟨firstMask ||| failureMask, firstRan ++ ran, h, world⟩

def runTasks (fullRoundRobin : Bool) (h : TaskHandler σ taskNum) (world : σ) : TaskPass σ taskNum :=
  if hmore : 1 < taskNum then
    if fullRoundRobin then h.runFullRoundRobin world else h.runPartialRoundRobin hmore world
  else h.runSingleTask world

def passes (fullRoundRobin : Bool) (h : TaskHandler σ taskNum) : (calls : ℕ) → σ → List (TaskPass σ taskNum)
  | 0, _ => []
  | calls + 1, world =>
    let pass := h.runTasks fullRoundRobin world
    pass :: pass.handler.passes fullRoundRobin calls pass.world

/-! ## The bits of a call -/

theorem testBit_turn (action : Task σ → σ → Bool × σ) (task : Option (Task σ)) {i : UInt8} (hi : i < 32) (world : σ)
    (t : ℕ) :
    (turn action task i world).1.toNat.testBit t = true ↔ (t, false) ∈ (turn action task i world).2.1 := by
  cases task with
  | none => simp [turn]
  | some task =>
    have hlt : i.toNat < 32 := UInt8.lt_iff_toNat_lt.mp hi
    cases hok : (action task world).1 with
    | true => simp [turn, hok]
    | false =>
      have hbit : ((1 : UInt32) <<< i.toUInt32).toNat = 2 ^ i.toNat := by
        rw [UInt32.toNat_shiftLeft, UInt8.toNat_toUInt32, Nat.mod_eq_of_lt hlt, Nat.shiftLeft_eq, UInt32.toNat_one,
          Nat.one_mul]
        exact Nat.mod_eq_of_lt (Nat.pow_lt_pow_right (by decide) hlt)
      simp [turn, hok, hbit, Nat.testBit_two_pow, eq_comm]

theorem currentTask_lt (h : TaskHandler σ taskNum) : h.currentTask < 32 := UInt8.lt_of_lt_of_le h.inside h.bounded

theorem failureMask_spec (fullRoundRobin : Bool) (h : TaskHandler σ taskNum) (world : σ) (t : ℕ) :
    (h.runTasks fullRoundRobin world).failureMask.toNat.testBit t = true ↔
      (t, false) ∈ (h.runTasks fullRoundRobin world).ran := by
  unfold runTasks
  by_cases hmore : 1 < taskNum
  · rw [dif_pos hmore]
    cases fullRoundRobin with
    | true => exact testBit_turn Task.run h.current h.currentTask_lt world t
    | false =>
      simp only [Bool.false_eq_true, if_false, runPartialRoundRobin, UInt32.toNat_or, Nat.testBit_or,
        Bool.or_eq_true, List.mem_append]
      rw [testBit_turn Task.run _ (by decide), testBit_turn Task.run _ (h.next 1 hmore).currentTask_lt]
  · rw [dif_neg hmore]
    exact testBit_turn Task.run h.first (by decide) world t

theorem initFrom_spec {tasks : List (Option (Task σ))} {i : UInt8} (hlength : i.toNat + tasks.length ≤ 32)
    (world : σ) (t : ℕ) :
    (initFrom i tasks world).1.toNat.testBit t = true ↔ (t, false) ∈ (initFrom i tasks world).2.1 := by
  induction tasks generalizing i world with
  | nil => simp [initFrom]
  | cons task tasks ih =>
    rw [List.length_cons] at hlength
    have hi : i < 32 := UInt8.lt_iff_toNat_lt.mpr (by rw [show (32 : UInt8).toNat = 32 from rfl]; omega)
    have hnext : (i + 1).toNat = i.toNat + 1 := by
      rw [UInt8.toNat_add, UInt8.toNat_one]
      omega
    simp only [initFrom, UInt32.toNat_or, Nat.testBit_or, Bool.or_eq_true, List.mem_append]
    rw [testBit_turn Task.init task hi, ih (by rw [hnext]; omega)]

theorem initTasks_spec (h : TaskHandler σ taskNum) (world : σ) (t : ℕ) :
    (h.initTasks world).1.toNat.testBit t = true ↔ (t, false) ∈ (h.initTasks world).2.1 := by
  apply initFrom_spec
  rw [Vector.length_toList]
  have hle : taskNum.toNat ≤ 32 := UInt8.le_iff_toNat_le.mp h.bounded
  simpa using hle

/-! ## The turns of the tasks -/

def has (h : TaskHandler σ taskNum) (t : ℕ) : Bool :=
  if ht : t < taskNum.toNat then (h.taskList.get ⟨t, ht⟩).isSome else false

@[simp] theorem has_next (h : TaskHandler σ taskNum) (again : UInt8) (hagain : again < taskNum) :
    (h.next again hagain).has = h.has := rfl

theorem ran_turn (action : Task σ → σ → Bool × σ) (task : Option (Task σ)) (i : UInt8) (world : σ) :
    (turn action task i world).2.1.map Prod.fst = if task.isSome then [i.toNat] else [] := by
  cases task <;> rfl

theorem ran_current (h : TaskHandler σ taskNum) (world : σ) :
    (turn Task.run h.current h.currentTask world).2.1.map Prod.fst = [h.currentTask.toNat].filter h.has := by
  have hlt : h.currentTask.toNat < taskNum.toNat := UInt8.lt_iff_toNat_lt.mp h.inside
  have hhas : h.has h.currentTask.toNat = h.current.isSome := dif_pos hlt
  rw [ran_turn, ← hhas]
  cases hat : h.has h.currentTask.toNat <;> simp [hat]

theorem ran_first (h : TaskHandler σ taskNum) (world : σ) :
    (turn Task.run h.first 0 world).2.1.map Prod.fst = [0].filter h.has := by
  have hhas : h.has 0 = h.first.isSome := dif_pos (UInt8.lt_iff_toNat_lt.mp h.pos)
  rw [ran_turn, ← hhas]
  cases hat : h.has 0 <;> simp [hat]

theorem toNat_next (h : TaskHandler σ taskNum) {again : UInt8} (hagain : again < taskNum) :
    (h.next again hagain).currentTask.toNat =
      if h.currentTask.toNat + 1 < taskNum.toNat then h.currentTask.toNat + 1 else again.toNat := by
  have hlt : h.currentTask.toNat < taskNum.toNat := UInt8.lt_iff_toNat_lt.mp h.inside
  have hle : taskNum.toNat ≤ 32 := UInt8.le_iff_toNat_le.mp h.bounded
  have hadd : (h.currentTask + 1).toNat = h.currentTask.toNat + 1 := by
    rw [UInt8.toNat_add, UInt8.toNat_one]
    omega
  unfold next
  simp only [UInt8.lt_iff_toNat_lt, hadd]
  split
  · exact hadd
  · rfl

def slots (fullRoundRobin : Bool) (h : TaskHandler σ taskNum) (calls : ℕ) : List ℕ :=
  if taskNum.toNat ≤ 1 then List.replicate calls 0 else
  if fullRoundRobin then (List.range calls).map fun i => (h.currentTask.toNat + i) % taskNum.toNat else
  (List.range calls).flatMap fun i => [0, 1 + (h.currentTask.toNat + i) % (taskNum.toNat - 1)]

theorem slots_succ (fullRoundRobin : Bool) (h : TaskHandler σ taskNum) (calls : ℕ) (world : σ) :
    ∃ now, (h.runTasks fullRoundRobin world).ran.map Prod.fst = now.filter h.has ∧
      (h.runTasks fullRoundRobin world).handler.has = h.has ∧
      h.slots fullRoundRobin (calls + 1) = now ++ (h.runTasks fullRoundRobin world).handler.slots fullRoundRobin
        calls := by
  have hlt : h.currentTask.toNat < taskNum.toNat := UInt8.lt_iff_toNat_lt.mp h.inside
  unfold runTasks
  by_cases hmore : 1 < taskNum
  · have hn : 1 < taskNum.toNat := UInt8.lt_iff_toNat_lt.mp hmore
    have hone : ¬ taskNum.toNat ≤ 1 := Nat.not_le.mpr hn
    rw [dif_pos hmore]
    cases fullRoundRobin with
    | true =>
      refine ⟨[h.currentTask.toNat], h.ran_current world, rfl, ?_⟩
      have hnext : (h.next 0 h.pos).currentTask.toNat = (h.currentTask.toNat + 1) % taskNum.toNat := by
        rw [toNat_next]
        split
        · rw [Nat.mod_eq_of_lt (by assumption)]
        · rw [show h.currentTask.toNat + 1 = taskNum.toNat by omega, Nat.mod_self]
          rfl
      simp only [slots, if_neg hone, if_true]
      rw [List.range_succ_eq_map, List.map_cons, List.map_map, Nat.add_zero, Nat.mod_eq_of_lt hlt,
        List.singleton_append]
      congr 1
      apply List.map_congr_left
      intro i _
      change (h.currentTask.toNat + (i + 1)) % taskNum.toNat =
        ((h.next 0 h.pos).currentTask.toNat + i) % taskNum.toNat
      rw [hnext, Nat.mod_add_mod, Nat.add_right_comm, Nat.add_assoc]
    | false =>
      have hnext := h.toNat_next hmore
      have hslot : (h.next 1 hmore).currentTask.toNat = 1 + h.currentTask.toNat % (taskNum.toNat - 1) := by
        rw [hnext, UInt8.toNat_one]
        split
        · rw [Nat.mod_eq_of_lt (by omega), Nat.add_comm]
        · rw [show h.currentTask.toNat = taskNum.toNat - 1 by omega, Nat.mod_self]
      refine ⟨[0, (h.next 1 hmore).currentTask.toNat], ?_, rfl, ?_⟩
      · simp only [Bool.false_eq_true, if_false, runPartialRoundRobin, List.map_append]
        rw [ran_first, ran_current, has_next, ← List.filter_append, List.singleton_append]
      · simp only [slots, if_neg hone, Bool.false_eq_true, if_false]
        rw [List.range_succ_eq_map, List.flatMap_cons, Nat.add_zero, hslot, List.flatMap_map]
        congr 1
        apply congrArg (fun f => (List.range calls).flatMap f)
        funext i
        change [0, 1 + (h.currentTask.toNat + (i + 1)) % (taskNum.toNat - 1)] =
          [0, 1 + ((h.next 1 hmore).currentTask.toNat + i) % (taskNum.toNat - 1)]
        rw [hslot, show 1 + h.currentTask.toNat % (taskNum.toNat - 1) + i =
          h.currentTask.toNat % (taskNum.toNat - 1) + (i + 1) by omega, Nat.mod_add_mod]
  · have hn : taskNum.toNat ≤ 1 := Nat.not_lt.mp fun hlt => hmore (UInt8.lt_iff_toNat_lt.mpr hlt)
    rw [dif_neg hmore]
    refine ⟨[0], h.ran_first world, rfl, ?_⟩
    simp only [slots, if_pos hn, List.replicate_succ, List.singleton_append]

theorem ran_passes (fullRoundRobin : Bool) (calls : ℕ) (h : TaskHandler σ taskNum) (world : σ) :
    ((h.passes fullRoundRobin calls world).flatMap TaskPass.ran).map Prod.fst =
      (h.slots fullRoundRobin calls).filter h.has := by
  induction calls generalizing h world with
  | zero =>
    unfold slots
    split
    · rfl
    · split <;> rfl
  | succ calls ih =>
    obtain ⟨now, hran, hhas, hslots⟩ := h.slots_succ fullRoundRobin calls world
    rw [passes, List.flatMap_cons, List.map_append, hran, ih, hslots, List.filter_append, hhas]

/-! ## A cycle -/

def cycle (fullRoundRobin : Bool) (taskNum : UInt8) : ℕ :=
  if taskNum.toNat ≤ 1 ∨ fullRoundRobin = true then taskNum.toNat else taskNum.toNat - 1

theorem count_ring (start : ℕ) {m r : ℕ} (hr : r < m) :
    ((List.range m).map fun i => (start + i) % m).count r = 1 := by
  apply List.count_eq_one_of_mem
  · apply List.Nodup.map_on _ List.nodup_range
    intro i hi j hj heq
    rw [List.mem_range] at hi hj
    have hmod : i % m = j % m := Nat.ModEq.add_left_cancel' start heq
    rwa [Nat.mod_eq_of_lt hi, Nat.mod_eq_of_lt hj] at hmod
  · rw [List.mem_map]
    refine ⟨(r + (m - start % m)) % m, List.mem_range.mpr (Nat.mod_lt _ (by omega)), ?_⟩
    have hstart := Nat.mod_lt start (by omega : 0 < m)
    calc (start + (r + (m - start % m)) % m) % m
        = (start % m + (r + (m - start % m))) % m := by rw [Nat.add_mod_mod, Nat.mod_add_mod]
      _ = (r + m) % m := by congr 1; omega
      _ = r := by rw [Nat.add_mod_right, Nat.mod_eq_of_lt hr]

theorem count_flatMap_pair (xs : List ℕ) (f : ℕ → ℕ) (t : ℕ) :
    (xs.flatMap fun i => [0, 1 + f i]).count t = if t = 0 then xs.length else (xs.map f).count (t - 1) := by
  induction xs with
  | nil => simp
  | cons x xs ih =>
    rw [List.flatMap_cons, List.count_append, ih]
    by_cases ht : t = 0
    · simp [ht, Nat.add_comm]
    · have hnext : (1 + f x = t) ↔ (f x = t - 1) := by omega
      simp only [if_neg ht, List.count_cons, List.count_nil, List.map_cons, beq_iff_eq, hnext, Ne.symm ht, if_false]
      omega

theorem count_slots (fullRoundRobin : Bool) (h : TaskHandler σ taskNum) {t : ℕ} (ht : t < taskNum.toNat) :
    (h.slots fullRoundRobin (cycle fullRoundRobin taskNum)).count t =
      if t = 0 ∧ fullRoundRobin = false then cycle fullRoundRobin taskNum else 1 := by
  by_cases hone : taskNum.toNat ≤ 1
  · obtain rfl : t = 0 := by omega
    have hn : taskNum.toNat = 1 := by omega
    simp [slots, cycle, hn]
  · cases fullRoundRobin with
    | true =>
      simp only [slots, cycle, if_neg hone, or_true, if_true, Bool.true_eq_false, and_false, if_false]
      exact count_ring _ ht
    | false =>
      simp only [slots, cycle, hone, Bool.false_eq_true, or_self, if_false, and_true, count_flatMap_pair,
        List.length_range]
      by_cases hzero : t = 0
      · rw [if_pos hzero, if_pos hzero]
      · rw [if_neg hzero, if_neg hzero]
        exact count_ring _ (by omega)

theorem count_priority (h : TaskHandler σ taskNum) (world : σ) :
    ((h.runTasks false world).ran.map Prod.fst).count 0 = if h.has 0 then 1 else 0 := by
  have hran := h.ran_passes false 1 world
  simp only [passes, List.flatMap_cons, List.flatMap_nil, List.append_nil] at hran
  have hone : (h.slots false 1).count 0 = 1 := by
    unfold slots
    split
    · rfl
    · simp [List.range_succ]
  rw [hran]
  by_cases hhas : h.has 0 = true
  · rw [if_pos hhas, List.count_filter hhas, hone]
  · rw [if_neg hhas, List.count_eq_zero]
    intro hmem
    exact hhas (List.mem_filter.mp hmem).2

/-- From any state on, each task that is there runs once in a cycle, the one with priority once in every call, no
other task runs, and the answer of a call has the bits of the tasks that failed in it. -/
theorem tasks_take_turns (fullRoundRobin : Bool) (h : TaskHandler σ taskNum) (world : σ) (t : ℕ) :
    (((h.passes fullRoundRobin (cycle fullRoundRobin taskNum) world).flatMap TaskPass.ran).map Prod.fst).count t =
        (if h.has t then if t = 0 ∧ fullRoundRobin = false then cycle fullRoundRobin taskNum else 1 else 0) ∧
      ∀ calls, ∀ pass ∈ h.passes fullRoundRobin calls world,
        (pass.failureMask.toNat.testBit t = true ↔ (t, false) ∈ pass.ran) ∧
          (fullRoundRobin = false → (pass.ran.map Prod.fst).count 0 = if h.has 0 then 1 else 0) := by
  constructor
  · rw [ran_passes]
    by_cases hhas : h.has t = true
    · have ht : t < taskNum.toNat := by
        by_contra hnot
        rw [has, dif_neg hnot] at hhas
        cases hhas
      rw [if_pos hhas, List.count_filter hhas, count_slots fullRoundRobin h ht]
    · rw [if_neg hhas, List.count_eq_zero]
      intro hmem
      exact hhas (List.mem_filter.mp hmem).2
  · intro calls
    induction calls generalizing h world with
    | zero => simp [passes]
    | succ calls ih =>
      intro pass hpass
      rcases List.mem_cons.mp hpass with rfl | hpass
      · refine ⟨h.failureMask_spec fullRoundRobin world t, ?_⟩
        rintro rfl
        exact h.count_priority world
      · obtain ⟨-, -, hhas, -⟩ := h.slots_succ fullRoundRobin calls world
        rw [← hhas]
        exact ih _ _ pass hpass

end TaskHandler

end CanSystems
