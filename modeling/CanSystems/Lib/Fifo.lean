import Mathlib.Data.List.Basic

/-!
# Bounded queues

A list of at most `cap` elements, the oldest first. A full queue takes a new
element in place of its oldest one; an empty queue gives a default.
-/

structure Fifo (α : Type*) (cap : ℕ) where
  items : List α
  bounded : items.length ≤ cap
  deriving DecidableEq

namespace Fifo

variable {α : Type*} {cap : ℕ}

@[ext] theorem ext {q r : Fifo α cap} (h : q.items = r.items) : q = r := by
  cases q
  cases r
  cases h
  rfl

def empty : Fifo α cap := ⟨[], Nat.zero_le cap⟩

def isEmpty (q : Fifo α cap) : Bool := q.items.isEmpty

def isFull (q : Fifo α cap) : Bool := q.items.length == cap

def put (q : Fifo α cap) (x : α) : Fifo α cap where
  items := if q.items.length < cap then q.items ++ [x] else (q.items ++ [x]).tail
  bounded := by
    have h := q.bounded
    split
    · rw [List.length_append, List.length_singleton]; omega
    · rw [List.length_tail, List.length_append, List.length_singleton]; omega

def peek [Inhabited α] (q : Fifo α cap) : α := q.items.headD default

def rest (q : Fifo α cap) : Fifo α cap where
  items := q.items.tail
  bounded := Nat.le_trans (by rw [List.length_tail]; omega) q.bounded

def pop [Inhabited α] (q : Fifo α cap) : α × Fifo α cap := (q.peek, q.rest)

@[simp] theorem items_empty : (empty : Fifo α cap).items = [] := rfl

@[simp] theorem items_rest (q : Fifo α cap) : q.rest.items = q.items.tail := rfl

@[simp] theorem pop_fst [Inhabited α] (q : Fifo α cap) : q.pop.1 = q.peek := rfl

@[simp] theorem pop_snd [Inhabited α] (q : Fifo α cap) : q.pop.2 = q.rest := rfl

@[simp] theorem isEmpty_iff {q : Fifo α cap} : q.isEmpty = true ↔ q.items = [] := List.isEmpty_iff

@[simp] theorem isEmpty_eq_false {q : Fifo α cap} : q.isEmpty = false ↔ q.items ≠ [] := by
  simp [isEmpty]

theorem items_put {q : Fifo α cap} (h : q.isFull = false) (x : α) : (q.put x).items = q.items ++ [x] := by
  have hne : q.items.length ≠ cap := by simpa [isFull] using h
  exact if_pos (Nat.lt_of_le_of_ne q.bounded hne)

theorem items_put_full {q : Fifo α cap} (h : q.isFull = true) (x : α) :
    (q.put x).items = (q.items ++ [x]).tail := by
  have heq : q.items.length = cap := by simpa [isFull] using h
  exact if_neg (by omega)

theorem peek_cons [Inhabited α] {q : Fifo α cap} {x : α} {xs : List α} (h : q.items = x :: xs) : q.peek = x := by
  rw [peek, h, List.headD_cons]

end Fifo
