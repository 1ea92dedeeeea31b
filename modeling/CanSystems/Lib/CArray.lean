import Mathlib.Data.List.Basic

/-!
# Arrays with checked accesses

An array of a fixed size, as C has it. An access is `none` when any part of it
lies outside, so a program that never gives `none` has stayed inside. `Starts`
names the front of the array; the rest may hold anything.
-/

structure CArray (α : Type*) (cap : ℕ) where
  cells : List α
  size : cells.length = cap
  deriving DecidableEq

namespace CArray

variable {α : Type*} {cap : ℕ}

def replicate (cap : ℕ) (x : α) : CArray α cap := ⟨List.replicate cap x, List.length_replicate⟩

def get (a : CArray α cap) (i : ℕ) : Option α := a.cells[i]?

/-- The `n` cells from `pos` on. -/
def read (a : CArray α cap) (pos n : ℕ) : Option (List α) :=
  if pos + n ≤ cap then some ((a.cells.drop pos).take n) else none

theorem size_write (a : CArray α cap) {pos : ℕ} {xs : List α} (h : pos + xs.length ≤ cap) :
    (a.cells.take pos ++ xs ++ a.cells.drop (pos + xs.length)).length = cap := by
  have hsize := a.size
  simp only [List.length_append, List.length_take, List.length_drop]
  omega

/-- `xs` in the place of the cells from `pos` on. -/
def put (a : CArray α cap) (pos : ℕ) (xs : List α) (h : pos + xs.length ≤ cap) : CArray α cap :=
  ⟨a.cells.take pos ++ xs ++ a.cells.drop (pos + xs.length), a.size_write h⟩

def write (a : CArray α cap) (pos : ℕ) (xs : List α) : Option (CArray α cap) :=
  if h : pos + xs.length ≤ cap then some ⟨a.cells.take pos ++ xs ++ a.cells.drop (pos + xs.length), a.size_write h⟩
  else none

/-- The `room` cells from `pos` on are handed out, and `xs` is put at their front. -/
def fill (a : CArray α cap) (pos room : ℕ) (xs : List α) : Option (CArray α cap) :=
  if pos + room ≤ cap ∧ xs.length ≤ room then a.write pos xs else none

/-- The array begins with `xs`. -/
def Starts (a : CArray α cap) (xs : List α) : Prop := xs <+: a.cells

theorem starts_nil (a : CArray α cap) : a.Starts [] := List.nil_prefix

theorem Starts.length_le {a : CArray α cap} {xs : List α} (h : a.Starts xs) : xs.length ≤ cap := by
  rw [← a.size]
  exact List.IsPrefix.length_le h

theorem Starts.get {a : CArray α cap} {xs : List α} (h : a.Starts xs) {i : ℕ} (hi : i < xs.length) :
    a.get i = some xs[i] := by
  obtain ⟨rest, hrest⟩ := h
  rw [CArray.get, ← hrest, List.getElem?_append_left hi, List.getElem?_eq_getElem hi]

theorem Starts.read {a : CArray α cap} {xs : List α} (h : a.Starts xs) {pos n : ℕ} (hn : pos + n ≤ xs.length) :
    a.read pos n = some ((xs.drop pos).take n) := by
  have hcap := h.length_le
  obtain ⟨rest, hrest⟩ := h
  rw [CArray.read, if_pos (by omega), ← hrest, List.drop_append_of_le_length (by omega),
    List.take_append_of_le_length (by rw [List.length_drop]; omega)]

theorem exists_write (a : CArray α cap) {pos : ℕ} {xs : List α} (h : pos + xs.length ≤ cap) :
    ∃ a', a.write pos xs = some a' := ⟨_, dif_pos h⟩

theorem fill_eq_write (a : CArray α cap) {pos room : ℕ} {xs : List α} (h : pos + room ≤ cap)
    (hxs : xs.length ≤ room) :
    a.fill pos room xs = a.write pos xs := if_pos ⟨h, hxs⟩

theorem write_cells {a a' : CArray α cap} {pos : ℕ} {xs : List α} (h : a.write pos xs = some a') :
    pos + xs.length ≤ cap ∧ a'.cells = a.cells.take pos ++ xs ++ a.cells.drop (pos + xs.length) := by
  unfold write at h
  split at h
  · rename_i hle
    cases h
    exact ⟨hle, rfl⟩
  · cases h

theorem write_isSome {a : CArray α cap} {pos : ℕ} {xs : List α} :
    (a.write pos xs).isSome ↔ pos + xs.length ≤ cap := by
  unfold write
  split
  · rename_i hle
    exact iff_of_true rfl hle
  · rename_i hle
    exact iff_of_false Bool.false_ne_true hle

theorem write_append (a : CArray α cap) (pos : ℕ) (xs ys : List α) :
    a.write pos (xs ++ ys) = (a.write pos xs).bind fun b => b.write (pos + xs.length) ys := by
  have hsize := a.size
  by_cases hall : pos + (xs ++ ys).length ≤ cap
  · have hlen : pos + xs.length + ys.length ≤ cap := by
      rw [List.length_append] at hall
      omega
    have hfront : (a.cells.take pos ++ xs).length = pos + xs.length := by
      rw [List.length_append, List.length_take]
      omega
    obtain ⟨b, hb⟩ := a.exists_write (by omega : pos + xs.length ≤ cap)
    obtain ⟨-, hbcells⟩ := write_cells hb
    have htake : b.cells.take (pos + xs.length) = a.cells.take pos ++ xs := by
      rw [hbcells, ← hfront, List.take_left]
    have hdrop : b.cells.drop (pos + xs.length + ys.length) = a.cells.drop (pos + (xs ++ ys).length) := by
      rw [hbcells, ← List.drop_drop, ← hfront, List.drop_left, hfront, List.drop_drop, List.length_append,
        Nat.add_assoc]
    rw [hb, Option.bind_some, write, write, dif_pos hall, dif_pos hlen]
    simp only [htake, hdrop, List.append_assoc]
  · have hnone : a.write pos (xs ++ ys) = none := dif_neg hall
    rw [hnone]
    cases hb : a.write pos xs with
    | none => rfl
    | some b =>
      rw [List.length_append] at hall
      rw [Option.bind_some, write, dif_neg (by omega)]

theorem Starts.write_end {a a' : CArray α cap} {xs ys : List α} (h : a.Starts xs)
    (hwrite : a.write xs.length ys = some a') : a'.Starts (xs ++ ys) := by
  obtain ⟨-, hcells⟩ := write_cells hwrite
  have hfront : a.cells.take xs.length = xs := List.prefix_iff_eq_take.mp h |>.symm
  rw [hfront] at hcells
  exact ⟨_, hcells.symm⟩

theorem read_write {a a' : CArray α cap} {pos : ℕ} {xs : List α} (h : a.write pos xs = some a') :
    a'.read pos xs.length = some xs := by
  obtain ⟨hle, hcells⟩ := write_cells h
  have hsize := a.size
  rw [CArray.read, if_pos hle, hcells, List.append_assoc,
    List.drop_append_of_le_length (by rw [List.length_take]; omega), List.drop_take, Nat.sub_self, List.take_zero,
      List.nil_append, List.take_left]

theorem read_write_before {a a' : CArray α cap} {pos : ℕ} {xs : List α} (h : a.write pos xs = some a') {q n : ℕ}
    (hn : q + n ≤ pos) : a'.read q n = a.read q n := by
  obtain ⟨hle, hcells⟩ := write_cells h
  have hsize := a.size
  rw [CArray.read, CArray.read, if_pos (by omega), if_pos (by omega), hcells, List.append_assoc,
    List.drop_append_of_le_length (by rw [List.length_take]; omega),
    List.take_append_of_le_length (by rw [List.length_drop, List.length_take]; omega), List.drop_take,
      List.take_take,
    Nat.min_eq_left (by omega)]

theorem read_write_after {a a' : CArray α cap} {pos : ℕ} {xs : List α} (h : a.write pos xs = some a') {q n : ℕ}
    (hq : pos + xs.length ≤ q) : a'.read q n = a.read q n := by
  obtain ⟨hle, hcells⟩ := write_cells h
  have hsize := a.size
  have hfront : (a.cells.take pos ++ xs).length = pos + xs.length := by
    rw [List.length_append, List.length_take]
    omega
  unfold CArray.read
  rw [hcells, List.drop_append, List.drop_eq_nil_of_le (by omega), hfront, List.nil_append, List.drop_drop,
    show pos + xs.length + (q - (pos + xs.length)) = q by omega]

theorem Starts.write_middle {a a' : CArray α cap} {pre old new post : List α} (h : a.Starts (pre ++ old ++ post))
    (hlen : new.length = old.length) (hwrite : a.write pre.length new = some a') :
    a'.Starts (pre ++ new ++ post) := by
  obtain ⟨-, hcells⟩ := write_cells hwrite
  obtain ⟨rest, hrest⟩ := h
  have hold : a.cells = pre ++ (old ++ (post ++ rest)) := by
    rw [← hrest, List.append_assoc, List.append_assoc]
  refine ⟨rest, ?_⟩
  rw [hcells, hold, List.take_left, ← List.drop_drop, List.drop_left, hlen, List.drop_left, List.append_assoc,
    List.append_assoc]

theorem read_append {a : CArray α cap} {pos n m : ℕ} {xs ys : List α} (hx : a.read pos n = some xs)
    (hy : a.read (pos + n) m = some ys) : a.read pos (n + m) = some (xs ++ ys) := by
  unfold read at hx hy ⊢
  split at hx
  · split at hy
    · cases hx
      cases hy
      rw [if_pos (by omega), List.take_add, List.drop_drop]
    · cases hy
  · cases hx

theorem length_read {a : CArray α cap} {pos n : ℕ} {xs : List α} (h : a.read pos n = some xs) :
    pos + n ≤ cap ∧ xs.length = n := by
  have hsize := a.size
  unfold read at h
  split at h
  · cases h
    refine ⟨by assumption, ?_⟩
    rw [List.length_take, List.length_drop]
    omega
  · cases h

end CArray
