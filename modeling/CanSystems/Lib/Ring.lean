import Mathlib.Data.Vector.Basic

/-!
# Cells in a ring

`read` takes cells from an array round its end. A write to the cell behind the
last one that was read is an append; the first cell is left out by starting one
cell later.
-/

namespace Ring

variable {α : Type*} {n : ℕ}

/-- The cell at `i` turns of the ring or less. -/
def cell (cells : Vector α n) (hn : 0 < n) (i : ℕ) : α := cells.get ⟨i % n, Nat.mod_lt i hn⟩

/-- `len` cells from `start` on. -/
def read (cells : Vector α n) (hn : 0 < n) (start len : ℕ) : List α :=
  (List.range len).map fun i => cell cells hn (start + i)

variable {cells : Vector α n} {hn : 0 < n}

@[simp] theorem read_zero (start : ℕ) : read cells hn start 0 = [] := rfl

@[simp] theorem length_read (start len : ℕ) : (read cells hn start len).length = len := by
  simp [read]

theorem cell_congr {i j : ℕ} (h : i % n = j % n) : cell cells hn i = cell cells hn j := by
  simp only [cell, h]

theorem read_congr {start start' : ℕ} (h : start % n = start' % n) (len : ℕ) :
    read cells hn start len = read cells hn start' len := by
  apply List.map_congr_left
  intro i _
  exact cell_congr (by rw [Nat.add_mod, h, ← Nat.add_mod])

theorem read_first (start len : ℕ) :
    read cells hn start (len + 1) = cell cells hn start :: read cells hn (start + 1) len := by
  rw [read, List.range_succ_eq_map, List.map_cons, List.map_map]
  congr 1
  apply List.map_congr_left
  intro i _
  exact congrArg (cell cells hn) (by simp only [Nat.succ_eq_add_one]; omega)

theorem read_last (start len : ℕ) :
    read cells hn start (len + 1) = read cells hn start len ++ [cell cells hn (start + len)] := by
  simp [read, List.range_succ]

theorem cell_set {i j : ℕ} (hi : i < n) (x : α) :
    cell (cells.set i x hi) hn j = if i = j % n then x else cell cells hn j :=
  Vector.getElem_set hi (Nat.mod_lt j hn)

theorem add_mod_ne {start i len : ℕ} (hi : i < len) (hlen : len < n) : (start + i) % n ≠ (start + len) % n := by
  intro h
  have hdvd : n ∣ len - i := by
    have hsub := Nat.sub_mod_eq_zero_of_mod_eq h.symm
    rw [show start + len - (start + i) = len - i by omega] at hsub
    exact Nat.dvd_of_mod_eq_zero hsub
  have := Nat.le_of_dvd (by omega) hdvd
  omega

theorem read_set {start len i : ℕ} (hlen : len < n) (hi : i < n) (hend : (start + len) % n = i) (x : α) :
    read (cells.set i x hi) hn start (len + 1) = read cells hn start len ++ [x] := by
  have hlast : cell (cells.set i x hi) hn (start + len) = x := by
    rw [cell_set, if_pos hend.symm]
  have hkept : read (cells.set i x hi) hn start len = read cells hn start len := by
    apply List.map_congr_left
    intro j hj
    rw [cell_set, if_neg]
    rw [← hend]
    exact (add_mod_ne (List.mem_range.mp hj) hlen).symm
  rw [read_last, hlast, hkept]

end Ring
