import Mathlib.Data.List.Basic
import Mathlib.Logic.Function.Basic

/-!
# NOR memory

Cells hold bytes. Erasing sets every bit, programming only clears bits. A page
program command wraps inside its page; `pageProgram_eq_write` says that a
command which stays in its page is the ideal write `write`.
-/

namespace Nor

abbrev Mem := Nat → UInt8

def erased : Mem := fun _ => 0xFF

def write (m : Mem) (addr : Nat) (bs : List UInt8) : Mem :=
  fun a => if addr ≤ a then m a &&& bs.getD (a - addr) 0xFF else m a

/-- The cell after `a`, inside the page of `a`. -/
def pageNext (page a : Nat) : Nat := if (a + 1) % page = 0 then a + 1 - page else a + 1

def pageProgram (page : Nat) : Mem → Nat → List UInt8 → Mem
  | m, _, [] => m
  | m, a, b :: bs => pageProgram page (Function.update m a (m a &&& b)) (pageNext page a) bs

/-- The `n` cells from `a` on. -/
def slice (m : Mem) (a n : Nat) : List UInt8 := (List.range n).map fun i => m (a + i)

theorem and_ff (x : UInt8) : x &&& 0xFF = x := by
  apply UInt8.toBitVec_inj.mp
  rw [UInt8.toBitVec_and]
  exact BitVec.and_allOnes

theorem ff_and (x : UInt8) : 0xFF &&& x = x := by
  rw [UInt8.and_comm, and_ff]

/-! ## The ideal write -/

@[simp] theorem write_nil (m : Mem) (addr : Nat) : write m addr [] = m := by
  funext a; simp [write, and_ff]

theorem write_below {m : Mem} {addr a : Nat} (bs : List UInt8) (h : a < addr) : write m addr bs a = m a := by
  simp [write, Nat.not_le.mpr h]

theorem write_above {m : Mem} {addr a : Nat} {bs : List UInt8} (h : addr + bs.length ≤ a) :
    write m addr bs a = m a := by
  have hle : bs.length ≤ a - addr := by omega
  simp [write, List.getElem?_eq_none hle, and_ff]

theorem write_at {m : Mem} {addr i : Nat} {bs : List UInt8} (h : i < bs.length) :
    write m addr bs (addr + i) = m (addr + i) &&& bs[i] := by
  simp [write, h]

theorem write_frame {m : Mem} {addr a : Nat} {bs : List UInt8} (h : a < addr ∨ addr + bs.length ≤ a) :
    write m addr bs a = m a := by
  rcases h with h | h
  · exact write_below bs h
  · exact write_above h

theorem write_append (m : Mem) (addr : Nat) (bs cs : List UInt8) :
    write (write m addr bs) (addr + bs.length) cs = write m addr (bs ++ cs) := by
  funext a
  by_cases h₁ : a < addr
  · rw [write_below _ (by omega), write_below _ h₁, write_below _ h₁]
  · by_cases h₂ : a < addr + bs.length
    · rw [write_below _ h₂]
      have hi : a - addr < bs.length := by omega
      simp [write, Nat.not_lt.mp h₁, List.getElem?_append_left hi]
    · have hi : bs.length ≤ a - addr := by omega
      have e : a - addr - bs.length = a - (addr + bs.length) := by omega
      simp [write, Nat.not_lt.mp h₁, Nat.not_lt.mp h₂, hi, List.getElem?_append_right hi, e, and_ff]

/-! ## Page programs -/

theorem pageProgram_eq_write {page : Nat} (hp : 0 < page) (m : Mem) (a : Nat) (bs : List UInt8)
    (h : a % page + bs.length ≤ page) : pageProgram page m a bs = write m a bs := by
  induction bs generalizing m a with
  | nil => simp [pageProgram]
  | cons b bs ih =>
    rw [List.length_cons] at h
    have single : Function.update m a (m a &&& b) = write m a [b] := by
      funext c
      by_cases hc : c = a
      · subst hc; simp [write]
      · rw [Function.update_of_ne hc]
        exact (write_frame (by simp; omega)).symm
    rw [pageProgram, single]
    cases bs with
    | nil => rfl
    | cons c bs =>
      have hlt : a % page + 1 < page := by simp only [List.length_cons] at h; omega
      have hmod : (a + 1) % page = a % page + 1 := by
        rw [Nat.add_mod, Nat.mod_eq_of_lt (show 1 < page by omega), Nat.mod_eq_of_lt hlt]
      have hnext : pageNext page a = a + 1 := by simp [pageNext, hmod]
      rw [hnext, ih _ _ (by rw [hmod]; omega)]
      exact write_append m a [b] (c :: bs)

/-! ## Slices -/

@[simp] theorem length_slice (m : Mem) (a n : Nat) : (slice m a n).length = n := by simp [slice]

theorem slice_write_of_ff {m : Mem} {a : Nat} (bs : List UInt8) (h : ∀ i < bs.length, m (a + i) = 0xFF) :
    slice (write m a bs) a bs.length = bs := by
  apply List.ext_getElem (by simp)
  intro i h₁ h₂
  simp [slice, write_at h₂, h i h₂, ff_and]

end Nor
