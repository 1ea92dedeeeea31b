import Mathlib.Logic.Function.Iterate

/-!
# Shift registers with linear feedback

A register takes bits in at its top and divides what it has taken by its
polynomial, whose leading term is left out. Everything it does is linear in
exclusive or. Where the polynomial has a constant term no shift loses anything,
so the bits of a window that is no longer than the register never cancel out,
however many zeros follow them.
-/

namespace Lfsr

variable {w : ℕ} {poly : BitVec w}

def shift (poly c : BitVec w) : BitVec w := if c.msb then (c <<< 1) ^^^ poly else c <<< 1

def top (b : Bool) : BitVec w := if b then BitVec.twoPow w (w - 1) else 0

def feed (poly c : BitVec w) (b : Bool) : BitVec w := shift poly (c ^^^ top b)

def feedAll (poly c : BitVec w) (bits : List Bool) : BitVec w := bits.foldl (feed poly) c

@[simp] theorem feedAll_nil (c : BitVec w) : feedAll poly c [] = c := rfl

@[simp] theorem feedAll_cons (c : BitVec w) (b : Bool) (bits : List Bool) :
    feedAll poly c (b :: bits) = feedAll poly (feed poly c b) bits := rfl

theorem feedAll_append (c : BitVec w) (bits more : List Bool) :
    feedAll poly c (bits ++ more) = feedAll poly (feedAll poly c bits) more := List.foldl_append

/-! ## Linearity -/

theorem xor_xor_xor (a b c d : BitVec w) : (a ^^^ b) ^^^ (c ^^^ d) = (a ^^^ c) ^^^ (b ^^^ d) := by
  ac_rfl

theorem zero_xor (c : BitVec w) : 0 ^^^ c = c := BitVec.zero_xor

theorem shift_xor (c d : BitVec w) : shift poly (c ^^^ d) = shift poly c ^^^ shift poly d := by
  unfold shift
  rw [BitVec.msb_xor, BitVec.shiftLeft_xor_distrib]
  cases c.msb <;> cases d.msb
  · simp
  · simp only [Bool.false_xor, if_true, Bool.false_eq_true, if_false, BitVec.xor_assoc]
  · simp only [Bool.xor_false, if_true, Bool.false_eq_true, if_false]
    ac_rfl
  · simp only [Bool.xor_self, Bool.false_eq_true, if_false, if_true]
    rw [xor_xor_xor, BitVec.xor_self, BitVec.xor_zero]

theorem shift_zero : shift poly 0 = 0 := by
  simp [shift]

theorem top_xor (a b : Bool) : (top (a ^^ b) : BitVec w) = top a ^^^ top b := by
  cases a <;> cases b <;> simp [top]

theorem feed_xor (c d : BitVec w) (a b : Bool) :
    feed poly (c ^^^ d) (a ^^ b) = feed poly c a ^^^ feed poly d b := by
  rw [feed, feed, feed, top_xor, xor_xor_xor, shift_xor]

theorem feedAll_xor {xs ys : List Bool} (hlen : xs.length = ys.length) (c d : BitVec w) :
    feedAll poly (c ^^^ d) (List.zipWith (· ^^ ·) xs ys) = feedAll poly c xs ^^^ feedAll poly d ys := by
  induction xs generalizing ys c d with
  | nil =>
    obtain rfl : ys = [] := List.length_eq_zero_iff.mp hlen.symm
    rfl
  | cons x xs ih =>
    cases ys with
    | nil => cases hlen
    | cons y ys =>
      rw [List.zipWith_cons_cons, feedAll_cons, feed_xor, ih (Nat.succ.inj hlen), feedAll_cons, feedAll_cons]

/-! ## Nothing is lost -/

theorem msb_eq_getLsbD (c : BitVec w) : c.msb = c.getLsbD (w - 1) := BitVec.msb_eq_getLsbD_last c

theorem shift_eq_zero (hodd : poly.getLsbD 0 = true) {c : BitVec w} (h : shift poly c = 0) : c = 0 := by
  have hw : 0 < w := by
    by_contra hzero
    rw [BitVec.getLsbD_of_ge poly 0 (by omega)] at hodd
    cases hodd
  have hlow : (shift poly c).getLsbD 0 = c.msb := by
    unfold shift
    cases c.msb <;> simp [hodd, hw]
  have hmsb : c.msb = false := by rw [← hlow, h]; simp
  have hrest : c <<< 1 = 0 := by simpa [shift, hmsb] using h
  apply BitVec.eq_of_getLsbD_eq
  intro i hi
  by_cases hlast : i = w - 1
  · rw [hlast, ← msb_eq_getLsbD, hmsb]
    simp
  · have hbit := congrArg (fun x => x.getLsbD (i + 1)) hrest
    simp only [BitVec.getLsbD_shiftLeft] at hbit
    simpa [show i + 1 < w by omega] using hbit

theorem iterate_shift_eq_zero (hodd : poly.getLsbD 0 = true) (n : ℕ) {c : BitVec w} (h : (shift poly)^[n] c = 0) :
    c = 0 := by
  induction n generalizing c with
  | zero => exact h
  | succ n ih => exact shift_eq_zero hodd (ih h)

theorem feed_false (c : BitVec w) : feed poly c false = shift poly c := by
  simp [feed, top]

theorem feedAll_zeros (n : ℕ) (c : BitVec w) : feedAll poly c (List.replicate n false) = (shift poly)^[n] c := by
  induction n generalizing c with
  | zero => rfl
  | succ n ih => rw [List.replicate_succ, feedAll_cons, feed_false, ih, Function.iterate_succ_apply]

theorem iterate_shift_zero (n : ℕ) : (shift poly)^[n] 0 = 0 := by
  induction n with
  | zero => rfl
  | succ n ih => rw [Function.iterate_succ_apply, shift_zero, ih]

/-! ## A window of bits -/

def pack : List Bool → BitVec w
  | [] => 0
  | b :: bits => top b ^^^ (pack bits >>> 1)

theorem getLsbD_top {i : ℕ} (hi : i + 1 < w) (b : Bool) : (top b : BitVec w).getLsbD i = false := by
  cases b
  · simp [top]
  · simp only [top, if_true, BitVec.getLsbD_twoPow]
    simp only [Bool.and_eq_false_iff, decide_eq_false_iff_not]
    omega

theorem getLsbD_pack {bits : List Bool} {i : ℕ} (hi : i + bits.length < w) :
    (pack bits : BitVec w).getLsbD i = false := by
  induction bits generalizing i with
  | nil => simp [pack]
  | cons b bits ih =>
    rw [List.length_cons] at hi
    rw [pack, BitVec.getLsbD_xor, getLsbD_top (by omega), BitVec.getLsbD_ushiftRight, ih (by omega)]
    rfl

theorem msb_ushiftRight_one (c : BitVec w) : (c >>> 1).msb = false := by
  rw [msb_eq_getLsbD, BitVec.getLsbD_ushiftRight, BitVec.getLsbD_of_ge c _ (by omega)]

theorem shift_ushiftRight {c : BitVec w} (hlow : c.getLsbD 0 = false) : shift poly (c >>> 1) = c := by
  rw [shift, msb_ushiftRight_one, if_neg Bool.false_ne_true]
  apply BitVec.eq_of_getLsbD_eq
  intro i hi
  rw [BitVec.getLsbD_shiftLeft, BitVec.getLsbD_ushiftRight]
  cases i with
  | zero => simp [hlow]
  | succ i => simp [hi, Nat.add_comm]

theorem feedAll_eq_iterate {bits : List Bool} (hlen : bits.length ≤ w) (c : BitVec w) :
    feedAll poly c bits = (shift poly)^[bits.length] (c ^^^ pack bits) := by
  induction bits generalizing c with
  | nil => simp [pack]
  | cons b bits ih =>
    rw [List.length_cons] at hlen
    have hlow : (pack bits : BitVec w).getLsbD 0 = false := getLsbD_pack (by omega)
    rw [feedAll_cons, ih (by omega), List.length_cons, Function.iterate_succ_apply, pack, ← BitVec.xor_assoc,
      shift_xor, shift_ushiftRight hlow]
    rfl

theorem pack_eq_zero {bits : List Bool} (hlen : bits.length ≤ w) (h : (pack bits : BitVec w) = 0) :
    ∀ b ∈ bits, b = false := by
  induction bits with
  | nil => simp
  | cons b bits ih =>
    rw [List.length_cons] at hlen
    have hlow : (pack bits : BitVec w).getLsbD 0 = false := getLsbD_pack (by omega)
    have hfirst : b = false := by
      have hmsb := congrArg BitVec.msb h
      rw [pack, BitVec.msb_xor, msb_ushiftRight_one, Bool.xor_false] at hmsb
      cases b with
      | false => rfl
      | true =>
        rw [msb_eq_getLsbD] at hmsb
        simp [top] at hmsb
        omega
    have hrest : (pack bits : BitVec w) = 0 := by
      rw [pack, hfirst, top, if_neg Bool.false_ne_true, zero_xor] at h
      rw [← @shift_ushiftRight w 0 _ hlow, h, shift_zero]
    intro b' hb'
    rcases List.mem_cons.mp hb' with rfl | hb'
    · exact hfirst
    · exact ih (by omega) hrest b' hb'

/-- Two strings that are the same outside a window of at most `n` places. -/
def DifferWithin (n : ℕ) (xs ys : List Bool) : Prop :=
  ∃ before window window' after, xs = before ++ window ++ after ∧ ys = before ++ window' ++ after ∧
    window.length = window'.length ∧ window.length ≤ n

theorem zipWith_xor_self (xs : List Bool) : List.zipWith (· ^^ ·) xs xs = List.replicate xs.length false := by
  induction xs with
  | nil => rfl
  | cons x xs ih => rw [List.zipWith_cons_cons, ih, Bool.xor_self, List.length_cons, List.replicate_succ]

theorem eq_of_zipWith_xor {xs ys : List Bool} (hlen : xs.length = ys.length)
    (h : ∀ b ∈ List.zipWith (· ^^ ·) xs ys, b = false) : xs = ys := by
  induction xs generalizing ys with
  | nil => exact (List.length_eq_zero_iff.mp hlen.symm).symm
  | cons x xs ih =>
    cases ys with
    | nil => cases hlen
    | cons y ys =>
      rw [List.zipWith_cons_cons] at h
      have hfirst := h _ List.mem_cons_self
      have hrest := ih (Nat.succ.inj hlen) fun b hb => h b (List.mem_cons_of_mem _ hb)
      rw [hrest, bne_eq_false_iff_eq.mp hfirst]

/-- Strings that differ inside a window no longer than the register leave different remainders. -/
theorem feedAll_ne (hodd : poly.getLsbD 0 = true) {xs ys : List Bool} (hwindow : DifferWithin w xs ys)
    (hne : xs ≠ ys)
    (c : BitVec w) : feedAll poly c xs ≠ feedAll poly c ys := by
  obtain ⟨before, window, window', after, rfl, rfl, hlen, hshort⟩ := hwindow
  intro heq
  have hdiff : feedAll poly (0 : BitVec w)
    (List.replicate before.length false ++ List.zipWith (· ^^ ·) window window' ++
      List.replicate after.length false) = 0 := by
    have hxor := @feedAll_xor w poly (before ++ window ++ after) (before ++ window' ++ after)
      (by simp [hlen]) c c
    rw [BitVec.xor_self, heq, BitVec.xor_self, List.zipWith_append (by simp [hlen]), List.zipWith_append rfl,
      zipWith_xor_self, zipWith_xor_self] at hxor
    exact hxor
  have hbits : (List.zipWith (· ^^ ·) window window').length ≤ w := by
    rw [List.length_zipWith]
    omega
  rw [feedAll_append, feedAll_append, feedAll_zeros, feedAll_zeros, iterate_shift_zero, feedAll_eq_iterate hbits,
    zero_xor] at hdiff
  have hpack := iterate_shift_eq_zero hodd _ (iterate_shift_eq_zero hodd _ hdiff)
  exact hne (by rw [eq_of_zipWith_xor hlen (pack_eq_zero hbits hpack)])

end Lfsr
