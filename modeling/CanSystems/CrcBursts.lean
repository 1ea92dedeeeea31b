import CanSystems.Crc16
import CanSystems.Lib.Lfsr

/-!
# Bursts

`Crc16` takes a byte in at once and then shifts eight times, which is the same as
taking its bits in one by one, the most significant first. So two strings that
differ inside a window of sixteen bits, in the order they are taken in, have
different checksums.
-/

namespace CanSystems

namespace Crc16

def bitsOf (value : UInt8) : List Bool := (List.range 8).map fun i => value.toBitVec.getLsbD (7 - i)

def bits (values : List UInt8) : List Bool := values.flatMap bitsOf

@[simp] theorem length_bitsOf (value : UInt8) : (bitsOf value).length = 8 := by
  simp [bitsOf]

theorem bits_cons (value : UInt8) (values : List UInt8) : bits (value :: values) = bitsOf value ++ bits values :=
    rfl

theorem bits_append (xs ys : List UInt8) : bits (xs ++ ys) = bits xs ++ bits ys := List.flatMap_append

theorem msb_iff (crc : UInt16) : crc &&& 0x8000 ≠ 0 ↔ crc.toBitVec.msb = true := by
  have hbit : (crc &&& 0x8000).toBitVec = if crc.toBitVec.getLsbD 15 then BitVec.twoPow 16 15 else 0 := by
    rw [UInt16.toBitVec_and]
    exact BitVec.and_twoPow crc.toBitVec 15
  rw [Lfsr.msb_eq_getLsbD, ne_eq, ← UInt16.toBitVec_inj, hbit]
  cases crc.toBitVec.getLsbD 15 <;> simp

theorem toBitVec_shift (polynomial crc : UInt16) :
    (shift polynomial crc).toBitVec = Lfsr.shift polynomial.toBitVec crc.toBitVec := by
  unfold shift Lfsr.shift
  by_cases hmsb : crc.toBitVec.msb = true
  · rw [if_pos ((msb_iff crc).mpr hmsb), if_pos hmsb]
    simp
  · rw [if_neg (mt (msb_iff crc).mp hmsb), if_neg hmsb]
    simp

theorem toBitVec_iterate (polynomial crc : UInt16) (n : ℕ) :
    ((shift polynomial)^[n] crc).toBitVec = (Lfsr.shift polynomial.toBitVec)^[n] crc.toBitVec := by
  induction n generalizing crc with
  | zero => rfl
  | succ n ih => rw [Function.iterate_succ_apply, ih, toBitVec_shift, Function.iterate_succ_apply]

theorem pack_bitsOf (value : UInt8) : (value.toUInt16 <<< 8).toBitVec = Lfsr.pack (bitsOf value) := by
  have hall : ∀ n : Fin 256, ((UInt8.ofFin n).toUInt16 <<< 8).toBitVec = Lfsr.pack (bitsOf (UInt8.ofFin n)) := by
    decide +kernel
  exact hall value.toFin

theorem toBitVec_nextByte (polynomial crc : UInt16) (value : UInt8) :
    (nextByte polynomial crc value).toBitVec = Lfsr.feedAll polynomial.toBitVec crc.toBitVec (bitsOf value) := by
  rw [nextByte, toBitVec_iterate, UInt16.toBitVec_xor, pack_bitsOf, Lfsr.feedAll_eq_iterate (by simp),
    length_bitsOf]

theorem toBitVec_foldl (polynomial crc : UInt16) (values : List UInt8) :
    (values.foldl (nextByte polynomial) crc).toBitVec = Lfsr.feedAll polynomial.toBitVec crc.toBitVec
    (bits values) := by
  induction values generalizing crc with
  | nil => rfl
  | cons value values ih =>
    rw [List.foldl_cons, ih, toBitVec_nextByte, bits_cons, Lfsr.feedAll_append]

theorem bitsOf_inj {x y : UInt8} (h : bitsOf x = bitsOf y) : x = y := by
  apply UInt8.toBitVec_inj.mp
  apply BitVec.eq_of_getLsbD_eq
  intro i hi
  have hbits := (List.map_inj_left.mp h) (7 - i) (List.mem_range.mpr (by omega))
  rwa [show 7 - (7 - i) = i by omega] at hbits

theorem bits_inj {xs ys : List UInt8} (h : bits xs = bits ys) : xs = ys := by
  induction xs generalizing ys with
  | nil =>
    cases ys with
    | nil => rfl
    | cons y ys => simp [bits, bitsOf] at h
  | cons x xs ih =>
    cases ys with
    | nil => simp [bits, bitsOf] at h
    | cons y ys =>
      rw [bits_cons, bits_cons] at h
      obtain ⟨hfirst, hrest⟩ := List.append_inj h (by rw [length_bitsOf, length_bitsOf])
      rw [bitsOf_inj hfirst, ih hrest]

def DifferInBurst (xs ys : List UInt8) : Prop := Lfsr.DifferWithin 16 (bits xs) (bits ys)

theorem DifferInBurst.append {xs ys : List UInt8} (h : DifferInBurst xs ys) (front : List UInt8) :
    DifferInBurst (front ++ xs) (front ++ ys) := by
  obtain ⟨before, window, window', after, hxs, hys, hlen, hshort⟩ := h
  refine ⟨bits front ++ before, window, window', after, ?_, ?_, hlen, hshort⟩
  · rw [bits_append, hxs]
    simp only [List.append_assoc]
  · rw [bits_append, hys]
    simp only [List.append_assoc]

theorem calculate_ne {xs ys : List UInt8} (hburst : DifferInBurst xs ys) (hne : xs ≠ ys) (initValue : UInt16) :
    calculate xs initValue defaultPolynomial ≠ calculate ys initValue defaultPolynomial := by
  intro heq
  have hbits := congrArg UInt16.toBitVec heq
  simp only [calculate, next, get, init] at hbits
  rw [toBitVec_foldl, toBitVec_foldl] at hbits
  exact Lfsr.feedAll_ne (by decide) hburst (fun h => hne (bits_inj h)) _ hbits

theorem foldl_next {initValue_ polynomial_ : UInt16} (c : Crc16 initValue_ polynomial_)
    (chunks : List (List UInt8)) :
    chunks.foldl next c = c.next chunks.flatten := by
  induction chunks generalizing c with
  | nil => rfl
  | cons chunk chunks ih => rw [List.foldl_cons, ih, List.flatten_cons, next_append]

end Crc16

end CanSystems
