import Mathlib.Data.List.TakeWhile
import Mathlib.Data.UInt
import Mathlib.Data.Fintype.Basic

/-!
# Base64

The decoder of the device, and the encoder of the sender (the standard one of
its language). What the sender encodes the device decodes (`decodeBase64_b64encode`).
-/

namespace CanSystems

namespace Base64

def pad : UInt8 := 0x3D

def lookupTable (c : UInt8) : UInt8 :=
  if 0x41 ≤ c ∧ c ≤ 0x5A then c - 0x41 else
  if 0x61 ≤ c ∧ c ≤ 0x7A then c - 0x61 + 26 else
  if 0x30 ≤ c ∧ c ≤ 0x39 then c - 0x30 + 52 else
  if c = 0x2B then 62 else
  if c = 0x2F then 63 else 255

def alphabet (v : UInt8) : UInt8 :=
  if v < 26 then v + 0x41 else
  if v < 52 then v - 26 + 0x61 else
  if v < 62 then v - 52 + 0x30 else
  if v = 62 then 0x2B else 0x2F

def fromA4ToA3 : List UInt8 → List UInt8
  | [x, y, z, w] =>
    [(x <<< 2) + ((y &&& 0x30) >>> 4), ((y &&& 0xF) <<< 4) + ((z &&& 0x3C) >>> 2), ((z &&& 0x3) <<< 6) + w]
  | _ => []

def fromA3ToA4 (a b c : UInt8) : List UInt8 :=
  [(a &&& 0xFC) >>> 2, ((a &&& 0x3) <<< 4) + ((b &&& 0xF0) >>> 4), ((b &&& 0xF) <<< 2) + ((c &&& 0xC0) >>> 6),
    c &&& 0x3F]

def processFullBlock (A4 : List UInt8) : Option (List UInt8) :=
  let A4 := A4.map lookupTable
  if 255 ∈ A4 then none else some (fromA4ToA3 A4)

/-- The places no character was read for stay zero, and are not looked up. -/
def processPartialBlock (A4 : List UInt8) : Option (List UInt8) :=
  let count := A4.length
  let A4 := (A4 ++ List.replicate (4 - count) 0).map fun val => if val = 0 then 0 else lookupTable val
  if 255 ∈ A4 then none else some ((fromA4ToA3 A4).take (count - 1))

/-- The loop over the input: `A4` holds the characters of the block being read. -/
def decodeLoop (A4 output : List UInt8) : List UInt8 → Option (List UInt8)
  | [] => if A4 = [] then some output else (processPartialBlock A4).map (output ++ ·)
  | c :: input =>
    if c = pad then (if A4 = [] then some output else (processPartialBlock A4).map (output ++ ·)) else
    if A4.length = 3 then
      match processFullBlock (A4 ++ [c]) with
      | none => none
      | some bytes => decodeLoop [] (output ++ bytes) input
    else decodeLoop (A4 ++ [c]) output input

def trailingPads (input : List UInt8) : Nat := (input.reverse.takeWhile (· == pad)).length

def decodedLength (input : List UInt8) : UInt32 :=
  6 * UInt32.ofNat input.length / 8 - UInt32.ofNat (trailingPads input)

def decodeBase64 (input : List UInt8) (outputLength : UInt32) : List UInt8 :=
  if outputLength < decodedLength input then [] else
  match decodeLoop [] [] input with
  | none => []
  | some output => if outputLength.toNat ≤ output.length then [] else output

theorem length_decodeBase64 {input : List UInt8} {outputLength : UInt32}
    (h : decodeBase64 input outputLength ≠ []) :
    (decodeBase64 input outputLength).length < outputLength.toNat := by
  unfold decodeBase64 at h ⊢
  split at h
  · exact absurd rfl h
  rename_i hroom
  rw [if_neg hroom]
  split at h
  · exact absurd rfl h
  split at h
  · exact absurd rfl h
  rename_i output hdecode hlen
  simp only [if_neg hlen]
  omega

/-- `base64.b64encode`. -/
def b64encode : List UInt8 → List UInt8
  | [] => []
  | [a] => ((fromA3ToA4 a 0 0).map alphabet).take 2 ++ [pad, pad]
  | [a, b] => ((fromA3ToA4 a b 0).map alphabet).take 3 ++ [pad]
  | a :: b :: c :: rest => (fromA3ToA4 a b c).map alphabet ++ b64encode rest

/-! ## One block -/

theorem byte_fields : ∀ n : Fin 256,
    ((UInt8.ofFin n &&& 0xFC) >>> 2).toNat = n.val / 4 ∧ ((UInt8.ofFin n &&& 0x3) <<< 4).toNat = n.val % 4 * 16 ∧
    ((UInt8.ofFin n &&& 0xF0) >>> 4).toNat = n.val / 16 ∧ ((UInt8.ofFin n &&& 0xF) <<< 2).toNat = n.val % 16 * 4 ∧
    ((UInt8.ofFin n &&& 0xC0) >>> 6).toNat = n.val / 64 ∧ (UInt8.ofFin n &&& 0x3F).toNat = n.val % 64 ∧
    (UInt8.ofFin n <<< 2).toNat = n.val * 4 % 256 ∧ ((UInt8.ofFin n &&& 0x30) >>> 4).toNat = n.val / 16 % 4 ∧
    ((UInt8.ofFin n &&& 0xF) <<< 4).toNat = n.val % 16 * 16 ∧
    ((UInt8.ofFin n &&& 0x3C) >>> 2).toNat = n.val / 4 % 16 ∧
    ((UInt8.ofFin n &&& 0x3) <<< 6).toNat = n.val % 4 * 64 := by
  decide +kernel

theorem toNat_hi6 (a : UInt8) : ((a &&& 0xFC) >>> 2).toNat = a.toNat / 4 := (byte_fields a.toFin).1

theorem toNat_lo2_hi4 (a b : UInt8) :
    (((a &&& 0x3) <<< 4) + ((b &&& 0xF0) >>> 4)).toNat = a.toNat % 4 * 16 + b.toNat / 16 := by
  have ha : ((a &&& 0x3) <<< 4).toNat = a.toNat % 4 * 16 := (byte_fields a.toFin).2.1
  have hb : ((b &&& 0xF0) >>> 4).toNat = b.toNat / 16 := (byte_fields b.toFin).2.2.1
  have := b.toNat_lt
  rw [UInt8.toNat_add, ha, hb]
  omega

theorem toNat_lo4_hi2 (b c : UInt8) :
    (((b &&& 0xF) <<< 2) + ((c &&& 0xC0) >>> 6)).toNat = b.toNat % 16 * 4 + c.toNat / 64 := by
  have hb : ((b &&& 0xF) <<< 2).toNat = b.toNat % 16 * 4 := (byte_fields b.toFin).2.2.2.1
  have hc : ((c &&& 0xC0) >>> 6).toNat = c.toNat / 64 := (byte_fields c.toFin).2.2.2.2.1
  have := c.toNat_lt
  rw [UInt8.toNat_add, hb, hc]
  omega

theorem toNat_lo6 (c : UInt8) : (c &&& 0x3F).toNat = c.toNat % 64 := (byte_fields c.toFin).2.2.2.2.2.1

theorem lookup_alphabet {v : UInt8} (h : v.toNat < 64) :
    lookupTable (alphabet v) = v ∧ alphabet v ≠ pad ∧ alphabet v ≠ 0 :=
  (by decide +kernel : ∀ n : Fin 256, n.val < 64 → lookupTable (alphabet (UInt8.ofFin n)) = UInt8.ofFin n ∧
    alphabet (UInt8.ofFin n) ≠ pad ∧ alphabet (UInt8.ofFin n) ≠ 0) v.toFin h

theorem toNat_byte0 (x y : UInt8) :
    ((x <<< 2) + ((y &&& 0x30) >>> 4)).toNat = (x.toNat * 4 + y.toNat / 16 % 4) % 256 := by
  have hx : (x <<< 2).toNat = x.toNat * 4 % 256 := (byte_fields x.toFin).2.2.2.2.2.2.1
  have hy : ((y &&& 0x30) >>> 4).toNat = y.toNat / 16 % 4 := (byte_fields y.toFin).2.2.2.2.2.2.2.1
  rw [UInt8.toNat_add, hx, hy]
  omega

theorem toNat_byte1 (y z : UInt8) :
    (((y &&& 0xF) <<< 4) + ((z &&& 0x3C) >>> 2)).toNat = y.toNat % 16 * 16 + z.toNat / 4 % 16 := by
  have hy : ((y &&& 0xF) <<< 4).toNat = y.toNat % 16 * 16 := (byte_fields y.toFin).2.2.2.2.2.2.2.2.1
  have hz : ((z &&& 0x3C) >>> 2).toNat = z.toNat / 4 % 16 := (byte_fields z.toFin).2.2.2.2.2.2.2.2.2.1
  rw [UInt8.toNat_add, hy, hz]
  omega

theorem toNat_byte2 (z w : UInt8) : (((z &&& 0x3) <<< 6) + w).toNat = (z.toNat % 4 * 64 + w.toNat) % 256 := by
  have hz : ((z &&& 0x3) <<< 6).toNat = z.toNat % 4 * 64 := (byte_fields z.toFin).2.2.2.2.2.2.2.2.2.2
  rw [UInt8.toNat_add, hz]

theorem fromA4ToA3_fromA3ToA4 (a b c : UInt8) : fromA4ToA3 (fromA3ToA4 a b c) = [a, b, c] := by
  have ha := a.toNat_lt
  have hb := b.toNat_lt
  have hc := c.toNat_lt
  simp only [fromA3ToA4, fromA4ToA3, List.cons.injEq, and_true]
  refine ⟨?_, ?_, ?_⟩ <;> apply UInt8.toNat_inj.mp
  · rw [toNat_byte0, toNat_hi6, toNat_lo2_hi4]; omega
  · rw [toNat_byte1, toNat_lo2_hi4, toNat_lo4_hi2]; omega
  · rw [toNat_byte2, toNat_lo4_hi2, toNat_lo6]; omega

theorem fromA3ToA4_lt {a b c v : UInt8} (h : v ∈ fromA3ToA4 a b c) : v.toNat < 64 := by
  have ha := a.toNat_lt
  have hb := b.toNat_lt
  have hc := c.toNat_lt
  simp only [fromA3ToA4, List.mem_cons, List.not_mem_nil, or_false] at h
  rcases h with rfl | rfl | rfl | rfl
  · rw [toNat_hi6]; omega
  · rw [toNat_lo2_hi4]; omega
  · rw [toNat_lo4_hi2]; omega
  · rw [toNat_lo6]; omega

theorem map_lookup_alphabet {values : List UInt8} (h : ∀ v ∈ values, v.toNat < 64) :
    (values.map alphabet).map lookupTable = values ∧ 255 ∉ values := by
  refine ⟨?_, fun h255 => absurd (h 255 h255) (by decide)⟩
  rw [List.map_map]
  exact (List.map_congr_left fun v hv => (lookup_alphabet (h v hv)).1).trans (List.map_id _)

theorem processFullBlock_fromA3ToA4 (a b c : UInt8) :
    processFullBlock ((fromA3ToA4 a b c).map alphabet) = some [a, b, c] := by
  obtain ⟨hmap, h255⟩ := map_lookup_alphabet fun v hv => fromA3ToA4_lt (a := a) (b := b) (c := c) hv
  rw [processFullBlock]
  simp only [hmap, h255, if_false, fromA4ToA3_fromA3ToA4]

theorem processPartialBlock_take (a b c : UInt8) {count : Nat} (hcount : count ≤ 4)
    (hzero : (fromA3ToA4 a b c).drop count = List.replicate (4 - count) 0) :
    processPartialBlock (((fromA3ToA4 a b c).map alphabet).take count) = some ([a, b, c].take (count - 1)) := by
  have hlen : (((fromA3ToA4 a b c).map alphabet).take count).length = count := by simp [fromA3ToA4, hcount]
  have hvalues : ((((fromA3ToA4 a b c).map alphabet).take count) ++ List.replicate (4 - count) 0).map
      (fun val => if val = 0 then 0 else lookupTable val) = fromA3ToA4 a b c := by
    rw [List.map_append, ← List.map_take, List.map_map, List.map_replicate, if_pos rfl, ← hzero]
    conv_rhs => rw [← List.take_append_drop count (fromA3ToA4 a b c)]
    congr 1
    refine (List.map_congr_left fun v hv => ?_).trans (List.map_id _)
    have := lookup_alphabet (fromA3ToA4_lt (List.mem_of_mem_take hv))
    simp [this.1, this.2.2]
  have h255 : 255 ∉ fromA3ToA4 a b c := fun h => absurd (fromA3ToA4_lt h) (by decide)
  rw [processPartialBlock]
  simp only [hlen, hvalues, h255, if_false, fromA4ToA3_fromA3ToA4]

/-! ## The loop -/

theorem decodeLoop_pad (A4 output input : List UInt8) :
    decodeLoop A4 output (pad :: input) = decodeLoop A4 output [] := by
  simp [decodeLoop]

theorem decodeLoop_cons {A4 output input : List UInt8} {c : UInt8} (hc : c ≠ pad) (hA4 : A4.length < 3) :
    decodeLoop A4 output (c :: input) = decodeLoop (A4 ++ [c]) output input := by
  rw [decodeLoop, if_neg hc, if_neg (by omega)]

theorem decodeLoop_append (chars : List UInt8) (hchars : ∀ c ∈ chars, c ≠ pad) :
    ∀ A4 : List UInt8, A4.length + chars.length ≤ 3 → ∀ output input,
      decodeLoop A4 output (chars ++ input) = decodeLoop (A4 ++ chars) output input := by
  induction chars with
  | nil => simp
  | cons c chars ih =>
    intro A4 hlen output input
    rw [List.length_cons] at hlen
    rw [List.cons_append, decodeLoop_cons (hchars c (by simp)) (by omega),
      ih (fun c hc => hchars c (by simp [hc])) _ (by simp; omega)]
    simp

theorem alphabet_ne_pad {a b c v : UInt8} (h : v ∈ (fromA3ToA4 a b c).map alphabet) : v ≠ pad := by
  obtain ⟨w, hw, rfl⟩ := List.mem_map.mp h
  exact (lookup_alphabet (fromA3ToA4_lt hw)).2.1

theorem decodeLoop_block (a b c : UInt8) (output input : List UInt8) :
    decodeLoop [] output ((fromA3ToA4 a b c).map alphabet ++ input) = decodeLoop []
      (output ++ [a, b, c]) input := by
  have hblock := processFullBlock_fromA3ToA4 a b c
  have hpad : ∀ v ∈ (fromA3ToA4 a b c).map alphabet, v ≠ pad := fun v => alphabet_ne_pad
  simp only [fromA3ToA4, List.map_cons, List.map_nil] at hblock hpad ⊢
  generalize alphabet ((a &&& 0xFC) >>> 2) = x at *
  generalize alphabet (((a &&& 0x3) <<< 4) + ((b &&& 0xF0) >>> 4)) = y at *
  generalize alphabet (((b &&& 0xF) <<< 2) + ((c &&& 0xC0) >>> 6)) = z at *
  generalize alphabet (c &&& 0x3F) = w at *
  have hread := decodeLoop_append [x, y, z] (fun v hv => hpad v (by simp at hv ⊢; tauto)) []
    (by simp) output (w :: input)
  simp only [List.cons_append, List.nil_append] at hread ⊢
  rw [hread, decodeLoop, if_neg (hpad w (by simp)), if_pos (by rfl)]
  simp only [List.cons_append, List.nil_append, hblock]

theorem decodeLoop_b64encode (bytes : List UInt8) :
    ∀ output, decodeLoop [] output (b64encode bytes) = some (output ++ bytes) := by
  induction bytes using b64encode.induct with
  | case1 => simp [b64encode, decodeLoop]
  | case2 a =>
    intro output
    have hzero : (fromA3ToA4 a 0 0).drop 2 = List.replicate 2 0 := by rfl
    have hpart := processPartialBlock_take a 0 0 (by decide) hzero
    have hread := decodeLoop_append (((fromA3ToA4 a 0 0).map alphabet).take 2)
      (fun v hv => alphabet_ne_pad (List.mem_of_mem_take hv)) [] (by simp) output [pad, pad]
    rw [b64encode, hread, decodeLoop_pad, decodeLoop, if_neg (by simp [fromA3ToA4]), List.nil_append, hpart]
    rfl
  | case3 a b =>
    intro output
    have hzero : (fromA3ToA4 a b 0).drop 3 = List.replicate 1 0 := by rfl
    have hpart := processPartialBlock_take a b 0 (by decide) hzero
    have hread := decodeLoop_append (((fromA3ToA4 a b 0).map alphabet).take 3)
      (fun v hv => alphabet_ne_pad (List.mem_of_mem_take hv)) [] (by simp) output [pad]
    rw [b64encode, hread, decodeLoop_pad, decodeLoop, if_neg (by simp [fromA3ToA4]), List.nil_append, hpart]
    rfl
  | case4 a b c rest ih =>
    intro output
    rw [b64encode, decodeLoop_block, ih, List.append_assoc]
    rfl

/-! ## Lengths -/

theorem length_b64encode (bytes : List UInt8) : (b64encode bytes).length = 4 * ((bytes.length + 2) / 3) := by
  induction bytes using b64encode.induct with
  | case1 => rfl
  | case2 a => simp [b64encode, fromA3ToA4]
  | case3 a b => simp [b64encode, fromA3ToA4]
  | case4 a b c rest ih =>
    simp only [b64encode, fromA3ToA4, List.map_cons, List.map_nil, List.length_append, List.length_cons,
      List.length_nil, ih]
    omega

theorem trailingPads_append_of_ne {xs ys : List UInt8} (h : ∀ c ∈ xs, c ≠ pad) :
    trailingPads (xs ++ ys) = trailingPads ys := by
  have hxs : xs.reverse.takeWhile (· == pad) = [] := by
    rw [List.takeWhile_eq_nil_iff]
    intro hlen
    simpa using h _ (List.mem_reverse.mp (List.get_mem xs.reverse ⟨0, hlen⟩))
  rw [trailingPads, trailingPads, List.reverse_append, List.takeWhile_append]
  split
  · rename_i hall
    rw [hxs, List.append_nil, hall]
  · rfl

theorem trailingPads_b64encode (bytes : List UInt8) :
    trailingPads (b64encode bytes) = (3 - bytes.length % 3) % 3 := by
  induction bytes using b64encode.induct with
  | case1 => rfl
  | case2 a =>
    rw [b64encode, trailingPads_append_of_ne fun v hv => alphabet_ne_pad (List.mem_of_mem_take hv)]
    rfl
  | case3 a b =>
    rw [b64encode, trailingPads_append_of_ne fun v hv => alphabet_ne_pad (List.mem_of_mem_take hv)]
    rfl
  | case4 a b c rest ih =>
    rw [b64encode, trailingPads_append_of_ne fun v hv => alphabet_ne_pad hv, ih]
    simp only [List.length_cons]
    omega

theorem decodedLength_b64encode {bytes : List UInt8} (h : bytes.length < 2 ^ 29 - 1) :
    decodedLength (b64encode bytes) = UInt32.ofNat bytes.length := by
  apply UInt32.toNat_inj.mp
  rw [decodedLength, trailingPads_b64encode, length_b64encode]
  have hlen : (UInt32.ofNat (4 * ((bytes.length + 2) / 3))).toNat = 4 * ((bytes.length + 2) / 3) :=
    UInt32.toNat_ofNat_of_lt' (by simp only [UInt32.size]; omega)
  have hpads : (UInt32.ofNat ((3 - bytes.length % 3) % 3)).toNat = (3 - bytes.length % 3) % 3 :=
    UInt32.toNat_ofNat_of_lt' (by simp only [UInt32.size]; omega)
  have hbytes : (UInt32.ofNat bytes.length).toNat = bytes.length :=
    UInt32.toNat_ofNat_of_lt' (by simp only [UInt32.size]; omega)
  rw [UInt32.toNat_sub, UInt32.toNat_div, UInt32.toNat_mul, hlen, hpads, hbytes]
  change (2 ^ 32 - _ + (6 * _) % 2 ^ 32 / 8) % 2 ^ 32 = _
  rw [Nat.mod_eq_of_lt (by omega : 6 * (4 * ((bytes.length + 2) / 3)) < 2 ^ 32)]
  omega

theorem decodeBase64_b64encode {bytes : List UInt8} {outputLength : UInt32} (h : bytes.length < 2 ^ 29 - 1)
    (hroom : bytes.length < outputLength.toNat) : decodeBase64 (b64encode bytes) outputLength = bytes := by
  have hlt : ¬ outputLength < UInt32.ofNat bytes.length := by
    rw [UInt32.lt_iff_toNat_lt, UInt32.toNat_ofNat_of_lt' (by simp only [UInt32.size]; omega)]
    omega
  rw [decodeBase64, decodedLength_b64encode h, if_neg hlt, decodeLoop_b64encode]
  simp only [List.nil_append]
  exact if_neg (by omega)

end Base64

end CanSystems
