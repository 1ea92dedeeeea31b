import CanSystems.Base64

/-!
# Base64 texts

What the decoder makes of a text, block by block up to the first padding
character, against the standard reading of it: the values of the characters are
put together, and eight bits of them at a time are a byte. A well-formed text is
padded to whole blocks with at most two characters at its end.
-/

namespace CanSystems

namespace Base64

def body (text : List UInt8) : List UInt8 := text.takeWhile (· != pad)

def InAlphabet (c : UInt8) : Prop := lookupTable c ≠ 255

instance (c : UInt8) : Decidable (InAlphabet c) := inferInstanceAs (Decidable (_ ≠ _))

instance (chars : List UInt8) : Decidable (∀ c ∈ chars, InAlphabet c) := List.decidableBAll _ _

/-- Whole blocks of characters of the alphabet, the last one padded with at most two characters. -/
structure WellFormed (text : List UInt8) : Prop where
  padded : ∃ k ≤ 2, text = body text ++ List.replicate k pad
  alphabet : ∀ c ∈ body text, InAlphabet c
  blocks : text.length % 4 = 0

/-- Six bits of each value, eight of them a byte; what is left over is dropped. -/
def regroup : List Nat → List UInt8
  | x :: y :: z :: w :: rest =>
    UInt8.ofNat (x * 4 + y / 16) :: UInt8.ofNat (y % 16 * 16 + z / 4) :: UInt8.ofNat
      (z % 4 * 64 + w) :: regroup rest
  | [x, y, z] => [UInt8.ofNat (x * 4 + y / 16), UInt8.ofNat (y % 16 * 16 + z / 4)]
  | [x, y] => [UInt8.ofNat (x * 4 + y / 16)]
  | _ => []

def standardDecode (text : List UInt8) : List UInt8 := regroup ((body text).map fun c => (lookupTable c).toNat)

/-! ## The decoder by blocks -/

/-- The bytes of the blocks up to the first that cannot be read, and whether there is none. -/
def readBlocks : List UInt8 → List UInt8 × Bool
  | a :: b :: c :: d :: rest =>
    match processFullBlock [a, b, c, d] with
    | none => ([], false)
    | some bytes => (bytes ++ (readBlocks rest).1, (readBlocks rest).2)
  | [] => ([], true)
  | part =>
    match processPartialBlock part with
    | none => ([], false)
    | some bytes => (bytes, true)

theorem body_no_pad {text : List UInt8} {c : UInt8} (h : c ∈ body text) : c ≠ pad := by
  simpa using List.mem_takeWhile_imp h

theorem decodeLoop_body (text : List UInt8) :
    ∀ A4 output, decodeLoop A4 output text = decodeLoop A4 output (body text) := by
  induction text with
  | nil => exact fun _ _ => rfl
  | cons c text ih =>
    intro A4 output
    by_cases hc : c = pad
    · subst hc
      rw [decodeLoop_pad]
      rfl
    · rw [show body (c :: text) = c :: body text by simp [body, hc], decodeLoop, decodeLoop, if_neg hc, if_neg hc]
      split
      · split
        · rfl
        · exact ih _ _
      · exact ih _ _

theorem decodeLoop_part {part : List UInt8} (hpart : ∀ c ∈ part, c ≠ pad) (hne : part ≠ []) (hlen : part.length ≤ 3)
    (output : List UInt8) : decodeLoop [] output part = (processPartialBlock part).map (output ++ ·) := by
  have hread := decodeLoop_append part hpart [] (by simpa using hlen) output []
  rw [List.append_nil, List.nil_append] at hread
  rw [hread, decodeLoop, if_neg hne]

theorem decodeLoop_four {a b c d : UInt8} (hpad : ∀ v ∈ [a, b, c, d], v ≠ pad) (output rest : List UInt8) :
    decodeLoop [] output (a :: b :: c :: d :: rest) =
      match processFullBlock [a, b, c, d] with
      | none => none
      | some bytes => decodeLoop [] (output ++ bytes) rest := by
  have hread := decodeLoop_append [a, b, c] (fun v hv => hpad v (by simp at hv ⊢; tauto)) [] (by simp) output
    (d :: rest)
  simp only [List.cons_append, List.nil_append] at hread
  rw [hread, decodeLoop, if_neg (hpad d (by simp)), if_pos (by rfl)]
  rfl

theorem part_length {part : List UInt8} (h : ∀ a b c d rest, part = a :: b :: c :: d :: rest → False) :
    part.length ≤ 3 := by
  match part, h with
  | [], _ => simp
  | [_], _ => simp
  | [_, _], _ => simp
  | [_, _, _], _ => simp
  | a :: b :: c :: d :: rest, h => exact absurd rfl (h a b c d rest)

theorem decodeLoop_blocks {chars : List UInt8} (hchars : ∀ c ∈ chars, c ≠ pad) (output : List UInt8) :
    decodeLoop [] output chars = if (readBlocks chars).2 then some (output ++ (readBlocks chars).1) else none := by
  induction chars using readBlocks.induct generalizing output with
  | case1 a b c d rest hblock =>
    rw [decodeLoop_four (fun v hv => hchars v (by simp at hv ⊢; tauto)), readBlocks, hblock]
    rfl
  | case2 a b c d rest bytes hblock ih =>
    rw [decodeLoop_four (fun v hv => hchars v (by simp at hv ⊢; tauto)), readBlocks, hblock]
    simp only
    rw [ih (fun v hv => hchars v (by simp at hv ⊢; tauto)), List.append_assoc]
  | case3 => simp [readBlocks, decodeLoop]
  | case4 part hfour hnil hblock =>
    rw [decodeLoop_part hchars hnil (part_length hfour), readBlocks.eq_3 part hfour hnil, hblock]
    rfl
  | case5 part hfour hnil bytes hblock =>
    rw [decodeLoop_part hchars hnil (part_length hfour), readBlocks.eq_3 part hfour hnil, hblock]
    rfl

theorem decodeLoop_eq (text : List UInt8) :
    decodeLoop [] [] text = if (readBlocks (body text)).2 then some (readBlocks (body text)).1 else none := by
  rw [decodeLoop_body, decodeLoop_blocks fun c hc => body_no_pad hc]
  rfl

/-! ## Texts of the alphabet -/

theorem lookup_lt {c : UInt8} (h : InAlphabet c) : (lookupTable c).toNat < 64 ∧ c ≠ 0 :=
  (by decide +kernel : ∀ n : Fin 256, lookupTable (UInt8.ofFin n) ≠ 255 →
    (lookupTable (UInt8.ofFin n)).toNat < 64 ∧ UInt8.ofFin n ≠ 0) c.toFin h

theorem fromA4ToA3_eq {x y z w : UInt8} (hy : y.toNat < 64) (hz : z.toNat < 64) :
    fromA4ToA3 [x, y, z, w] = [UInt8.ofNat (x.toNat * 4 + y.toNat / 16),
      UInt8.ofNat (y.toNat % 16 * 16 + z.toNat / 4), UInt8.ofNat (z.toNat % 4 * 64 + w.toNat)] := by
  simp only [fromA4ToA3, List.cons.injEq, and_true]
  refine ⟨?_, ?_, ?_⟩ <;> apply UInt8.toNat_inj.mp
  · rw [toNat_byte0, UInt8.toNat_ofNat']; omega
  · rw [toNat_byte1, UInt8.toNat_ofNat']; omega
  · rw [toNat_byte2, UInt8.toNat_ofNat']

theorem processFullBlock_alphabet {a b c d : UInt8} (h : ∀ v ∈ [a, b, c, d], InAlphabet v) :
    processFullBlock [a, b, c, d] = some (regroup ([a, b, c, d].map fun v => (lookupTable v).toNat)) := by
  have hnone : 255 ∉ [a, b, c, d].map lookupTable := by
    intro hmem
    obtain ⟨v, hv, heq⟩ := List.mem_map.mp hmem
    exact h v hv heq
  unfold processFullBlock
  simp only [hnone, if_false]
  simp only [List.map_cons, List.map_nil]
  rw [fromA4ToA3_eq (lookup_lt (h b (by simp))).1 (lookup_lt (h c (by simp))).1]
  rfl

theorem processPartialBlock_alphabet {part : List UInt8} (hlen : part.length ≤ 3) (h : ∀ v ∈ part, InAlphabet v) :
    processPartialBlock part = some (regroup (part.map fun v => (lookupTable v).toNat)) := by
  have hvalue : ∀ v ∈ part, (if v = 0 then 0 else lookupTable v) = lookupTable v :=
    fun v hv => if_neg (lookup_lt (h v hv)).2
  have hnone : 255 ∉ (part ++ List.replicate (4 - part.length) 0).map fun val => if val = 0 then 0 else
      lookupTable val := by
    rw [List.map_append, List.map_replicate, if_pos rfl, List.map_congr_left hvalue]
    intro hmem
    rcases List.mem_append.mp hmem with hmem | hmem
    · obtain ⟨v, hv, heq⟩ := List.mem_map.mp hmem
      exact h v hv heq
    · exact absurd (List.eq_of_mem_replicate hmem) (by decide)
  unfold processPartialBlock
  simp only [hnone, if_false]
  rw [List.map_append, List.map_replicate, if_pos rfl, List.map_congr_left hvalue]
  have hzero : (0 : UInt8).toNat < 64 := by decide
  match part, hlen, h with
  | [], _, _ => rfl
  | [a], _, _ => rfl
  | [a, b], _, h =>
    have hb := (lookup_lt (h b (by simp))).1
    show some ((fromA4ToA3 [lookupTable a, lookupTable b, 0, 0]).take 1) = _
    rw [fromA4ToA3_eq hb hzero]
    rfl
  | [a, b, c], _, h =>
    have hb := (lookup_lt (h b (by simp))).1
    have hc := (lookup_lt (h c (by simp))).1
    show some ((fromA4ToA3 [lookupTable a, lookupTable b, lookupTable c, 0]).take 2) = _
    rw [fromA4ToA3_eq hb hc]
    rfl

theorem readBlocks_alphabet {chars : List UInt8} (h : ∀ c ∈ chars, InAlphabet c) :
    readBlocks chars = (regroup (chars.map fun c => (lookupTable c).toNat), true) := by
  induction chars using readBlocks.induct with
  | case1 a b c d rest hblock =>
    rw [processFullBlock_alphabet fun v hv => h v (by simp at hv ⊢; tauto)] at hblock
    cases hblock
  | case2 a b c d rest bytes hblock ih =>
    rw [processFullBlock_alphabet fun v hv => h v (by simp at hv ⊢; tauto)] at hblock
    cases hblock
    rw [readBlocks, processFullBlock_alphabet fun v hv => h v (by simp at hv ⊢; tauto)]
    simp only [ih fun v hv => h v (by simp at hv ⊢; tauto)]
    rfl
  | case3 => rfl
  | case4 part hfour hnil hblock =>
    rw [processPartialBlock_alphabet (part_length hfour) h] at hblock
    cases hblock
  | case5 part hfour hnil bytes hblock =>
    rw [processPartialBlock_alphabet (part_length hfour) h] at hblock
    cases hblock
    rw [readBlocks.eq_3 part hfour hnil, processPartialBlock_alphabet (part_length hfour) h]

/-- Three bytes for each four characters, and one less than there are of what is left over. -/
theorem length_regroup (values : List Nat) : (regroup values).length = 3 * values.length / 4 := by
  induction values using regroup.induct with
  | case1 x y z w rest ih =>
    simp only [regroup, List.length_cons, ih]
    omega
  | case2 x y z => simp [regroup]
  | case3 x y => simp [regroup]
  | case4 part h4 h3 h2 =>
    match part, h4, h3, h2 with
    | [], _, _, _ => rfl
    | [_], _, _, _ => simp [regroup]
    | [x, y], _, _, h2 => exact absurd rfl (h2 x y)
    | [x, y, z], _, h3, _ => exact absurd rfl (h3 x y z)
    | x :: y :: z :: w :: rest, h4, _, _ => exact absurd rfl (h4 x y z w rest)

theorem length_standardDecode (text : List UInt8) : (standardDecode text).length = 3 * (body text).length / 4 := by
  rw [standardDecode, length_regroup, List.length_map]

/-! ## The padding at the end -/

theorem text_split (text : List UInt8) : ∃ rest, text = body text ++ rest ∧ (rest = [] ∨ ∃ r, rest = pad :: r) ∧
    trailingPads text = trailingPads rest := by
  refine ⟨text.dropWhile (· != pad), List.takeWhile_append_dropWhile.symm, ?_, ?_⟩
  · cases hrest : text.dropWhile (· != pad) with
    | nil => exact Or.inl rfl
    | cons c r =>
      have hhead := List.head_dropWhile_not (· != pad)
        (show text.dropWhile (· != pad) ≠ [] by rw [hrest]; exact List.cons_ne_nil _ _)
      simp only [hrest, List.head_cons, bne_eq_false_iff_eq] at hhead
      exact Or.inr ⟨r, by rw [hhead]⟩
  · conv_lhs => rw [show text = body text ++ text.dropWhile (· != pad) from List.takeWhile_append_dropWhile.symm]
    exact trailingPads_append_of_ne fun c hc => body_no_pad hc

/-- What ends in a padding character and begins with one is padding only, or holds another character and its first
one besides those at its end. -/
theorem trailingPads_cons (r : List UInt8) :
    pad :: r = List.replicate (trailingPads (pad :: r)) pad ∨ trailingPads (pad :: r) + 2 ≤ (pad :: r).length := by
  rw [trailingPads, List.reverse_cons, List.takeWhile_append]
  have hle : (r.reverse.takeWhile (· == pad)).length ≤ r.reverse.length := (List.takeWhile_sublist _).length_le
  split
  · rename_i hall
    left
    have hwhole : r.reverse.takeWhile (· == pad) = r.reverse :=
      (List.takeWhile_prefix _).eq_of_length hall
    have hpads : ∀ c ∈ r, c = pad := by
      intro c hc
      have hmem : c ∈ r.reverse.takeWhile (· == pad) := by
        rw [hwhole]
        exact List.mem_reverse.mpr hc
      simpa using List.mem_takeWhile_imp hmem
    have hr : r = List.replicate r.length pad := List.eq_replicate_iff.mpr ⟨rfl, hpads⟩
    rw [List.length_append, List.length_reverse]
    conv_lhs => rw [hr]
    rfl
  · rename_i hnot
    rw [List.length_reverse] at hle hnot
    right
    rw [List.length_cons]
    omega

/-- The characters before the first padding character and the padding at the end are all of the text, or they
leave the first padding character and another character between them. -/
theorem body_trailingPads (text : List UInt8) :
    text = body text ++ List.replicate (trailingPads text) pad ∨ (body text).length + trailingPads text + 2 ≤
      text.length := by
  obtain ⟨rest, hsplit, hrest, hpads⟩ := text_split text
  rcases hrest with rfl | ⟨r, rfl⟩
  · left
    rw [hpads]
    exact hsplit
  · have hlen := congrArg List.length hsplit
    rw [List.length_append] at hlen
    rcases trailingPads_cons r with hall | hmore
    · left
      rw [hpads, ← hall]
      exact hsplit
    · right
      omega

theorem trailingPads_replicate (k : Nat) : trailingPads (List.replicate k pad) = k := by
  have hall : (List.replicate k pad).takeWhile (· == pad) = List.replicate k pad :=
    List.takeWhile_eq_self_iff.mpr fun c hc => by simp [List.eq_of_mem_replicate hc]
  rw [trailingPads, List.reverse_replicate, hall, List.length_replicate]

theorem wellFormed_iff (text : List UInt8) : WellFormed text ↔
    (body text).length + trailingPads text = text.length ∧ trailingPads text ≤ 2 ∧
      (∀ c ∈ body text, InAlphabet c) ∧ text.length % 4 = 0 := by
  constructor
  · rintro ⟨⟨k, hk, htext⟩, halphabet, hblocks⟩
    have hpads : trailingPads text = k := by
      rw [htext, trailingPads_append_of_ne fun c hc => body_no_pad hc, trailingPads_replicate]
    have hlen := congrArg List.length htext
    rw [List.length_append, List.length_replicate] at hlen
    exact ⟨by omega, by omega, halphabet, hblocks⟩
  · rintro ⟨hlen, hpads, halphabet, hblocks⟩
    rcases body_trailingPads text with htext | hmore
    · exact ⟨⟨_, hpads, htext⟩, halphabet, hblocks⟩
    · omega

/-! ## The encoder of the device -/

def encodedLength (plainLength : UInt32) : UInt32 := (plainLength + 2 - (plainLength + 2) % 3) / 3 * 4

/-- The characters of the bytes that are left, the last block filled up with zeros and padded. -/
def encodeTail : List UInt8 → List UInt8
  | [a] => ((fromA3ToA4 a 0 0).map alphabet).take 2 ++ List.replicate 2 pad
  | [a, b] => ((fromA3ToA4 a b 0).map alphabet).take 3 ++ List.replicate 1 pad
  | _ => []

/-- The loop over the input: `A3` holds the bytes of the block being read. -/
def encodeLoop (A3 output : List UInt8) : List UInt8 → List UInt8
  | [] => output ++ encodeTail A3
  | byte :: input =>
    match A3 with
    | [a, b] => encodeLoop [] (output ++ (fromA3ToA4 a b byte).map alphabet) input
    | _ => encodeLoop (A3 ++ [byte]) output input

def encodeBase64 (input : List UInt8) (outputLength : UInt32) : List UInt8 :=
  if outputLength < encodedLength (UInt32.ofNat input.length) then [] else
  let output := encodeLoop [] [] input
  if outputLength.toNat ≤ output.length then [] else output

theorem encodeLoop_eq (input : List UInt8) (output : List UInt8) :
    encodeLoop [] output input = output ++ b64encode input := by
  induction input using b64encode.induct generalizing output with
  | case1 => rfl
  | case2 a => rfl
  | case3 a b => rfl
  | case4 a b c rest ih =>
    rw [encodeLoop, List.nil_append, encodeLoop, List.singleton_append, encodeLoop, ih, b64encode,
      List.append_assoc]
    all_goals simp

/-- What is encoded is whole blocks of the alphabet, with the padding of its length. -/
theorem b64encode_padded (bytes : List UInt8) :
    ∃ chars, b64encode bytes = chars ++ List.replicate ((3 - bytes.length % 3) % 3) pad ∧ ∀ c ∈ chars,
      InAlphabet c := by
  have hmem : ∀ {a b c v : UInt8}, v ∈ (fromA3ToA4 a b c).map alphabet → InAlphabet v := by
    intro a b c v hv
    obtain ⟨w, hw, rfl⟩ := List.mem_map.mp hv
    have hlt := fromA3ToA4_lt hw
    unfold InAlphabet
    rw [(lookup_alphabet hlt).1]
    rintro rfl
    exact absurd hlt (by decide)
  induction bytes using b64encode.induct with
  | case1 => exact ⟨[], rfl, fun c hc => by cases hc⟩
  | case2 a => exact ⟨_, rfl, fun c hc => hmem (List.mem_of_mem_take hc)⟩
  | case3 a b => exact ⟨_, rfl, fun c hc => hmem (List.mem_of_mem_take hc)⟩
  | case4 a b c rest ih =>
    obtain ⟨chars, hchars, hall⟩ := ih
    refine ⟨(fromA3ToA4 a b c).map alphabet ++ chars, ?_, ?_⟩
    · rw [b64encode, hchars, List.append_assoc, List.length_cons, List.length_cons, List.length_cons,
        show (rest.length + 1 + 1 + 1) % 3 = rest.length % 3 by omega]
    · intro v hv
      rcases List.mem_append.mp hv with hv | hv
      · exact hmem hv
      · exact hall v hv

theorem inAlphabet_ne_pad {c : UInt8} (h : InAlphabet c) : c ≠ pad := by
  rintro rfl
  exact h (by decide)

theorem body_append_pads {chars : List UInt8} (h : ∀ c ∈ chars, c ≠ pad) (k : Nat) :
    body (chars ++ List.replicate k pad) = chars := by
  have hall : chars.takeWhile (· != pad) = chars := List.takeWhile_eq_self_iff.mpr (by simpa using h)
  rw [body, List.takeWhile_append, hall, if_pos rfl]
  cases k with
  | zero => simp
  | succ k => simp [List.replicate_succ]

theorem b64encode_wellFormed (bytes : List UInt8) : WellFormed (b64encode bytes) := by
  obtain ⟨chars, hchars, hall⟩ := b64encode_padded bytes
  have hbody : body (b64encode bytes) = chars := by
    rw [hchars]
    exact body_append_pads (fun c hc => inAlphabet_ne_pad (hall c hc)) _
  refine ⟨⟨(3 - bytes.length % 3) % 3, by omega, by rw [hbody]; exact hchars⟩, by rw [hbody]; exact hall, ?_⟩
  rw [length_b64encode]
  exact Nat.mul_mod_right _ _

/-! ## The round trip -/

/-- With room for the text and its end, and for the bytes and theirs, the encoder gives a well-formed text of the
length foretold, and the bytes come back from it, as many as foretold. -/
def RoundTrips (input : List UInt8) : Prop :=
  ∀ textRoom bytesRoom : UInt32, (encodedLength (UInt32.ofNat input.length)).toNat < textRoom.toNat →
    input.length < bytesRoom.toNat →
      let text := encodeBase64 input textRoom
      text.length = (encodedLength (UInt32.ofNat input.length)).toNat ∧ WellFormed text ∧
        (decodedLength text).toNat = input.length ∧ decodeBase64 text bytesRoom = input

theorem toNat_encodedLength {n : Nat} (h : n < 2 ^ 29) :
    (encodedLength (UInt32.ofNat n)).toNat = 4 * ((n + 2) / 3) := by
  have hn : (UInt32.ofNat n).toNat = n := UInt32.toNat_ofNat_of_lt' (by simp only [UInt32.size]; omega)
  have hplus : (UInt32.ofNat n + 2).toNat = n + 2 := by
    rw [UInt32.toNat_add, hn]
    exact Nat.mod_eq_of_lt (by change n + 2 < 2 ^ 32; omega)
  have hmod : ((UInt32.ofNat n + 2) % 3).toNat = (n + 2) % 3 := by
    rw [UInt32.toNat_mod, hplus]
    rfl
  have hsub : (UInt32.ofNat n + 2 - (UInt32.ofNat n + 2) % 3).toNat = n + 2 - (n + 2) % 3 := by
    rw [UInt32.toNat_sub_of_le _ _ (by rw [UInt32.le_iff_toNat_le, hplus, hmod]; exact Nat.mod_le _ _), hplus, hmod]
  rw [encodedLength, UInt32.toNat_mul, UInt32.toNat_div, hsub]
  change (n + 2 - (n + 2) % 3) / 3 * 4 % 2 ^ 32 = _
  omega

theorem encodeBase64_eq {input : List UInt8} {textRoom : UInt32} (h : input.length < 2 ^ 29)
    (hroom : (encodedLength (UInt32.ofNat input.length)).toNat < textRoom.toNat) :
    encodeBase64 input textRoom = b64encode input := by
  have hlt : ¬ textRoom < encodedLength (UInt32.ofNat input.length) := by
    rw [UInt32.lt_iff_toNat_lt]
    omega
  have hlen := length_b64encode input
  rw [toNat_encodedLength h] at hroom
  rw [encodeBase64, if_neg hlt, encodeLoop_eq, List.nil_append]
  exact if_neg (by omega)

/-- One byte short of 2 ^ 29 the text is so long that six bits of each of its characters are more than 32 bits
count. -/
theorem decodedLength_wraps {input : List UInt8} (h : input.length = 2 ^ 29 - 1) :
    (decodedLength (b64encode input)).toNat = 2 ^ 32 - 1 := by
  have hpads : trailingPads (b64encode input) = 2 := by
    rw [trailingPads_b64encode, h]
    rfl
  have hlen : (b64encode input).length = 715827884 := by
    rw [length_b64encode, h]
    rfl
  rw [decodedLength, hpads, hlen]
  rfl

theorem round_trips_iff {input : List UInt8} (_ : input ≠ []) (h : input.length < 2 ^ 29) :
    RoundTrips input ↔ input.length ≠ 2 ^ 29 - 1 := by
  constructor
  · intro hround hlast
    have hroom : (encodedLength (UInt32.ofNat input.length)).toNat < (4294967295 : UInt32).toNat := by
      rw [toNat_encodedLength h, hlast]
      decide
    obtain ⟨-, -, hlen, -⟩ := hround 4294967295 4294967295 hroom (by rw [hlast]; decide)
    rw [encodeBase64_eq h hroom, decodedLength_wraps hlast, hlast] at hlen
    exact absurd hlen (by decide)
  · intro hlast textRoom bytesRoom htext hbytes
    have hsmall : input.length < 2 ^ 29 - 1 := by omega
    have heq := encodeBase64_eq h htext
    simp only [heq]
    refine ⟨?_, b64encode_wellFormed input, ?_, decodeBase64_b64encode hsmall hbytes⟩
    · rw [length_b64encode, toNat_encodedLength h]
    · rw [decodedLength_b64encode hsmall]
      exact UInt32.toNat_ofNat_of_lt' (by simp only [UInt32.size]; omega)

theorem round_trips_man : RoundTrips [0x4D, 0x61, 0x6E] := (round_trips_iff (by decide) (by decide)).mpr (by decide)

theorem round_trip_wraps :
    List.replicate (2 ^ 29 - 1) (0 : UInt8) ≠ [] ∧ (List.replicate (2 ^ 29 - 1) (0 : UInt8)).length < 2 ^ 29 ∧
      ¬ RoundTrips (List.replicate (2 ^ 29 - 1) 0) := by
  have hlen : (List.replicate (2 ^ 29 - 1) (0 : UInt8)).length = 2 ^ 29 - 1 := List.length_replicate
  have hlt : (List.replicate (2 ^ 29 - 1) (0 : UInt8)).length < 2 ^ 29 := by
    rw [hlen]
    decide
  refine ⟨fun h => ?_, hlt, fun hround => ?_⟩
  · rw [h] at hlen
    exact absurd hlen (by decide)
  have hroom : (encodedLength (UInt32.ofNat (List.replicate (2 ^ 29 - 1) (0 : UInt8)).length)).toNat <
      (4294967295 : UInt32).toNat := by
    rw [toNat_encodedLength hlt, hlen]
    decide
  obtain ⟨-, -, hback, -⟩ := hround 4294967295 4294967295 hroom (by rw [hlen]; decide)
  rw [encodeBase64_eq hlt hroom, decodedLength_wraps hlen, hlen] at hback
  exact absurd hback (by decide)

end Base64

end CanSystems
