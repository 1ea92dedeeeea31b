import CanSystems.Base64Text
import CanSystems.Lib.CArray

/-!
# Where the decoder writes

The decoder over an output array with checked writes. The room is compared once
with the length foretold, and again after the bytes are written; the length
foretold counts every padding character at the end, and the loop stops at the
first.
-/

namespace CanSystems

namespace Base64

variable {cap : Nat}

def storePartial (output : CArray UInt8 cap) (decodedLength : Nat) (A4 : List UInt8) :
    Option (Bool × Nat × CArray UInt8 cap) :=
  if A4 = [] then some (true, decodedLength, output) else
  match processPartialBlock A4 with
  | none => some (false, decodedLength, output)
  | some bytes => (output.write decodedLength bytes).map fun output => (true, decodedLength + bytes.length, output)

/-- The loop over the input, each block written as it is read; `none` when a byte falls outside of the array. -/
def storeLoop (output : CArray UInt8 cap) (decodedLength : Nat) (A4 : List UInt8) :
    List UInt8 → Option (Bool × Nat × CArray UInt8 cap)
  | [] => storePartial output decodedLength A4
  | c :: input =>
    if c = pad then storePartial output decodedLength A4 else
    if A4.length = 3 then
      match processFullBlock (A4 ++ [c]) with
      | none => some (false, decodedLength, output)
      | some bytes =>
        (output.write decodedLength bytes).bind fun output => storeLoop output (decodedLength + bytes.length)
          [] input
    else storeLoop output decodedLength (A4 ++ [c]) input

def decodeInto (output : CArray UInt8 cap) (input : List UInt8) (outputLength : UInt32) :
    Option (Nat × CArray UInt8 cap) :=
  if outputLength < decodedLength input then some (0, output) else
  (storeLoop output 0 [] input).bind fun (read, decodedLength, output) =>
    if !read then some (0, output) else
    if outputLength.toNat ≤ decodedLength then some (0, output) else
    (output.write decodedLength [0]).map fun output => (decodedLength, output)

/-! ## The loop in one write -/

/-- Blocks that were read are written at `decodedLength`. -/
def storeBlocks (output : CArray UInt8 cap) (decodedLength : Nat) (blocks : List UInt8 × Bool) :
    Option (Bool × Nat × CArray UInt8 cap) :=
  (output.write decodedLength blocks.1).map fun output => (blocks.2, decodedLength + blocks.1.length, output)

theorem write_nil (output : CArray UInt8 cap) {pos : Nat} (h : pos ≤ cap) : output.write pos [] = some output := by
  rw [CArray.write, dif_pos (by simpa using h)]
  simp

theorem storePartial_eq (output : CArray UInt8 cap) {decodedLength : Nat} (h : decodedLength ≤ cap)
    {A4 : List UInt8}
    (hA4 : A4.length ≤ 3) :
    storePartial output decodedLength A4 = storeBlocks output decodedLength (readBlocks A4) := by
  have hnil := write_nil output h
  by_cases hempty : A4 = []
  · subst hempty
    rw [storePartial, if_pos rfl, storeBlocks, readBlocks, hnil]
    rfl
  · have hfour : ∀ a b c d rest, A4 = a :: b :: c :: d :: rest → False := by
      rintro a b c d rest rfl
      simp only [List.length_cons] at hA4
      omega
    rw [storePartial, if_neg hempty, readBlocks.eq_3 A4 hfour hempty]
    cases hblock : processPartialBlock A4 with
    | none =>
      simp only [storeBlocks, hnil]
      rfl
    | some bytes => rfl

theorem storeLoop_eq (text : List UInt8) : ∀ A4 (output : CArray UInt8 cap) decodedLength, A4.length ≤ 3 →
    decodedLength ≤ cap →
    storeLoop output decodedLength A4 text = storeBlocks output decodedLength (readBlocks (A4 ++ body text)) := by
  induction text with
  | nil =>
    intro A4 output decodedLength hA4 hcap
    rw [storeLoop, storePartial_eq output hcap hA4, body, List.takeWhile_nil, List.append_nil]
  | cons c text ih =>
    intro A4 output decodedLength hA4 hcap
    by_cases hc : c = pad
    · have hbody : body (c :: text) = [] := by simp [body, hc]
      rw [storeLoop, if_pos hc, storePartial_eq output hcap hA4, hbody, List.append_nil]
    have hbody : body (c :: text) = c :: body text := by simp [body, hc]
    rw [storeLoop, if_neg hc, hbody]
    by_cases hthree : A4.length = 3
    · rw [if_pos hthree]
      obtain ⟨x, y, z, rfl⟩ := List.length_eq_three.mp hthree
      simp only [List.cons_append, List.nil_append]
      rw [readBlocks]
      cases hblock : processFullBlock [x, y, z, c] with
      | none =>
        simp only [storeBlocks, write_nil output hcap]
        rfl
      | some bytes =>
        simp only [storeBlocks, CArray.write_append, List.length_append, ← Nat.add_assoc]
        cases hwrite : output.write decodedLength bytes with
        | none => rfl
        | some stored =>
          have hstored := (CArray.write_cells hwrite).1
          rw [Option.bind_some, Option.bind_some, ih [] stored _ (by simp) hstored]
          rfl
    · rw [if_neg hthree, ih _ output decodedLength (by simp; omega) hcap, List.append_assoc]
      rfl

/-! ## How much is written -/

instance (part : List UInt8) : Decidable (∀ v ∈ part, v = 0 ∨ InAlphabet v) := List.decidableBAll _ _

/-- The characters of the blocks up to the first that cannot be read. In the last block a zero passes for the place
of a character that is not there. -/
def readable : List UInt8 → Nat
  | a :: b :: c :: d :: rest => if ∀ v ∈ [a, b, c, d], InAlphabet v then 4 + readable rest else 0
  | part => if ∀ v ∈ part, v = 0 ∨ InAlphabet v then part.length else 0

theorem processFullBlock_length {A4 bytes : List UInt8} (h4 : A4.length = 4)
    (h : processFullBlock A4 = some bytes) :
    bytes.length = 3 ∧ ∀ v ∈ A4, InAlphabet v := by
  simp only [processFullBlock] at h
  split at h
  · cases h
  · rename_i hmem
    cases h
    refine ⟨?_, fun v hv heq => hmem (List.mem_map.mpr ⟨v, hv, heq⟩)⟩
    obtain ⟨a, b, c, d, rfl⟩ := List.length_eq_four.mp h4
    rfl

theorem processFullBlock_none {A4 : List UInt8} (h : processFullBlock A4 = none) : ¬ ∀ v ∈ A4, InAlphabet v := by
  simp only [processFullBlock] at h
  split at h
  · rename_i hmem
    obtain ⟨v, hv, heq⟩ := List.mem_map.mp hmem
    exact fun hall => hall v hv heq
  · cases h

theorem mem_filled {part : List UInt8} :
    255 ∈ (part ++ List.replicate (4 - part.length) 0).map (fun val => if val = 0 then 0 else lookupTable val) ↔
      ¬ ∀ v ∈ part, v = 0 ∨ InAlphabet v := by
  simp only [not_forall]
  constructor
  · intro h
    obtain ⟨v, hv, heq⟩ := List.mem_map.mp h
    by_cases hzero : v = 0
    · rw [if_pos hzero] at heq
      exact absurd heq (by decide)
    · rw [if_neg hzero] at heq
      refine ⟨v, ?_, fun hor => hor.elim hzero fun hin => hin heq⟩
      rcases List.mem_append.mp hv with hv | hv
      · exact hv
      · exact absurd (List.eq_of_mem_replicate hv) hzero
  · rintro ⟨v, hv, hnot⟩
    refine List.mem_map.mpr ⟨v, List.mem_append_left _ hv, ?_⟩
    rw [if_neg fun hzero => hnot (Or.inl hzero)]
    exact Classical.not_not.mp fun hin => hnot (Or.inr hin)

theorem processPartialBlock_length {part bytes : List UInt8} (hlen : part.length ≤ 3)
    (h : processPartialBlock part = some bytes) :
    bytes.length = part.length - 1 ∧ ∀ v ∈ part, v = 0 ∨ InAlphabet v := by
  simp only [processPartialBlock] at h
  split at h
  · cases h
  · rename_i hmem
    cases h
    refine ⟨?_, Classical.not_not.mp fun hnot => hmem (mem_filled.mpr hnot)⟩
    rcases part with _ | ⟨_, _ | ⟨_, _ | ⟨_, _ | ⟨_, rest⟩⟩⟩⟩
    · rfl
    · rfl
    · rfl
    · rfl
    · simp only [List.length_cons] at hlen
      omega

theorem processPartialBlock_none {part : List UInt8} (h : processPartialBlock part = none) :
    ¬ ∀ v ∈ part, v = 0 ∨ InAlphabet v := by
  simp only [processPartialBlock] at h
  split at h
  · rename_i hmem
    exact mem_filled.mp hmem
  · cases h

theorem length_readBlocks (chars : List UInt8) : (readBlocks chars).1.length = 3 * readable chars / 4 := by
  induction chars using readBlocks.induct with
  | case1 a b c d rest hblock =>
    rw [readBlocks, hblock, readable, if_neg (processFullBlock_none hblock)]
    rfl
  | case2 a b c d rest bytes hblock ih =>
    obtain ⟨hlen, hall⟩ := processFullBlock_length rfl hblock
    rw [readBlocks, hblock, readable, if_pos hall]
    simp only [List.length_append, hlen, ih]
    omega
  | case3 => simp [readBlocks, readable]
  | case4 part hfour hnil hblock =>
    rw [readBlocks.eq_3 part hfour hnil, hblock, readable.eq_2 part hfour, if_neg (processPartialBlock_none hblock)]
    rfl
  | case5 part hfour hnil bytes hblock =>
    have hpart := processPartialBlock_length (part_length hfour) hblock
    have hlen := part_length hfour
    rw [readBlocks.eq_3 part hfour hnil, hblock, readable.eq_2 part hfour, if_pos hpart.2]
    have := List.length_pos_iff.mpr hnil
    simp only [hpart.1]
    omega

theorem readBlocks_read {chars : List UInt8} (hzero : 0 ∉ chars) (h : (readBlocks chars).2 = true) :
    ∀ c ∈ chars, InAlphabet c := by
  induction chars using readBlocks.induct with
  | case1 a b c d rest hblock =>
    rw [readBlocks, hblock] at h
    cases h
  | case2 a b c d rest bytes hblock ih =>
    rw [readBlocks, hblock] at h
    obtain ⟨-, hall⟩ := processFullBlock_length rfl hblock
    intro v hv
    rcases List.mem_append.mp (show v ∈ [a, b, c, d] ++ rest from hv) with hv | hv
    · exact hall v hv
    · exact ih (fun hmem => hzero (List.mem_append_right [a, b, c, d] hmem)) h v hv
  | case3 => exact fun c hc => absurd hc List.not_mem_nil
  | case4 part hfour hnil hblock =>
    rw [readBlocks.eq_3 part hfour hnil, hblock] at h
    cases h
  | case5 part hfour hnil bytes hblock =>
    have hpart := processPartialBlock_length (part_length hfour) hblock
    intro v hv
    exact (hpart.2 v hv).resolve_left fun heq => hzero (heq ▸ hv)

/-! ## The bound -/

/-- What the checked decoder returns and leaves in the array is what `decodeBase64` gives. -/
theorem decodeInto_decodeBase64 {output output' : CArray UInt8 cap} {input : List UInt8} {outputLength : UInt32}
    {n : Nat}
    (h : decodeInto output input outputLength = some (n, output')) :
    n = (decodeBase64 input outputLength).length ∧ output'.Starts (decodeBase64 input outputLength) := by
  unfold decodeInto at h
  unfold decodeBase64
  split at h
  · rename_i hlt
    cases h
    rw [if_pos hlt]
    exact ⟨rfl, output.starts_nil⟩
  rename_i hlt
  rw [if_neg hlt, decodeLoop_eq]
  rw [storeLoop_eq input [] output 0 (by simp) (Nat.zero_le _), List.nil_append, storeBlocks] at h
  cases hwrite : output.write 0 (readBlocks (body input)).1 with
  | none =>
    rw [hwrite] at h
    cases h
  | some stored =>
    rw [hwrite, Option.map_some, Option.bind_some] at h
    have hstarts : stored.Starts (readBlocks (body input)).1 := by
      have := output.starts_nil.write_end hwrite
      rwa [List.nil_append] at this
    simp only [Nat.zero_add] at h
    split at h
    · rename_i hread
      cases h
      rw [if_neg (by simpa using hread)]
      exact ⟨rfl, CArray.starts_nil _⟩
    · rename_i hread
      rw [if_pos (by simpa using hread)]
      simp only
      split at h
      · rename_i hfull
        cases h
        rw [if_pos hfull]
        exact ⟨rfl, CArray.starts_nil _⟩
      · rename_i hfull
        rw [if_neg hfull]
        obtain ⟨ended, hended, heq⟩ := Option.map_eq_some_iff.mp h
        cases heq
        exact ⟨rfl, List.IsPrefix.trans (List.prefix_append _ _) (hstarts.write_end hended)⟩

theorem decodeInto_isSome {output : CArray UInt8 cap} {input : List UInt8} {outputLength : UInt32}
    (hcap : outputLength.toNat ≤ cap) :
    (decodeInto output input outputLength).isSome ↔
      outputLength < decodedLength input ∨ 3 * readable (body input) / 4 ≤ cap := by
  have hlen := length_readBlocks (body input)
  unfold decodeInto
  split
  · rename_i hlt
    exact iff_of_true rfl (Or.inl hlt)
  rename_i hlt
  rw [storeLoop_eq input [] output 0 (by simp) (Nat.zero_le _), List.nil_append, storeBlocks, ← hlen]
  cases hwrite : output.write 0 (readBlocks (body input)).1 with
  | none =>
    refine iff_of_false (by simp) fun hor => ?_
    rcases hor with hor | hor
    · exact hlt hor
    · obtain ⟨stored, hstored⟩ := output.exists_write (by omega : 0 + (readBlocks (body input)).1.length ≤ cap)
      rw [hwrite] at hstored
      cases hstored
  | some stored =>
    have hle := (CArray.write_cells hwrite).1
    refine iff_of_true ?_ (Or.inr (by omega))
    rw [Option.map_some, Option.bind_some]
    simp only [Nat.zero_add]
    split
    · rfl
    · split
      · rfl
      · rename_i hroom
        rw [Option.isSome_map]
        exact CArray.write_isSome.mpr (by rw [List.length_singleton]; omega)

/-- Every byte lies inside of the room given exactly when the input is refused at once, or the blocks that can be
read are no more than the room. -/
theorem decode_stays_iff {input : List UInt8} (_ : input.length < 2 ^ 29) (outputLength : UInt32)
    (output : CArray UInt8 outputLength.toNat) :
    (decodeInto output input outputLength).isSome ↔
      outputLength < decodedLength input ∨ 3 * readable (body input) / 4 ≤ outputLength.toNat :=
  decodeInto_isSome (Nat.le_refl _)

/-- Four padding characters are foretold as four bytes less, and the block before them is three. -/
def overpadded : List UInt8 := [0x41, 0x42, 0x43, 0x44, 0x3D, 0x3D, 0x3D, 0x3D]

theorem decode_leaves :
    decodedLength overpadded = 2 ∧ ¬ (decodeInto (CArray.replicate (2 : UInt32).toNat 0) overpadded 2).isSome := by
  decide +kernel

theorem decode_stays_four : (decodeInto (CArray.replicate (4 : UInt32).toNat 0) overpadded 4).isSome :=
  (decode_stays_iff (by decide) 4 _).mpr (by decide +kernel)

end Base64

end CanSystems
