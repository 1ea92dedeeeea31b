import CanSystems.PubSubClient

/-!
# Topic filters

`topicFilterValid` looks at each wildcard of a filter and at the characters
beside it. The grammar is about levels, the texts between the separators. Read
from left to right the two agree: what stands before a character decides whether
a level starts there, and what follows it whether the level ends.
-/

namespace CanSystems

namespace PubSubClient

def topicFilterValid (c : PubSubClient) (filter : CString) : Bool :=
  let len := c.lengthWithin filter
  let char (i : Nat) : UInt8 := filter.chars.getD i 0
  if len = 0 then false else
  (List.range len).all fun i =>
    let levelStarts := i == 0 || char (i - 1) == 0x2F
    let levelEnds := i == len - 1 || char (i + 1) == 0x2F
    if char i = 0x23 then levelStarts && i == len - 1 else
    if char i = 0x2B then levelStarts && levelEnds else true

end PubSubClient

/-! ## The grammar -/

namespace TopicFilter

def Plain (level : List UInt8) : Prop := 0x2B ∉ level ∧ 0x23 ∉ level

/-- Each level is plain, or a `+` and no more, or a `#` and no more and the last. -/
def Levels : List (List UInt8) → Prop
  | [] => True
  | level :: rest => (Plain level ∨ level = [0x2B] ∨ level = [0x23] ∧ rest = []) ∧ Levels rest

def Allowed (filter : List UInt8) : Prop := filter ≠ [] ∧ Levels (filter.splitOn 0x2F)

/-! ## From left to right -/

/-- The check of the character `i` in a text that a separator or the start stands before, or neither of them. -/
def placed (starts : Bool) (text : List UInt8) (i : Nat) : Prop :=
  let levelStarts := if i = 0 then starts = true else text.getD (i - 1) 0 = 0x2F
  let levelEnds := text.length = i + 1 ∨ text.getD (i + 1) 0 = 0x2F
  (text.getD i 0 = 0x23 → levelStarts ∧ text.length = i + 1) ∧ (text.getD i 0 = 0x2B → levelStarts ∧ levelEnds)

def Scans : Bool → List UInt8 → Prop
  | _, [] => True
  | starts, x :: rest =>
    (x = 0x23 → starts = true ∧ rest = []) ∧ (x = 0x2B → starts = true ∧ (rest = [] ∨ rest.head? = some 0x2F)) ∧
      Scans (x == 0x2F) rest

theorem placed_succ (starts : Bool) (x : UInt8) (rest : List UInt8) (i : Nat) :
    placed starts (x :: rest) (i + 1) ↔ placed (x == 0x2F) rest i := by
  cases i with
  | zero => simp [placed]
  | succ i => simp [placed]

theorem placed_zero (starts : Bool) (x : UInt8) (rest : List UInt8) :
    placed starts (x :: rest) 0 ↔
      (x = 0x23 → starts = true ∧ rest = []) ∧
        (x = 0x2B → starts = true ∧ (rest = [] ∨ rest.head? = some 0x2F)) := by
  have hends : ((x :: rest).length = 1 ∨ (x :: rest).getD 1 0 = 0x2F) ↔ (rest = [] ∨ rest.head? = some 0x2F) := by
    cases rest <;> simp
  have hlast : (x :: rest).length = 1 ↔ rest = [] := by
    cases rest <;> simp
  simp only [placed, Nat.zero_add, hends]
  simp only [hlast, if_true, List.getD_cons_zero]

theorem forall_placed (starts : Bool) (text : List UInt8) :
    (∀ i < text.length, placed starts text i) ↔ Scans starts text := by
  induction text generalizing starts with
  | nil => simp [Scans]
  | cons x rest ih =>
    rw [List.length_cons, Nat.forall_lt_succ_left, placed_zero]
    simp only [placed_succ, ih, Scans, and_assoc]

/-! ## Level by level -/

theorem plain_nil : Plain [] := by simp [Plain]

theorem plain_cons {x : UInt8} {level : List UInt8} : Plain (x :: level) ↔ x ≠ 0x2B ∧ x ≠ 0x23 ∧ Plain level := by
  simp only [Plain, List.mem_cons, not_or]
  tauto

section
variable {text level : List UInt8} {rest : List (List UInt8)}

theorem split_separator (h : text.splitOn 0x2F = level :: rest) :
    (0x2F :: text).splitOn 0x2F = [] :: level :: rest := by
  rw [List.splitOn_cons_eq_if_modifyHead, h, if_pos (beq_self_eq_true _)]

theorem split_char {x : UInt8} (hx : x ≠ 0x2F) (h : text.splitOn 0x2F = level :: rest) :
    (x :: text).splitOn 0x2F = (x :: level) :: rest := by
  rw [List.splitOn_cons_eq_if_modifyHead, h, if_neg (by simpa using hx), List.modifyHead_cons]

theorem level_ends (h : text.splitOn 0x2F = level :: rest) : (text = [] ∨ text.head? = some 0x2F) ↔ level = [] := by
  cases text with
  | nil =>
    cases (List.splitOn_nil 0x2F).symm.trans h
    simp
  | cons x text =>
    obtain ⟨level', rest', hsplit⟩ := List.exists_cons_of_ne_nil (List.splitOn_ne_nil 0x2F text)
    by_cases hx : x = 0x2F
    · subst hx
      cases (split_separator hsplit).symm.trans h
      simp
    · cases (split_char hx hsplit).symm.trans h
      simp [hx]

theorem text_ends (h : text.splitOn 0x2F = level :: rest) : text = [] ↔ level = [] ∧ rest = [] := by
  constructor
  · rintro rfl
    cases (List.splitOn_nil 0x2F).symm.trans h
    exact ⟨rfl, rfl⟩
  · rintro ⟨rfl, rfl⟩
    have hjoined := @List.intercalate_splitOn _ text _ _ 0x2F
    rw [h] at hjoined
    exact hjoined.symm

/-- A level that has begun may only go on plainly; a level that starts may be any that is allowed. -/
theorem scans_iff (starts : Bool) (h : text.splitOn 0x2F = level :: rest) :
    Scans starts text ↔ if starts = true then Levels (level :: rest) else Plain level ∧ Levels rest := by
  induction text generalizing starts level rest with
  | nil =>
    cases (List.splitOn_nil 0x2F).symm.trans h
    simp [Scans, Levels, plain_nil]
  | cons x text ih =>
    obtain ⟨level', rest', hsplit⟩ := List.exists_cons_of_ne_nil (List.splitOn_ne_nil 0x2F text)
    have hends := level_ends hsplit
    have hover := text_ends hsplit
    by_cases hx : x = 0x2F
    · subst hx
      cases (split_separator hsplit).symm.trans h
      have hrest := ih true hsplit
      simp only [if_true] at hrest
      simp [Scans, hrest, Levels, plain_nil]
    have hgoes := ih false hsplit
    simp only [Bool.false_eq_true, if_false] at hgoes
    cases (split_char hx hsplit).symm.trans h
    rw [Scans, beq_eq_false_iff_ne.mpr hx, hgoes, hends, hover]
    simp only [Levels, plain_cons, List.cons.injEq]
    by_cases hhash : x = 0x23
    · subst hhash
      cases starts <;> simp
      rintro rfl rfl _
      exact plain_nil
    by_cases hplus : x = 0x2B
    · subst hplus
      cases starts <;> simp
      rintro rfl _
      exact plain_nil
    · cases starts <;> simp [hhash, hplus]

end

theorem allowed_iff {filter : List UInt8} (hne : filter ≠ []) :
    Allowed filter ↔ ∀ i < filter.length, placed true filter i := by
  obtain ⟨level, rest, hsplit⟩ := List.exists_cons_of_ne_nil (List.splitOn_ne_nil 0x2F filter)
  rw [forall_placed, scans_iff true hsplit, if_pos rfl, Allowed, hsplit]
  exact and_iff_right hne

end TopicFilter

namespace PubSubClient

/-- A filter that the buffer could hold is valid exactly when the grammar allows it. -/
theorem topicFilterValid_iff (c : PubSubClient) (filter : CString)
    (hfits : filter.chars.length < c.bufferSize.toNat) :
    c.topicFilterValid filter = true ↔ TopicFilter.Allowed filter.chars := by
  have hlen : c.lengthWithin filter = filter.chars.length := Nat.min_eq_left (Nat.le_of_lt hfits)
  by_cases hempty : filter.chars = []
  · simp [topicFilterValid, hlen, hempty, TopicFilter.Allowed]
  have hpos := List.length_pos_iff.mpr hempty
  rw [TopicFilter.allowed_iff hempty, topicFilterValid, hlen]
  simp only [if_neg (Nat.ne_of_gt hpos), List.all_eq_true, List.mem_range]
  apply forall₂_congr
  intro i hi
  have hlast : (i == filter.chars.length - 1) = true ↔ filter.chars.length = i + 1 := by
    rw [beq_iff_eq]
    omega
  have hstarts : (i == 0 || filter.chars.getD (i - 1) 0 == 0x2F) = true ↔
      if i = 0 then true = true else filter.chars.getD (i - 1) 0 = 0x2F := by
    rw [Bool.or_eq_true, beq_iff_eq, beq_iff_eq]
    split <;> rename_i h
    · exact iff_of_true (Or.inl h) rfl
    · exact or_iff_right h
  have hends : (i == filter.chars.length - 1 || filter.chars.getD (i + 1) 0 == 0x2F) = true ↔
      filter.chars.length = i + 1 ∨ filter.chars.getD (i + 1) 0 = 0x2F := by
    rw [Bool.or_eq_true, hlast, beq_iff_eq]
  unfold TopicFilter.placed
  by_cases hhash : filter.chars.getD i 0 = 0x23
  · have hplus : filter.chars.getD i 0 ≠ 0x2B := by rw [hhash]; decide
    rw [if_pos hhash, Bool.and_eq_true, hstarts, hlast]
    exact ⟨fun h => ⟨fun _ => h, fun e => absurd e hplus⟩, fun h => h.1 hhash⟩
  rw [if_neg hhash]
  by_cases hplus : filter.chars.getD i 0 = 0x2B
  · rw [if_pos hplus, Bool.and_eq_true, hstarts, hends]
    exact ⟨fun h => ⟨fun e => absurd e hhash, fun _ => h⟩, fun h => h.2 hplus⟩
  · rw [if_neg hplus]
    exact iff_of_true rfl ⟨fun e => absurd e hhash, fun e => absurd e hplus⟩

/-- Every kind of level in one filter, `a//+/#`. -/
theorem topicFilterValid_iff_mixed :
    TopicFilter.Allowed [0x61, 0x2F, 0x2F, 0x2B, 0x2F, 0x23] :=
  (topicFilterValid_iff ((PubSubClient.new true).setBufferSize 9).2
    ⟨[0x61, 0x2F, 0x2F, 0x2B, 0x2F, 0x23], by decide⟩
    (by decide +kernel)).mp (by decide +kernel)

end PubSubClient

end CanSystems
