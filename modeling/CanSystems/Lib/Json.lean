import Mathlib.Data.List.Basic

/-!
# JSON texts

A JSON value is kept as it is written: a string is the characters between its
quotes, escapes and all, and a number or a word is its characters. `Json.read` reads a
text by the grammar, `Json.text` writes one without spaces, and a reader gets
back every value that was written from strings and words of the grammar.
-/

inductive Json
  | str (raw : List Char)
  | word (raw : List Char)
  | arr (items : List Json)
  | obj (members : List (List Char × Json))

namespace Json

/-! ## Characters, words and strings -/

def isSpace (c : Char) : Bool := c == ' ' || c == '\t' || c == '\n' || c == '\r'

def isDigit (c : Char) : Bool := decide ('0' ≤ c) && decide (c ≤ '9')

def isHex (c : Char) : Bool :=
  isDigit c || (decide ('a' ≤ c) && decide (c ≤ 'f')) || (decide ('A' ≤ c) && decide (c ≤ 'F'))

def isPlain (c : Char) : Bool := decide (' ' ≤ c) && c != '"' && c != '\\'

def isEscape (c : Char) : Bool := ['"', '\\', '/', 'b', 'f', 'n', 'r', 't'].contains c

def isWordChar (c : Char) : Bool :=
  isDigit c || (decide ('a' ≤ c) && decide (c ≤ 'z')) || c == '+' || c == '-' || c == '.' || c == 'E'

def isExponent : List Char → Bool
  | [] => true
  | e :: rest =>
    let digits := match rest with
      | '+' :: digits => digits
      | '-' :: digits => digits
      | digits => digits
    (e == 'e' || e == 'E') && !digits.isEmpty && digits.all isDigit

def isFraction : List Char → Bool
  | '.' :: rest => !(rest.takeWhile isDigit).isEmpty && isExponent (rest.dropWhile isDigit)
  | rest => isExponent rest

def isUnsigned : List Char → Bool
  | '0' :: rest => isFraction rest
  | c :: rest => isDigit c && isFraction (rest.dropWhile isDigit)
  | [] => false

def isNumber : List Char → Bool
  | '-' :: rest => isUnsigned rest
  | rest => isUnsigned rest

def isWord (raw : List Char) : Bool :=
  raw == ['t', 'r', 'u', 'e'] || raw == ['f', 'a', 'l', 's', 'e'] || raw == ['n', 'u', 'l', 'l'] || isNumber raw

inductive IsString : List Char → Prop
  | nil : IsString []
  | plain {c : Char} {raw : List Char} : isPlain c = true → IsString raw → IsString (c :: raw)
  | escape {c : Char} {raw : List Char} : isEscape c = true → IsString raw → IsString ('\\' :: c :: raw)
  | unicode {a b c d : Char} {raw : List Char} : isHex a = true → isHex b = true → isHex c = true → isHex d = true →
      IsString raw → IsString ('\\' :: 'u' :: a :: b :: c :: d :: raw)

theorem IsString.append {raw raw' : List Char} (h : IsString raw) (h' : IsString raw') :
    IsString (raw ++ raw') := by
  induction h with
  | nil => exact h'
  | plain hc _ ih => exact .plain hc ih
  | escape hc _ ih => exact .escape hc ih
  | unicode ha hb hc hd _ ih => exact .unicode ha hb hc hd ih

theorem isString_of_plain {raw : List Char} (h : ∀ c ∈ raw, isPlain c = true) : IsString raw := by
  induction raw with
  | nil => exact .nil
  | cons c raw ih => exact .plain (h c List.mem_cons_self) (ih fun c hc => h c (List.mem_cons_of_mem _ hc))

/-! ## The reader -/

def skip (text : List Char) : List Char := text.dropWhile isSpace

def readString : List Char → Option (List Char × List Char)
  | '"' :: rest => some ([], rest)
  | '\\' :: 'u' :: a :: b :: c :: d :: rest =>
    if isHex a && isHex b && isHex c && isHex d then
      (readString rest).map fun read => ('\\' :: 'u' :: a :: b :: c :: d :: read.1, read.2)
    else none
  | '\\' :: c :: rest =>
    if isEscape c then (readString rest).map fun read => ('\\' :: c :: read.1, read.2) else none
  | c :: rest => if isPlain c then (readString rest).map fun read => (c :: read.1, read.2) else none
  | [] => none

/-! With so many steps at most: a value, the items behind `[`, and the members behind an opening brace. -/

mutual
def readValue : ℕ → List Char → Option (Json × List Char)
  | 0, _ => none
  | steps + 1, text =>
    match skip text with
    | '"' :: rest => (readString rest).map fun read => (.str read.1, read.2)
    | '[' :: rest =>
      match skip rest with
      | ']' :: rest => some (.arr [], rest)
      | _ => (readItems steps rest).map fun read => (.arr read.1, read.2)
    | '\x7b' :: rest =>
      match skip rest with
      | '\x7d' :: rest => some (.obj [], rest)
      | _ => (readMembers steps rest).map fun read => (.obj read.1, read.2)
    | rest =>
      if isWord (rest.takeWhile isWordChar) then some
        (.word (rest.takeWhile isWordChar), rest.dropWhile isWordChar) else none

def readItems : ℕ → List Char → Option (List Json × List Char)
  | 0, _ => none
  | steps + 1, text =>
    match readValue steps text with
    | none => none
    | some (item, rest) =>
      match skip rest with
      | ',' :: rest => (readItems steps rest).map fun read => (item :: read.1, read.2)
      | ']' :: rest => some ([item], rest)
      | _ => none

def readMembers : ℕ → List Char → Option (List (List Char × Json) × List Char)
  | 0, _ => none
  | steps + 1, text =>
    match skip text with
    | '"' :: rest =>
      match readString rest with
      | none => none
      | some (key, rest) =>
        match skip rest with
        | ':' :: rest =>
          match readValue steps rest with
          | none => none
          | some (value, rest) =>
            match skip rest with
            | ',' :: rest => (readMembers steps rest).map fun read => ((key, value) :: read.1, read.2)
            | '\x7d' :: rest => some ([(key, value)], rest)
            | _ => none
        | _ => none
    | _ => none
end

/-- The value that the whole text is, if it is one; a level of a value takes two steps. -/
def read (text : List Char) : Option Json :=
  match readValue (2 * text.length + 1) text with
  | some (value, rest) => if skip rest = [] then some value else none
  | none => none

/-! ## The writer -/

mutual
def text : Json → List Char
  | .str raw => '"' :: raw ++ ['"']
  | .word raw => raw
  | .arr [] => ['[', ']']
  | .arr (item :: items) => '[' :: text item ++ textItems items ++ [']']
  | .obj [] => ['\x7b', '\x7d']
  | .obj ((key, value) :: members) =>
    '\x7b' :: '"' :: key ++ '"' :: ':' :: text value ++ textMembers members ++ ['\x7d']

def textItems : List Json → List Char
  | [] => []
  | item :: items => ',' :: text item ++ textItems items

def textMembers : List (List Char × Json) → List Char
  | [] => []
  | (key, value) :: members => ',' :: '"' :: key ++ '"' :: ':' :: text value ++ textMembers members
end

theorem textMembers_append (members members' : List (List Char × Json)) :
    textMembers (members ++ members') = textMembers members ++ textMembers members' := by
  induction members with
  | nil => simp [textMembers]
  | cons member members ih => simp [textMembers, ih]

inductive Valid : Json → Prop
  | str {raw : List Char} : IsString raw → Valid (.str raw)
  | word {raw : List Char} : isWord raw = true → (∀ c ∈ raw, isWordChar c = true) → Valid (.word raw)
  | arr {items : List Json} : (∀ item ∈ items, Valid item) → Valid (.arr items)
  | obj {members : List (List Char × Json)} : (∀ member ∈ members, IsString member.1) →
      (∀ member ∈ members, Valid member.2) → Valid (.obj members)

/-! ## What is written is read -/

theorem skip_cons {c : Char} (h : isSpace c = false) (rest : List Char) : skip (c :: rest) = c :: rest := by
  rw [skip, List.dropWhile_cons_of_neg (by simp [h])]

theorem readString_append {raw : List Char} (h : IsString raw) (rest : List Char) :
    readString (raw ++ '"' :: rest) = some (raw, rest) := by
  induction h with
  | nil => rw [List.nil_append, readString]
  | @plain c raw hc _ ih =>
    have hquote : c ≠ '"' := by
      rintro rfl
      exact absurd hc (by decide)
    have hslash : c ≠ '\\' := by
      rintro rfl
      exact absurd hc (by decide)
    rw [List.cons_append, readString, if_pos hc, ih]
    · rfl
    all_goals
      intros
      simp_all
  | @escape c raw hc _ ih =>
    have hu : c ≠ 'u' := by
      rintro rfl
      exact absurd hc (by decide)
    rw [List.cons_append, List.cons_append, readString, if_pos hc, ih]
    · rfl
    · intros
      simp_all
  | unicode ha hb hc hd _ ih =>
    simp only [List.cons_append, readString, ha, hb, hc, hd, Bool.and_self, if_true, ih]
    rfl

def Delimited (rest : List Char) : Prop := ∀ c ∈ rest.head?, isWordChar c = false

theorem isSpace_of_isWordChar {c : Char} (h : isWordChar c = true) : isSpace c = false := by
  by_contra hspace
  simp only [isSpace, Bool.not_eq_false, Bool.or_eq_true, beq_iff_eq, or_assoc] at hspace
  rcases hspace with rfl | rfl | rfl | rfl <;> exact absurd h (by decide)

theorem readValue_word {raw : List Char} (hword : isWord raw = true) (hchars : ∀ c ∈ raw, isWordChar c = true)
    {rest : List Char} (hrest : Delimited rest) (steps : ℕ) : readValue (steps + 1) (raw ++ rest) = some
    (.word raw, rest) := by
  obtain ⟨c, tail, rfl⟩ : ∃ c tail, raw = c :: tail := by
    cases raw with
    | nil => exact absurd hword (by decide)
    | cons c tail => exact ⟨c, tail, rfl⟩
  have hc := hchars c List.mem_cons_self
  have htake : (c :: tail ++ rest).takeWhile isWordChar = c :: tail := by
    rw [List.takeWhile_append_of_pos hchars]
    cases rest with
    | nil => rw [List.takeWhile_nil, List.append_nil]
    | cons d rest => rw [List.takeWhile_cons_of_neg (by simp [hrest d rfl]), List.append_nil]
  have hdrop : (c :: tail ++ rest).dropWhile isWordChar = rest := by
    rw [List.dropWhile_append_of_pos hchars]
    cases rest with
    | nil => rfl
    | cons d rest => rw [List.dropWhile_cons_of_neg (by simp [hrest d rfl])]
  rw [readValue, List.cons_append, skip_cons (isSpace_of_isWordChar hc)]
  split
  · rename_i heq
    cases heq
    exact absurd hc (by decide)
  · rename_i heq
    cases heq
    exact absurd hc (by decide)
  · rename_i heq
    cases heq
    exact absurd hc (by decide)
  · rw [← List.cons_append, htake, if_pos hword, hdrop]

/-! The branches of the readers, by the characters they see. -/

theorem readValue_quote {raw rest rest' : List Char} (h : readString rest = some (raw, rest')) (steps : ℕ) :
    readValue (steps + 1) ('"' :: rest) = some (.str raw, rest') := by
  rw [readValue, skip_cons (by decide)]
  simp only [h, Option.map_some]

theorem readValue_items {rest rest' : List Char} {items : List Json} {steps : ℕ} {c : Char} {tail : List Char}
    (hrest : rest = c :: tail) (hspace : isSpace c = false) (hclose : c ≠ ']')
    (h : readItems steps rest = some (items, rest')) :
    readValue (steps + 1) ('[' :: rest) = some (.arr items, rest') := by
  rw [readValue, skip_cons (by decide)]
  rw [hrest] at h ⊢
  simp only [skip_cons hspace]
  split
  · rename_i heq
    cases heq
    exact absurd rfl hclose
  · rw [h, Option.map_some]

theorem readValue_members {rest rest' : List Char} {members : List (List Char × Json)} {steps : ℕ}
    (h : readMembers steps ('"' :: rest) = some (members, rest')) :
    readValue (steps + 1) ('\x7b' :: '"' :: rest) = some (.obj members, rest') := by
  rw [readValue, skip_cons (by decide)]
  simp only [skip_cons (show isSpace '"' = false from by decide), h, Option.map_some]
  rfl

theorem readItems_comma {text rest : List Char} {item : Json} {steps : ℕ}
    (h : readValue steps text = some (item, ',' :: rest)) :
    readItems (steps + 1) text = (readItems steps rest).map fun read => (item :: read.1, read.2) := by
  rw [readItems, h]
  simp only [skip_cons (show isSpace ',' = false from by decide)]

theorem readItems_close {text rest : List Char} {item : Json} {steps : ℕ}
    (h : readValue steps text = some (item, ']' :: rest)) : readItems (steps + 1) text = some ([item], rest) := by
  rw [readItems, h]
  simp only [skip_cons (show isSpace ']' = false from by decide)]

theorem readMembers_comma {text rest rest' key : List Char} {value : Json} {steps : ℕ}
    (hkey : readString text = some (key, ':' :: rest)) (h : readValue steps rest = some (value, ',' :: rest')) :
    readMembers (steps + 1) ('"' :: text) = (readMembers steps rest').map fun read =>
      ((key, value) :: read.1, read.2) := by
  rw [readMembers, skip_cons (by decide)]
  simp only [hkey, h, skip_cons (show isSpace ':' = false from by decide),
    skip_cons (show isSpace ',' = false from by decide)]

theorem readMembers_close {text rest rest' key : List Char} {value : Json} {steps : ℕ}
    (hkey : readString text = some (key, ':' :: rest)) (h : readValue steps rest = some (value, '\x7d' :: rest')) :
    readMembers (steps + 1) ('"' :: text) = some ([(key, value)], rest') := by
  rw [readMembers, skip_cons (by decide)]
  simp only [hkey, h, skip_cons (show isSpace ':' = false from by decide),
    skip_cons (show isSpace '\x7d' = false from by decide)]

/-! The three readers, for values of up to some length. -/

def ReadsValue (steps : ℕ) : Prop :=
  ∀ value rest, Valid value → Delimited rest → 2 * (text value).length ≤ steps →
    readValue steps (text value ++ rest) = some (value, rest)

def ReadsItems (steps : ℕ) : Prop :=
  ∀ item items rest, Valid item → (∀ item ∈ items, Valid item) →
    2 * (text item ++ textItems items).length + 1 ≤ steps →
    readItems steps (text item ++ textItems items ++ ']' :: rest) = some (item :: items, rest)

def ReadsMembers (steps : ℕ) : Prop :=
  ∀ key value members rest, IsString key → Valid value → (∀ member ∈ members, IsString member.1) →
    (∀ member ∈ members, Valid member.2) →
    2 * ('"' :: key ++ '"' :: ':' :: text value ++ textMembers members).length + 1 ≤ steps →
    readMembers steps ('"' :: key ++ '"' :: ':' :: text value ++ textMembers members ++ '\x7d' :: rest) =
      some ((key, value) :: members, rest)

theorem delimited_cons {c : Char} (h : isWordChar c = false) (rest : List Char) : Delimited (c :: rest) := by
  intro d hd
  cases hd
  exact h

theorem text_head {value : Json} (h : Valid value) :
    ∃ c rest, text value = c :: rest ∧ isSpace c = false ∧ c ≠ ']' ∧ c ≠ '\x7d' := by
  cases h with
  | str _ => exact ⟨_, _, by rw [text]; rfl, by decide, by decide, by decide⟩
  | @word raw hword hchars =>
    cases raw with
    | nil => exact absurd hword (by decide)
    | cons c rest =>
      have hc := hchars c List.mem_cons_self
      refine ⟨c, rest, by rw [text], isSpace_of_isWordChar hc, ?_, ?_⟩
      · rintro rfl
        exact absurd hc (by decide)
      · rintro rfl
        exact absurd hc (by decide)
  | @arr items _ =>
    cases items with
    | nil => exact ⟨_, _, by rw [text], by decide, by decide, by decide⟩
    | cons item items => exact ⟨_, _, by rw [text]; rfl, by decide, by decide, by decide⟩
  | @obj members _ _ =>
    cases members with
    | nil => exact ⟨_, _, by rw [text], by decide, by decide, by decide⟩
    | cons member members => exact ⟨_, _, by rw [text]; rfl, by decide, by decide, by decide⟩

theorem reads_items {steps : ℕ} (hvalue : ReadsValue steps) (hitems : ReadsItems steps) :
    ReadsItems (steps + 1) := by
  intro item items rest hitem hrest hsteps
  cases items with
  | nil =>
    rw [textItems, List.append_nil] at hsteps ⊢
    exact readItems_close (hvalue item (']' :: rest) hitem (delimited_cons (by decide) rest) (by omega))
  | cons next items =>
    simp only [textItems, List.cons_append, List.length_append, List.length_cons] at hsteps
    have hread := hvalue item (',' :: (text next ++ textItems items ++ ']' :: rest)) hitem
      (delimited_cons (by decide) _) (by omega)
    have hmore := hitems next items rest (hrest next List.mem_cons_self)
      (fun item hmem => hrest item (List.mem_cons_of_mem _ hmem)) (by rw [List.length_append]; omega)
    have htext : text item ++ textItems (next :: items) ++ ']' :: rest =
        text item ++ ',' :: (text next ++ textItems items ++ ']' :: rest) := by simp [textItems]
    rw [htext, readItems_comma hread, hmore, Option.map_some]

theorem reads_members {steps : ℕ} (hvalue : ReadsValue steps) (hmembers : ReadsMembers steps) :
    ReadsMembers (steps + 1) := by
  intro key value members rest hkey hval hkeys hvals hsteps
  simp only [List.cons_append, List.append_assoc, List.length_append, List.length_cons] at hsteps
  cases members with
  | nil =>
    have hread := hvalue value ('\x7d' :: rest) hval (delimited_cons (by decide) rest) (by omega)
    have htext : '"' :: key ++ '"' :: ':' :: text value ++ textMembers [] ++ '\x7d' :: rest =
        '"' :: (key ++ '"' :: ':' :: (text value ++ '\x7d' :: rest)) := by simp [textMembers]
    rw [htext, readMembers_close (readString_append hkey _) hread]
  | cons member members =>
    obtain ⟨key', value'⟩ := member
    simp only [textMembers, List.cons_append, List.append_assoc, List.length_append, List.length_cons] at hsteps
    have hread := hvalue value (',' :: ('"' :: key' ++ '"' :: ':' :: text value' ++ textMembers members ++ '\x7d' ::
      rest))
      hval (delimited_cons (by decide) _) (by omega)
    have hmore := hmembers key' value' members rest (hkeys (key', value') List.mem_cons_self)
      (hvals (key', value') List.mem_cons_self) (fun member hmem => hkeys member (List.mem_cons_of_mem _ hmem))
      (fun member hmem => hvals member (List.mem_cons_of_mem _ hmem))
      (by simp only [List.cons_append, List.append_assoc, List.length_append, List.length_cons]; omega)
    have htext : '"' :: key ++ '"' :: ':' :: text value ++ textMembers ((key', value') :: members) ++ '\x7d' ::
      rest =
        '"' :: (key ++ '"' :: ':' :: (text value ++
          ',' :: ('"' :: key' ++ '"' :: ':' :: text value' ++ textMembers members ++ '\x7d' :: rest))) := by
      simp [textMembers]
    rw [htext, readMembers_comma (readString_append hkey _) hread, hmore, Option.map_some]

theorem reads_value {steps : ℕ} (hitems : ReadsItems steps) (hmembers : ReadsMembers steps) :
    ReadsValue (steps + 1) := by
  intro value rest hvalid hrest hsteps
  cases hvalid with
  | @str raw hraw =>
    have htext : text (.str raw) ++ rest = '"' :: (raw ++ '"' :: rest) := by simp [text]
    rw [htext, readValue_quote (readString_append hraw rest)]
  | word hword hchars =>
    rw [text]
    exact readValue_word hword hchars hrest steps
  | @arr items hvalids =>
    cases items with
    | nil =>
      rw [text, List.cons_append, List.cons_append, List.nil_append, readValue, skip_cons (by decide)]
      simp only [skip_cons (show isSpace ']' = false from by decide)]
    | cons item items =>
      have hitem := hvalids item List.mem_cons_self
      simp only [text, List.cons_append, List.length_append, List.length_cons, List.length_nil] at hsteps
      have hread := hitems item items rest hitem (fun item hmem => hvalids item (List.mem_cons_of_mem _ hmem))
        (by rw [List.length_append]; omega)
      have htext : text (.arr (item :: items)) ++ rest = '[' :: (text item ++ textItems items ++ ']' :: rest) := by
        simp [text]
      obtain ⟨c, tail, hhead, hspace, hclose, -⟩ := text_head hitem
      have hstart : text item ++ textItems items ++ ']' :: rest = c ::
          (tail ++ textItems items ++ ']' :: rest) := by
        rw [hhead, List.cons_append, List.cons_append]
      rw [htext, readValue_items hstart hspace hclose hread]
  | @obj members hkeys hvals =>
    cases members with
    | nil =>
      rw [text, List.cons_append, List.cons_append, List.nil_append, readValue, skip_cons (by decide)]
      simp only [skip_cons (show isSpace '\x7d' = false from by decide)]
    | cons member members =>
      obtain ⟨key, value⟩ := member
      simp only [text, List.cons_append, List.append_assoc, List.length_append, List.length_cons,
        List.length_nil] at hsteps
      have hread := hmembers key value members rest (hkeys (key, value) List.mem_cons_self)
        (hvals (key, value) List.mem_cons_self) (fun member hmem => hkeys member (List.mem_cons_of_mem _ hmem))
        (fun member hmem => hvals member (List.mem_cons_of_mem _ hmem))
        (by simp only [List.cons_append, List.append_assoc, List.length_append, List.length_cons]; omega)
      have htext : text (.obj ((key, value) :: members)) ++ rest =
          '\x7b' :: '"' :: (key ++ '"' :: ':' :: text value ++ textMembers members ++ '\x7d' :: rest) := by
            simp [text]
      rw [htext]
      exact readValue_members hread

theorem reads (steps : ℕ) : ReadsValue steps ∧ ReadsItems steps ∧ ReadsMembers steps := by
  induction steps with
  | zero =>
    refine ⟨?_, ?_, ?_⟩
    · intro value rest hvalid _ hsteps
      obtain ⟨c, tail, hhead, -⟩ := text_head hvalid
      rw [hhead, List.length_cons] at hsteps
      omega
    · intro item items rest _ _ hsteps
      omega
    · intro key value members rest _ _ _ _ hsteps
      omega
  | succ steps ih =>
    obtain ⟨hvalue, hitems, hmembers⟩ := ih
    exact ⟨reads_value hitems hmembers, reads_items hvalue hitems, reads_members hvalue hmembers⟩

theorem read_text {value : Json} (h : Valid value) : read (text value) = some value := by
  have hrest : Delimited [] := by
    intro c hc
    cases hc
  have hread := (reads (2 * (text value).length + 1)).1 value [] h hrest (by omega)
  rw [List.append_nil] at hread
  rw [read, hread]
  rfl

end Json
