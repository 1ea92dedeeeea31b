import Mathlib.Data.Nat.Digits.Defs

/-!
# Formatted text in bounded buffers

A string of C is the list of its characters, without the null that ends it. A
format takes its arguments in order, for the conversions `%s`, `%hu` and `%0Nx`.
What `snprintf` returns is the length of the whole text, which need not be the
text that is left in the buffer.
-/

namespace Printf

abbrev Text := List Char

inductive Arg
  | text (chars : Text)
  | number (value : ℕ)
  deriving DecidableEq, Repr

def decimal (n : ℕ) : Text := Nat.toDigits 10 n

def hex (width n : ℕ) : Text := (Nat.toDigits 16 n).leftpad width '0'

def format : Text → List Arg → Text
  | '%' :: 's' :: rest, .text chars :: args => chars ++ format rest args
  | '%' :: 'h' :: 'u' :: rest, .number n :: args => decimal n ++ format rest args
  | '%' :: '0' :: width :: 'x' :: rest, .number n :: args => hex (width.toNat - '0'.toNat) n ++ format rest args
  | c :: rest, args => c :: format rest args
  | [], _ => []

@[simp] theorem format_nil (args : List Arg) : format [] args = [] := rfl

@[simp] theorem format_text (rest chars : Text) (args : List Arg) :
    format ('%' :: 's' :: rest) (.text chars :: args) = chars ++ format rest args := rfl

@[simp] theorem format_hu (rest : Text) (n : ℕ) (args : List Arg) :
    format ('%' :: 'h' :: 'u' :: rest) (.number n :: args) = decimal n ++ format rest args := rfl

@[simp] theorem format_hex (width : Char) (rest : Text) (n : ℕ) (args : List Arg) :
    format ('%' :: '0' :: width :: 'x' :: rest) (.number n :: args) =
      hex (width.toNat - '0'.toNat) n ++ format rest args := rfl

@[simp] theorem format_char {c : Char} (h : c ≠ '%') (rest : Text) (args : List Arg) :
    format (c :: rest) args = c :: format rest args := by
  rw [format]
  all_goals
    intros
    simp_all

theorem format_append {lit : Text} (h : lit.contains '%' = false) (rest : Text) (args : List Arg) :
    format (lit ++ rest) args = lit ++ format rest args := by
  induction lit with
  | nil => rfl
  | cons c lit ih =>
    rw [List.contains_cons, Bool.or_eq_false_iff] at h
    have hc : c ≠ '%' := by
      rintro rfl
      exact absurd h.1 (by decide)
    rw [List.cons_append, format_char hc, ih h.2, List.cons_append]

/-- The length of a text as an `int`, and a negative number where it has none. -/
def count (text : Text) : ℤ := if text.length ≤ 2147483647 then text.length else -1

/-- The number that is returned, and what is left in a buffer with so much room. -/
def snprintf (room : ℕ) (text : Text) : ℤ × Text := (count text, text.take (room - 1))

def overflows (room : ℕ) (text : Text) : Bool := decide (count text < 0) || decide ((room : ℤ) ≤ count text)

theorem overflows_eq_false {room : ℕ} (hroom : room ≤ 2147483648) {text : Text} :
    overflows room text = false ↔ text.length < room := by
  rw [overflows, Bool.or_eq_false_iff, decide_eq_false_iff_not, decide_eq_false_iff_not, count]
  split <;> omega

theorem overflows_eq_true {room : ℕ} (hroom : room ≤ 2147483648) {text : Text} :
    overflows room text = true ↔ room ≤ text.length := by
  rw [← Bool.not_eq_false, overflows_eq_false hroom, Nat.not_lt]

theorem snprintf_of_lt {room : ℕ} {text : Text} (h : text.length < room) : (snprintf room text).2 = text :=
  List.take_of_length_le (by omega)

theorem length_decimal_le {n digits : ℕ} (hdigits : 0 < digits) (h : n < 10 ^ digits) :
    (decimal n).length ≤ digits :=
  Nat.toDigits_length 10 n digits hdigits h

theorem length_hex {width n : ℕ} (hwidth : 0 < width) (h : n < 16 ^ width) : (hex width n).length = width := by
  rw [hex, List.length_leftpad]
  have := Nat.toDigits_length 16 n width hwidth h
  omega

theorem mem_toDigits {b n : ℕ} (hb : 1 < b) {c : Char} (h : c ∈ Nat.toDigits b n) : ∃ d < b, c = d.digitChar := by
  induction n using Nat.strong_induction_on with
  | _ n ih =>
    rw [Nat.toDigits_eq_if hb] at h
    split at h
    · rename_i hlt
      exact ⟨n, hlt, List.mem_singleton.mp h⟩
    · rename_i hle
      rcases List.mem_append.mp h with h | h
      · exact ih (n / b) (Nat.div_lt_self (by omega) hb) h
      · exact ⟨n % b, Nat.mod_lt n (by omega), List.mem_singleton.mp h⟩

end Printf
