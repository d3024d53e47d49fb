import Mathlib.Data.List.TakeDrop
import RelayTree.Json.Reader
import RelayTree.Json.Value

/-!
# Written strings and numerals are scanned

A string is written character by character, and each character, escaped or not, is scanned as that
character. So the scan of a written string ends at its closing quote with just its characters. A
natural number is written without a leading zero, and as long as it stays within 64 bits the scan
takes all its digits and gives the number back, provided that what follows cannot be a part of the
numeral.
-/

namespace RelayTree.Json

/-! ## Strings -/

/-- An escape of one letter stands for the character that it was made for, and none is the letter
of a numeric escape. -/
theorem unescape_short {c letter : Char} (short : shortEscape? c = some letter) :
    unescape? letter = some c ∧ letter ≠ 'u' := by
  unfold shortEscape? at short
  split at short <;> cases short <;> decide

/-- A control character is found again by its number, which is written in four digits of which two
are zeros. -/
theorem hex_unit_control : ∀ n < 32, hexUnit? '0' '0' (hexLetter (n / 16)) (hexLetter n) = some n := by
  decide

/-- Each character is scanned as it was written, be it by itself, by a letter after a backslash, or
by its number. -/
theorem string_body_escaped (c : Char) (rest : List Char) :
    stringBody (escapeChar c ++ rest) = prepend c (stringBody rest) := by
  unfold escapeChar
  cases short : shortEscape? c with
  | some letter =>
    obtain ⟨restored, other⟩ := unescape_short short
    simp [stringBody, restored, other]
  | none =>
    have plain : c ≠ '"' ∧ c ≠ '\\' := by
      constructor <;> rintro rfl <;> cases short
    by_cases control : c < ' '
    · have small : c.toNat < 32 := control
      have unit := hex_unit_control c.toNat small
      have single : isTrailing c.toNat = false ∧ isLeading c.toNat = false := by
        simp only [isTrailing, isLeading, Bool.and_eq_false_iff, decide_eq_false_iff_not]
        omega
      simp [stringBody, control, unit, single, Char.ofNat_toNat]
    · simp [stringBody, control, plain]

/-- A written string is scanned up to its closing quote, by induction on its characters. No quote
before that one stands alone. -/
theorem string_body_written (text rest : List Char) :
    stringBody (text.flatMap escapeChar ++ '"' :: rest) = .ok (text, rest) := by
  induction text with
  | nil => rfl
  | cons c text inductionHypothesis =>
    rw [List.flatMap_cons, List.append_assoc, string_body_escaped, inductionHypothesis]
    rfl

/-! ## Numerals -/

/-- Nothing that could go on with a numeral is in front, so that a numeral ends there. -/
def Ends (rest : List Char) : Prop :=
  ∀ c ∈ rest.head?, c.isDigit = false ∧ c ≠ '.' ∧ c ≠ 'e' ∧ c ≠ 'E'

/-- Digits are taken up to where they end, and not further. -/
theorem span_digits_append {digits rest : List Char} (all : ∀ c ∈ digits, c.isDigit = true)
    (ends : Ends rest) : spanDigits (digits ++ rest) = (digits, rest) := by
  rw [spanDigits, List.span_eq_takeWhile_dropWhile, List.takeWhile_append_of_pos all,
    List.dropWhile_append_of_pos all]
  cases rest with
  | nil => simp
  | cons c rest =>
    have other : c.isDigit = false := (ends c rfl).1
    simp [other]

/-- A zero in front stands alone, since no number is written with a leading one. The front digit of
a positive number is that of a smaller number, or the number itself is the digit. -/
theorem written_zero_alone {n : Nat} {rest : List Char} (zero : writeNatural n = '0' :: rest) :
    rest = [] := by
  have front : ∀ n, 0 < n → ∀ rest, Nat.toDigits 10 n ≠ '0' :: rest := by
    intro n
    induction n using Nat.strongRecOn with
    | ind n inductionHypothesis =>
      intro positive rest written
      by_cases small : n < 10
      · rw [Nat.toDigits_of_lt_base small] at written
        have digit : ∀ m < 10, 0 < m → m.digitChar ≠ '0' := by decide
        exact digit n small positive (List.cons.inj written).1
      · rw [Nat.toDigits_of_base_le (by decide) (Nat.le_of_not_lt small)] at written
        cases leading : Nat.toDigits 10 (n / 10) with
        | nil => exact Nat.toDigits_ne_nil leading
        | cons first others =>
          rw [leading] at written
          rw [(List.cons.inj written).1] at leading
          exact inductionHypothesis (n / 10) (by omega) (by omega) others leading
  rcases Nat.eq_zero_or_pos n with rfl | positive
  · exact (List.cons.inj zero).2.symm
  · exact absurd zero (front n positive rest)

/-- A written number is taken as the part before the point, with all of its digits. It is not
refused for a leading zero, because the only number that begins with a zero is zero. -/
theorem whole_digits_written (n : Nat) {rest : List Char} (ends : Ends rest) :
    wholeDigits (writeNatural n ++ rest) = .ok (writeNatural n, rest) := by
  have all : ∀ c ∈ writeNatural n, c.isDigit = true := fun c member =>
    Nat.isDigit_of_mem_toDigits (by decide) (by decide) member
  have some : someDigits (writeNatural n ++ rest) = .ok (writeNatural n, rest) := by
    rw [someDigits, span_digits_append all ends]
    cases written : writeNatural n with
    | nil => exact absurd written Nat.toDigits_ne_nil
    | cons c others => rfl
  rw [wholeDigits, some]
  split
  · rename_i equal
    cases equal
  · rename_i equal
    have written := (Prod.mk.inj (Except.ok.inj equal)).1
    cases written_zero_alone written
  · rename_i equal
    rw [equal]

/-- Further digits do not make a number smaller, so one that is too large stays so. -/
theorem le_of_digit_chars (digits : List Char) (value : Nat) :
    value ≤ Nat.ofDigitChars 10 digits value := by
  induction digits generalizing value with
  | nil => exact Nat.le_refl value
  | cons c digits inductionHypothesis =>
    have step : value ≤ 10 * value + (c.toNat - '0'.toNat) := by omega
    exact Nat.le_trans step (inductionHypothesis _)

/-- Digits all fit if the whole number does, by induction on them. Every number on the way there is
smaller than the last one, and so it is within the limit as well. -/
theorem take_fitting_all (digits : List Char) (value : Nat)
    (fits : Nat.ofDigitChars 10 digits value ≤ largestNatural) :
    takeFitting value digits = (Nat.ofDigitChars 10 digits value, digits.length) := by
  induction digits generalizing value with
  | nil => rfl
  | cons c digits inductionHypothesis =>
    have next : Nat.ofDigitChars 10 (c :: digits) value =
        Nat.ofDigitChars 10 digits (value * 10 + (c.toNat - '0'.toNat)) := by
      rw [Nat.mul_comm]
      rfl
    rw [next] at fits ⊢
    have here := Nat.le_trans (le_of_digit_chars digits _) fits
    simp only [takeFitting, if_pos here, inductionHypothesis _ fits, List.length_cons]

/-- A written number within 64 bits is read, and read as an integer. Neither a point nor an exponent
follows, and the digits are all taken, so no fraction comes into it. -/
theorem number_written {n : Nat} (fits : n ≤ largestNatural) {rest : List Char} (ends : Ends rest) :
    number false (writeNatural n ++ rest) = .ok (.natural n, rest) := by
  have value : Nat.ofDigitChars 10 (writeNatural n) 0 = n :=
    Nat.ofDigitChars_toDigits (by decide) (by decide)
  have taken : takeFitting 0 (writeNatural n) = (n, (writeNatural n).length) := by
    rw [take_fitting_all _ 0 (value.symm ▸ fits), value]
  have pointless : fractionDigits rest = .ok (none, rest) := by
    unfold fractionDigits
    split
    · rename_i after
      exact absurd rfl (ends '.' rfl).2.1
    · rfl
  have plain : exponentPart rest = .ok (none, rest) := by
    cases rest with
    | nil => rfl
    | cons c rest =>
      obtain ⟨_, _, lower, upper⟩ := ends c rfl
      simp [exponentPart, lower, upper]
  have form : numeral false (writeNatural n ++ rest) =
      .ok (⟨false, writeNatural n, none, none⟩, rest) := by
    simp [numeral, whole_digits_written n ends, pointless, plain, bind, Except.bind, pure, Except.pure]
  have denoted : Numeral.value? ⟨false, writeNatural n, none, none⟩ = some (.natural n) := by
    simp [Numeral.value?, taken]
  simp [number, form, denoted, bind, Except.bind, pure, Except.pure]

end RelayTree.Json
