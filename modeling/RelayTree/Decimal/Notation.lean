import RelayTree.Decimal.Shortest

/-!
# Writing doubles

Numbers in documents use the fewest digits that name them, always with a
fraction or an exponent so that they are not taken for integers.
-/
namespace RelayTree

/-- How decimals are written. Documents and diagnostics write the same number in different ways. -/
structure NumberStyle where
  /-- The least decimal exponent that is still written with leading zeros. -/
  leastPlain : Int
  /-- The first decimal exponent that is written with an exponent mark. -/
  firstScientific : Int
  /-- What a plain integer ends with. -/
  integerTail : String
  /-- What separates the digits from a non-negative exponent. -/
  exponentMark : String
  /-- What separates the digits from a negative exponent. -/
  negativeMark : String

/-- Documents write numbers from `0.00001` up to sixteen integer digits plainly
and give every exponent a sign. -/
def documentNumbers : NumberStyle := ⟨-5, 16, ".0", "e+", "e-"⟩

namespace NumberStyle

/-- An exponent with its mark; the mark carries the sign, so the digits are those of its absolute
value. -/
def exponentText (style : NumberStyle) : Int → String
  | .ofNat n => style.exponentMark ++ n.repr
  | .negSucc n => style.negativeMark ++ (n + 1).repr

/-- A run of zeros, before the digits of a small number or after those of a large one. -/
def zeros (count : Nat) : List Char := List.replicate count '0'

/-- A positive decimal. `first` is the exponent of its first digit, and decides whether the number
is written with an exponent mark. -/
def decimalText (style : NumberStyle) (x : Decimal) : String :=
  let digits := Nat.toDigits 10 x.digits
  let first : Int := x.exponent + (digits.length - 1)
  if style.leastPlain ≤ first ∧ first < style.firstScientific then
    if first < 0 then
      "0." ++ String.ofList (zeros (-first - 1).toNat ++ digits)
    else
      let whole := first.toNat + 1
      if digits.length ≤ whole then
        String.ofList (digits ++ zeros (whole - digits.length)) ++ style.integerTail
      else
        String.ofList (digits.take whole) ++ "." ++ String.ofList (digits.drop whole)
  else
    let fraction := digits.drop 1
    String.ofList (digits.take 1)
      ++ (if fraction.isEmpty then "" else "." ++ String.ofList fraction)
      ++ style.exponentText first

end NumberStyle

/-- The text of a finite double. Zero keeps its sign, and every other number is written by its
shortest decimal. -/
def Binary64.text (style : NumberStyle) (x : Binary64) : String :=
  let sign := if x.isNegative then "-" else ""
  if x.magnitude.isZero then sign ++ "0" ++ style.integerTail
  else sign ++ style.decimalText x.magnitude.shortest

end RelayTree
