import RelayTree.Json.Problem

/-!
# The lexical layer of JSON

Functions that take a text apart from the left and return what remains:
blanks, words, strings and numerals, and the skipping of a whole value nobody
asked for. A skipped value is only scanned: its strings may hold escapes that
denote no character and its numbers may be of any size.
-/
namespace RelayTree.Json

/-- The four characters that may stand between tokens. No other kind of white space counts as
one. -/
def isBlank (c : Char) : Bool := c = ' ' || c = '\n' || c = '\t' || c = '\r'

/-- Drop the blanks in front. What is left begins with a token or is empty. -/
def skipBlanks (input : List Char) : List Char := input.dropWhile isBlank

/-- A result of scanning together with the text after it, or why the text is not JSON. -/
abbrev Scanned (α : Type) := Except SyntaxFault (α × List Char)

/-- The letters of a word that must follow. Its first letter was read already and has told which
word it is. -/
def word : List Char → List Char → Except SyntaxFault (List Char)
  | [], rest => .ok rest
  | _ :: _, [] => .error .endInValue
  | wanted :: more, c :: rest => if c = wanted then word more rest else .error .wordWanted

/-! ## Strings -/

/-- The value of a hexadecimal digit of either case, and nothing for any other character. -/
def hexDigit? (c : Char) : Option Nat :=
  if '0' ≤ c ∧ c ≤ '9' then some (c.toNat - '0'.toNat)
  else if 'a' ≤ c ∧ c ≤ 'f' then some (c.toNat - 'a'.toNat + 10)
  else if 'A' ≤ c ∧ c ≤ 'F' then some (c.toNat - 'A'.toNat + 10)
  else none

/-- The 16-bit unit that four hexadecimal digits denote, if all of them are digits. -/
def hexUnit? (a b c d : Char) : Option Nat := do
  let high ← hexDigit? a
  let second ← hexDigit? b
  let third ← hexDigit? c
  let low ← hexDigit? d
  return ((high * 16 + second) * 16 + third) * 16 + low

/-- Whether a unit starts a surrogate pair, so that it denotes a character only together with the
next one. -/
def isLeading (unit : Nat) : Bool := 0xD800 ≤ unit && unit ≤ 0xDBFF

/-- Whether a unit ends a surrogate pair, and denotes nothing by itself. -/
def isTrailing (unit : Nat) : Bool := 0xDC00 ≤ unit && unit ≤ 0xDFFF

/-- The character of a surrogate pair, beyond those that a single unit can denote. -/
def joinSurrogates (leading trailing : Nat) : Char :=
  Char.ofNat ((leading - 0xD800) * 0x400 + (trailing - 0xDC00) + 0x10000)

/-- The character that a one-letter escape stands for. Any other letter after a backslash is a
fault. -/
def unescape? : Char → Option Char
  | '"' => some '"'
  | '\\' => some '\\'
  | '/' => some '/'
  | 'b' => some '\x08'
  | 'f' => some '\x0c'
  | 'n' => some '\n'
  | 'r' => some '\r'
  | 't' => some '\t'
  | _ => none

/-- Put a character in front of what was scanned after it, unless there was a fault. -/
def prepend (c : Char) : Scanned (List Char) → Scanned (List Char)
  | .ok (text, rest) => .ok (c :: text, rest)
  | .error fault => .error fault

/-- The characters of a string up to its closing quote. A unit from a surrogate
pair denotes a character only together with its partner. -/
def stringBody : List Char → Scanned (List Char)
  | [] => .error .endInString
  | '"' :: rest => .ok ([], rest)
  | '\\' :: escape =>
    match escape with
    | [] => .error .endInString
    | 'u' :: a :: b :: c :: d :: rest =>
      match hexUnit? a b c d with
      | none => .error .invalidEscape
      | some unit =>
        if isTrailing unit then .error .loneSurrogate
        else if isLeading unit then
          match rest with
          | '\\' :: 'u' :: e :: f :: g :: h :: rest =>
            match hexUnit? e f g h with
            | none => .error .invalidEscape
            | some trailing =>
              if isTrailing trailing then
                prepend (joinSurrogates unit trailing) (stringBody rest)
              else .error .loneSurrogate
          | ['\\'] => .error .endInString
          | '\\' :: 'u' :: _ => .error .endInString
          | [] => .error .endInString
          | _ => .error .halfSurrogatePair
        else prepend (Char.ofNat unit) (stringBody rest)
    | 'u' :: _ => .error .endInString
    | letter :: rest =>
      match unescape? letter with
      | some c => prepend c (stringBody rest)
      | none => .error .invalidEscape
  | c :: rest => if c < ' ' then .error .controlCharacter else prepend c (stringBody rest)

/-- The text after a string of which only the form matters: its escapes must be well formed, but
halves of surrogate pairs may stand alone. -/
def skipString : List Char → Except SyntaxFault (List Char)
  | [] => .error .endInString
  | '"' :: rest => .ok rest
  | '\\' :: escape =>
    match escape with
    | [] => .error .endInString
    | 'u' :: a :: b :: c :: d :: rest =>
      if (hexUnit? a b c d).isSome then skipString rest else .error .invalidEscape
    | 'u' :: _ => .error .endInString
    | letter :: rest =>
      if (unescape? letter).isSome then skipString rest else .error .invalidEscape
  | c :: rest => if c < ' ' then .error .controlCharacter else skipString rest

/-! ## Numbers -/

/-- A numeral taken apart: sign, digits before and after the point, exponent. Its value is computed
from this in one step. -/
structure Numeral where
  negative : Bool
  whole : List Char
  fraction : Option (List Char)
  exponent : Option Int
deriving DecidableEq, Repr

/-- The number that a row of digits denotes, the most significant one first. -/
def digitsValue (digits : List Char) : Nat :=
  digits.foldl (fun value c => value * 10 + (c.toNat - '0'.toNat)) 0

/-- The digits in front and the text after them; there may be none. -/
def spanDigits (input : List Char) : List Char × List Char := input.span Char.isDigit

/-- Digits where at least one must stand. That the text ends is told from another character in their
place. -/
def someDigits (input : List Char) : Scanned (List Char) :=
  match spanDigits input with
  | ([], []) => .error .endInValue
  | ([], _) => .error .invalidNumber
  | (digits, rest) => .ok (digits, rest)

/-- The digits before the point: a zero stands alone, and so no number is written in two ways by
zeros before it. -/
def wholeDigits (input : List Char) : Scanned (List Char) :=
  match someDigits input with
  | .error fault => .error fault
  | .ok ('0' :: _ :: _, _) => .error .invalidNumber
  | .ok whole => .ok whole

/-- The digits after a point, if there is one. A point without digits after it is a fault. -/
def fractionDigits : List Char → Scanned (Option (List Char))
  | '.' :: rest =>
    match someDigits rest with
    | .error fault => .error fault
    | .ok (digits, rest) => .ok (some digits, rest)
  | rest => .ok (none, rest)

/-- The digits of an exponent with their sign, which may be left out where it is positive. -/
def signedDigits (input : List Char) : Scanned Int :=
  let (negative, digits) :=
    match input with
    | '+' :: rest => (false, rest)
    | '-' :: rest => (true, rest)
    | rest => (false, rest)
  match someDigits digits with
  | .error fault => .error fault
  | .ok (digits, rest) =>
    .ok (if negative then -(digitsValue digits : Int) else digitsValue digits, rest)

/-- The exponent after its mark, if there is one. The mark may be a small or a capital letter. -/
def exponentPart (input : List Char) : Scanned (Option Int) :=
  match input with
  | c :: rest =>
    if c = 'e' ∨ c = 'E' then
      match signedDigits rest with
      | .error fault => .error fault
      | .ok (exponent, rest) => .ok (some exponent, rest)
    else .ok (none, input)
  | [] => .ok (none, [])

/-- A numeral whose sign has been read. What follows it in the text is left to the caller. -/
def numeral (negative : Bool) (input : List Char) :
    Except SyntaxFault (Numeral × List Char) := do
  let (whole, rest) ← wholeDigits input
  let (fraction, rest) ← fractionDigits rest
  let (exponent, rest) ← exponentPart rest
  return (⟨negative, whole, fraction, exponent⟩, rest)

/-- The largest integer that counts as one. Beyond it a numeral denotes a double. -/
def largestNatural : Nat := twoTo 64 - 1

/-- Append digits to a number while it stays within 64 bits. Returns the number
and how many digits it took; the digits from the first misfit on are left out. -/
def takeFitting (value : Nat) : List Char → Nat × Nat
  | [] => (value, 0)
  | c :: rest =>
    let next := value * 10 + (c.toNat - '0'.toNat)
    if next ≤ largestNatural then
      let (result, count) := takeFitting next rest
      (result, count + 1)
    else (value, 0)

/-- The number a numeral denotes; `none` when it is a double out of range.
Integers within 64 bits are exact. Anything else is a double made from the
leading digits that fit 64 bits; the digits left out before the point count
towards the exponent. -/
def Numeral.value? (n : Numeral) : Option Number :=
  let (leading, taken) := takeFitting 0 n.whole
  let dropped := n.whole.length - taken
  if dropped = 0 ∧ n.fraction = none ∧ n.exponent = none
      ∧ (n.negative = false ∨ (0 < leading ∧ leading ≤ twoTo 63)) then
    some (if n.negative then .negative leading else .natural leading)
  else
    let (significand, places) := takeFitting leading (n.fraction.getD [])
    let exponent : Int := dropped - places + n.exponent.getD 0
    (Magnitude.ofNumeral significand exponent).map fun x =>
      .real (Binary64.ofMagnitude n.negative x)

/-- A number whose sign has been read. Its numeral may denote nothing, by being too large for a
double. -/
def number (negative : Bool) (input : List Char) :
    Except SyntaxFault (Number × List Char) := do
  let (form, rest) ← numeral negative input
  match form.value? with
  | some value => return (value, rest)
  | none => throw .numberOutOfRange

/-! ## Skipping a value -/

/-- An open bracket: which one it is decides what closes it, and whether keys are wanted inside. -/
inductive Bracket where
  | list
  | object
deriving DecidableEq

/-- The key of an object's member and the colon after it, with any blanks before each of them. -/
def skipKey (input : List Char) : Except SyntaxFault (List Char) :=
  match skipBlanks input with
  | '"' :: rest => do
    match skipBlanks (← skipString rest) with
    | ':' :: rest => return rest
    | [] => throw .endInObject
    | _ => throw .colonWanted
  | [] => .error .endInObject
  | _ => .error .keyWanted

/-- A value that is neither a list nor an object. Its first character tells which kind it is. -/
def skipScalar : List Char → Except SyntaxFault (List Char)
  | [] => .error .endInValue
  | 'n' :: rest => word ['u', 'l', 'l'] rest
  | 't' :: rest => word ['r', 'u', 'e'] rest
  | 'f' :: rest => word ['a', 'l', 's', 'e'] rest
  | '"' :: rest => skipString rest
  | '-' :: rest => (numeral true rest).map (·.2)
  | c :: rest => if c.isDigit then (numeral false (c :: rest)).map (·.2) else .error .valueWanted

/-- Skip what is open. Each round consumes a character, so the length of the
text bounds the number of rounds. With `inside` a value has just ended within
the innermost bracket; otherwise a value must start. -/
def skipOpen : Nat → Bool → List Bracket → List Char → Except SyntaxFault (List Char)
  | 0, _, _, _ => .error .endInValue
  | _ + 1, true, [], input => .ok input
  | rounds + 1, true, .list :: brackets, input =>
    match skipBlanks input with
    | ',' :: rest => skipOpen rounds false (.list :: brackets) rest
    | ']' :: rest => skipOpen rounds true brackets rest
    | [] => .error .endInList
    | _ => .error .listCommaWanted
  | rounds + 1, true, .object :: brackets, input =>
    match skipBlanks input with
    | ',' :: rest => do skipOpen rounds false (.object :: brackets) (← skipKey rest)
    | '\x7d' :: rest => skipOpen rounds true brackets rest
    | [] => .error .endInObject
    | _ => .error .objectCommaWanted
  | rounds + 1, false, brackets, input =>
    match skipBlanks input with
    | '[' :: rest =>
      match skipBlanks rest with
      | ']' :: rest => skipOpen rounds true brackets rest
      | rest => skipOpen rounds false (.list :: brackets) rest
    | '\x7b' :: rest =>
      match skipBlanks rest with
      | '\x7d' :: rest => skipOpen rounds true brackets rest
      | rest => do skipOpen rounds false (.object :: brackets) (← skipKey rest)
    | rest => do skipOpen rounds true brackets (← skipScalar rest)

/-- The text after one value of any kind. The length of the text is more than enough for the
brackets that can be open. -/
def skipValue (input : List Char) : Except SyntaxFault (List Char) :=
  skipOpen (input.length + 1) false [] input

end RelayTree.Json
