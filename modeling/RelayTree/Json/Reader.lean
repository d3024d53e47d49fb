import RelayTree.Json.Scan
import RelayTree.SortedMap

/-!
# Reading documents of a known shape

A reader takes a value of the wanted shape from the front of a text and returns
the rest, or the first fault it meets. Composite shapes are records, which may
be objects or lists of their fields in order, and variants, which are a name or
an object with one member.
-/
namespace RelayTree.Json

/-- Takes a value from the front of a text, and gives it with the text after it or the first
fault. -/
def Reader (α : Type) := List Char → Except Problem (α × List Char)

/-- A fault of the wanted shape: the text may well be JSON, but of something else. -/
def mismatch {α : Type} (fault : DataFault) : Except Problem α := .error (.mismatched fault)

/-- A fault of the text, whatever shape was wanted. -/
def malformed {α : Type} (fault : SyntaxFault) : Except Problem α := .error (.malformed fault)

/-- A scanned part; its faults are faults of the text, since scanning does not know what is
wanted. -/
def scanned {α : Type} : Except SyntaxFault α → Except Problem α
  | .ok value => .ok value
  | .error fault => malformed fault

namespace Reader

variable {α β : Type}

/-- Apply a function to what is read. The faults are those of the reader. -/
def map (f : α → β) (reader : Reader α) : Reader β := fun input =>
  match reader input with
  | .ok (value, rest) => .ok (f value, rest)
  | .error problem => .error problem

/-- What stands at the front, named for a diagnostic. Lists and objects are
named by their bracket; any other value must be well formed to be named. -/
def found (input : List Char) : Except SyntaxFault Found :=
  match input with
  | [] => .error .endInValue
  | 'n' :: rest => (word ['u', 'l', 'l'] rest).map fun _ => .null
  | 't' :: rest => (word ['r', 'u', 'e'] rest).map fun _ => .bool true
  | 'f' :: rest => (word ['a', 'l', 's', 'e'] rest).map fun _ => .bool false
  | '-' :: rest => (number true rest).map fun read => .number read.1
  | '"' :: rest => (stringBody rest).map fun read => .string (String.ofList read.1)
  | '[' :: _ => .ok .sequence
  | '\x7b' :: _ => .ok .map
  | c :: rest =>
    if c.isDigit then (number false (c :: rest)).map fun read => .number read.1
    else .error .valueWanted

/-- The fault of a value that has another shape than the wanted one. -/
def otherShape (wanted : String) (input : List Char) : Except Problem α :=
  match found input with
  | .ok what => mismatch (.wrongType what wanted)
  | .error fault => malformed fault

/-- A string, with its escapes read as the characters they denote. -/
def text : Reader String := fun input =>
  match skipBlanks input with
  | '"' :: rest =>
    match stringBody rest with
    | .ok (chars, rest) => .ok (String.ofList chars, rest)
    | .error fault => malformed fault
  | other => otherShape "a string" other

/-- A string or null. A value of any other kind is told to be no string. -/
def optionalText : Reader (Option String) := fun input =>
  match skipBlanks input with
  | 'n' :: rest =>
    match word ['u', 'l', 'l'] rest with
    | .ok rest => .ok (none, rest)
    | .error fault => malformed fault
  | other => text.map some other

/-- A truth value, by one of its two words. -/
def truth : Reader Bool := fun input =>
  match skipBlanks input with
  | 't' :: rest => (scanned (word ['r', 'u', 'e'] rest)).map (true, ·)
  | 'f' :: rest => (scanned (word ['a', 'l', 's', 'e'] rest)).map (false, ·)
  | other => otherShape "a boolean" other

/-- The value null, by its word, which is what a variant without content may be written with. -/
def null : Reader Unit := fun input =>
  match skipBlanks input with
  | 'n' :: rest => (scanned (word ['u', 'l', 'l'] rest)).map ((), ·)
  | other => otherShape "unit" other

/-- A number of any kind, integer or not. What is wanted of it is said by the caller, for the
report. -/
def anyNumber (wanted : String) : Reader Number := fun input =>
  match skipBlanks input with
  | '-' :: rest => scanned (number true rest)
  | c :: rest =>
    if c.isDigit then scanned (number false (c :: rest)) else otherShape wanted (c :: rest)
  | [] => otherShape wanted []

/-- A natural number up to a limit. A numeral with a point or an exponent is not
an integer, whatever its value. -/
def natural (limit : Nat) (wanted : String) : Reader Nat := fun input =>
  match anyNumber wanted input with
  | .error problem => .error problem
  | .ok (.natural n, rest) =>
    if n ≤ limit then .ok (n, rest) else mismatch (.wrongValue (.number (.natural n)) wanted)
  | .ok (.negative n, _) => mismatch (.wrongValue (.number (.negative n)) wanted)
  | .ok (.real x, _) => mismatch (.wrongType (.number (.real x)) wanted)

/-- The double nearest to an integer of at most 64 bits, which is never out of range. -/
def realOfNatural (negative : Bool) (n : Nat) : Binary64 :=
  Binary64.ofMagnitude negative ((Magnitude.ofNat n).getD ⟨0, 0⟩)

/-- A double; an integer counts as one, and is rounded to the nearest where it has too many
digits. -/
def real : Reader Binary64 := (anyNumber "f64").map fun
  | .natural n => realOfNatural false n
  | .negative n => realOfNatural true n
  | .real x => x

/-! ## Lists and objects -/

/-- Where the next item of a list starts, `none` at the closing bracket. A comma
stands before every item but the first. -/
def nextItem (first : Bool) (input : List Char) : Except SyntaxFault (Option (List Char)) :=
  match skipBlanks input with
  | [] => .error .endInList
  | ']' :: _ => .ok none
  | other =>
    if first then .ok (some other)
    else
      match other with
      | ',' :: rest =>
        match skipBlanks rest with
        | [] => .error .endInValue
        | ']' :: _ => .error .trailingComma
        | item => .ok (some item)
      | _ => .error .listCommaWanted

/-- The text after the bracket that closes a list. A comma before it is a fault of its own, and so
is anything else that is left. -/
def endList (input : List Char) : Except SyntaxFault (List Char) :=
  match skipBlanks input with
  | ']' :: rest => .ok rest
  | ',' :: rest =>
    match skipBlanks rest with
    | ']' :: _ => .error .trailingComma
    | _ => .error .trailingText
  | [] => .error .endInList
  | _ => .error .trailingText

/-- A key must start here. Only a string can be one: anything else is a fault of
the text, well formed or not. -/
def keyStart : List Char → Except SyntaxFault (List Char)
  | [] => .error .endInValue
  | '"' :: rest => .ok ('"' :: rest)
  | _ => .error .keyWanted

/-- Where the next key of an object starts, `none` at the closing brace. -/
def nextKey (first : Bool) (input : List Char) : Except SyntaxFault (Option (List Char)) :=
  match skipBlanks input with
  | [] => .error .endInObject
  | '\x7d' :: _ => .ok none
  | other =>
    if first then (keyStart other).map some
    else
      match other with
      | ',' :: rest =>
        match skipBlanks rest with
        | '\x7d' :: _ => .error .trailingComma
        | key => (keyStart key).map some
      | _ => .error .objectCommaWanted

/-- The text after the brace that closes an object, where no further member is wanted. -/
def endObject (input : List Char) : Except SyntaxFault (List Char) :=
  match skipBlanks input with
  | '\x7d' :: rest => .ok rest
  | ',' :: _ => .error .trailingComma
  | [] => .error .endInObject
  | _ => .error .trailingText

/-- The text after the colon of a member, with any blanks before it. -/
def colon (input : List Char) : Except SyntaxFault (List Char) :=
  match skipBlanks input with
  | ':' :: rest => .ok rest
  | [] => .error .endInObject
  | _ => .error .colonWanted

/-- The items of a list up to its closing bracket. Each takes at least one
character, so the length of the text bounds their number. -/
def items (item : Reader α) : Nat → Bool → Reader (List α)
  | 0, _, _ => malformed .endInList
  | bound + 1, first, input => do
    match ← scanned (nextItem first input) with
    | none => return ([], ← scanned (endList input))
    | some start =>
      let (value, rest) ← item start
      let (values, rest) ← items item bound false rest
      return (value :: values, rest)

/-- A list of values of one shape, in their order. The first item that is not of that shape is the
fault. -/
def list (item : Reader α) : Reader (List α) := fun input =>
  match skipBlanks input with
  | '[' :: rest => items item (rest.length + 1) true rest
  | other => otherShape "a sequence" other

/-- The members of an object of strings, added to a map; the last value of a
repeated key stays. -/
def textMembers : Nat → Bool → SortedMap String String → Reader (SortedMap String String)
  | 0, _, _, _ => malformed .endInObject
  | bound + 1, first, texts, input => do
    match ← scanned (nextKey first input) with
    | none => return (texts, ← scanned (endObject input))
    | some start =>
      let (name, rest) ← text start
      let (value, rest) ← text (← scanned (colon rest))
      textMembers bound false (texts.insert name value) rest

/-- An object of strings. Of two members with one name the later one counts. -/
def texts : Reader (SortedMap String String) := fun input =>
  match skipBlanks input with
  | '\x7b' :: rest => textMembers (rest.length + 1) true .empty rest
  | other => otherShape "a map" other

/-! ## Records -/

/-- A field of a record under construction: how to tell whether it was read, how
to read it into the record, and what an absent one leaves behind. -/
structure Field (σ : Type) where
  name : String
  present : σ → Bool
  read : σ → Reader σ
  absent : Option (σ → σ)

/-- A field that must be there. If it never comes, its absence is the fault. -/
def required {σ : Type} (name : String) (get : σ → Option α) (set : σ → α → σ)
    (reader : Reader α) : Field σ where
  name := name
  present draft := (get draft).isSome
  read draft := reader.map (set draft)
  absent := none

/-- A field that may be left out, with the value it then has. -/
def optional {σ : Type} (name : String) (get : σ → Option α) (set : σ → α → σ)
    (reader : Reader α) (fallback : α) : Field σ where
  name := name
  present draft := (get draft).isSome
  read draft := reader.map (set draft)
  absent := some fun draft => set draft fallback

variable {σ : Type}

/-- The members of a record's object. A known field may come once, in any place;
an unknown one is skipped. -/
def recordMembers (fields : List (Field σ)) : Nat → Bool → σ → Reader σ
  | 0, _, _, _ => malformed .endInObject
  | bound + 1, first, draft, input => do
    match ← scanned (nextKey first input) with
    | none => return (draft, input)
    | some start =>
      let (name, rest) ← text start
      match fields.find? (·.name = name) with
      | none =>
        let rest ← scanned (skipValue (← scanned (colon rest)))
        recordMembers fields bound false draft rest
      | some field =>
        if field.present draft then mismatch (.duplicateField name)
        else
          let (draft, rest) ← field.read draft (← scanned (colon rest))
          recordMembers fields bound false draft rest

/-- Give the fields that were left out their fallback; the first without one is
missing. -/
def complete : List (Field σ) → σ → Except DataFault σ
  | [], draft => .ok draft
  | field :: rest, draft =>
    if field.present draft then complete rest draft
    else
      match field.absent with
      | some leave => complete rest (leave draft)
      | none => .error (.missingField field.name)

/-- The fields of a record's list, in order. The list may end early where only
fields with a fallback follow. `position` counts the fields before. -/
def recordItems (wanted : String) : Nat → List (Field σ) → σ → Reader σ
  | _, [], draft, input => .ok (draft, input)
  | position, field :: rest, draft, input => do
    match ← scanned (nextItem (position = 0) input) with
    | some start =>
      let (draft, input) ← field.read draft start
      recordItems wanted (position + 1) rest draft input
    | none =>
      match field.absent with
      | some leave => recordItems wanted (position + 1) rest (leave draft) input
      | none => mismatch (.wrongLength position wanted)

/-- A record: an object with its fields as members or a list of them in order. -/
def record (shape : String) (fields : List (Field σ)) (blank : σ) : Reader σ := fun input =>
  match skipBlanks input with
  | '\x7b' :: rest => do
    let (draft, rest) ← recordMembers fields (rest.length + 1) true blank rest
    match complete fields draft with
    | .ok draft => return (draft, ← scanned (endObject rest))
    | .error fault => mismatch fault
  | '[' :: rest => do
    let wanted := shape ++ " with " ++ fields.length.repr ++ " elements"
    let (draft, rest) ← recordItems wanted 0 fields blank rest
    return (draft, ← scanned (endList rest))
  | other => otherShape shape other

/-! ## Variants -/

/-- What a variant carries: nothing, one value, or a record. How it may be written depends on
this. -/
inductive Content (α : Type) where
  | unit (value : α)
  | single (reader : Reader α)
  | fields (reader : Reader α)

/-- A variant written as its name alone, which only one without content may be. -/
def Content.byName : Content α → Except DataFault α
  | .unit value => .ok value
  | .single _ => .error (.wrongType .unitVariant "newtype variant")
  | .fields _ => .error (.wrongType .unitVariant "struct variant")

/-- The content of a variant written as an object's member. One that carries nothing has null for
it. -/
def Content.reader : Content α → Reader α
  | .unit value => null.map fun _ => value
  | .single reader => reader
  | .fields reader => reader

/-- The content that belongs to a name. For any other name the known ones are part of the report. -/
def choose (cases : List (String × Content α)) (name : String) : Except DataFault (Content α) :=
  match cases.find? (·.1 = name) with
  | some (_, content) => .ok content
  | none => .error (.unknownVariant name (cases.map (·.1)))

/-- One of several variants: a name, or an object whose only member has the name
as its key. -/
def oneOf (cases : List (String × Content α)) : Reader α := fun input =>
  match skipBlanks input with
  | '"' :: rest => do
    let (name, rest) ← text ('"' :: rest)
    match choose cases name with
    | .error fault => mismatch fault
    | .ok content =>
      match content.byName with
      | .ok value => return (value, rest)
      | .error fault => mismatch fault
  | '\x7b' :: rest => do
    let (name, rest) ← text (← scanned (keyStart (skipBlanks rest)))
    match choose cases name with
    | .error fault => mismatch fault
    | .ok content =>
      let (value, rest) ← content.reader (← scanned (colon rest))
      match skipBlanks rest with
      | '\x7d' :: rest => return (value, rest)
      | [] => malformed .endInObject
      | _ => malformed .valueWanted
  | [] => malformed .endInValue
  | _ => malformed .valueWanted

/-! ## Whole documents -/

/-- Read a text that holds one document and nothing but blanks around it. -/
def run (reader : Reader α) (input : String) : Except Problem α := do
  let (value, rest) ← reader input.toList
  match skipBlanks rest with
  | [] => return value
  | _ => malformed .trailingText

end Reader

end RelayTree.Json
