import RelayTree.Json.Problem
import RelayTree.SortedMap

/-!
# Documents and how they are written

A document is built as a value and written in one of two layouts: without any
blank, or with one member a line and two blanks of indentation a level. Members
keep the order in which they are given.
-/
namespace RelayTree.Json

/-- A JSON document. Numbers are natural numbers or doubles; nothing that is
written here is a negative integer. -/
inductive Value where
  | null
  | bool (b : Bool)
  | natural (n : Nat)
  | real (x : Binary64)
  | string (s : String)
  | array (items : List Value)
  | object (members : List (String × Value))
deriving Repr, Inhabited

/-- The letter after the backslash for characters with an escape of their own. -/
def shortEscape? : Char → Option Char
  | '"' => some '"'
  | '\\' => some '\\'
  | '\x08' => some 'b'
  | '\x0c' => some 'f'
  | '\n' => some 'n'
  | '\r' => some 'r'
  | '\t' => some 't'
  | _ => none

/-- A hexadecimal digit in lower case, of which four make an escape. -/
def hexLetter (n : Nat) : Char := Nat.digitChar (n % 16)

/-- One character inside a string. Only quotes, backslashes and controls are
escaped; everything else stands for itself. -/
def escapeChar (c : Char) : List Char :=
  match shortEscape? c with
  | some letter => ['\\', letter]
  | none =>
    if c < ' ' then ['\\', 'u', '0', '0', hexLetter (c.toNat / 16), hexLetter c.toNat]
    else [c]

/-- A string with its quotes. Everything that could not stand between them is escaped. -/
def writeString (s : String) : List Char := '"' :: s.toList.flatMap escapeChar ++ ['"']

/-- A natural number in decimal digits, without leading zeros. -/
def writeNatural (n : Nat) : List Char := Nat.toDigits 10 n

/-- A double; one that is not finite has no numeral and is written as null. -/
def writeReal (x : Binary64) : List Char :=
  if x.isFinite then (x.text documentNumbers).toList else ['n', 'u', 'l', 'l']

/-- The opening brace of an object, written by its code since a brace in a text is code. -/
def openBrace : Char := '\x7b'

/-- The closing brace of an object, written by its code as well. -/
def closeBrace : Char := '\x7d'

/-- The values without structure, which look the same in both layouts. -/
def writeScalar : Value → List Char
  | .null => ['n', 'u', 'l', 'l']
  | .bool true => ['t', 'r', 'u', 'e']
  | .bool false => ['f', 'a', 'l', 's', 'e']
  | .natural n => writeNatural n
  | .real x => writeReal x
  | .string s => writeString s
  | .array _ => []
  | .object _ => []

mutual

/-- The layout without blanks, by recursion on the value together with its items and members. -/
def Value.write : Value → List Char
  | .array items => '[' :: writeItems items
  | .object members => openBrace :: writeMembers members
  | scalar => writeScalar scalar
termination_by structural value => value

/-- The items of a list and its closing bracket, with a comma after every item but the last. -/
def writeItems : List Value → List Char
  | [] => [']']
  | [last] => last.write ++ [']']
  | item :: rest => item.write ++ ',' :: writeItems rest
termination_by structural items => items

/-- The members of an object and its closing brace, with a comma after every member but the last. -/
def writeMembers : List (String × Value) → List Char
  | [] => [closeBrace]
  | [(name, value)] => writeString name ++ ':' :: value.write ++ [closeBrace]
  | (name, value) :: rest => writeString name ++ ':' :: value.write ++ ',' :: writeMembers rest
termination_by structural members => members

end

/-- A line break and the indentation of a level, which is two blanks for each bracket that is
open. -/
def newLine (level : Nat) : List Char := '\n' :: List.replicate (2 * level) ' '

mutual

/-- The layout with lines. An empty list or object stays on its line. -/
def Value.writeLines (level : Nat) : Value → List Char
  | .array [] => ['[', ']']
  | .array items => '[' :: writeItemLines level items
  | .object [] => [openBrace, closeBrace]
  | .object members => openBrace :: writeMemberLines level members
  | scalar => writeScalar scalar
termination_by structural value => value

/-- The items of a list, each on its line, and the closing bracket on its own. -/
def writeItemLines (level : Nat) : List Value → List Char
  | [] => newLine level ++ [']']
  | [last] => newLine (level + 1) ++ last.writeLines (level + 1) ++ newLine level ++ [']']
  | item :: rest =>
    newLine (level + 1) ++ item.writeLines (level + 1) ++ ',' :: writeItemLines level rest
termination_by structural items => items

/-- The members of an object, each on its line, and the closing brace on its own. -/
def writeMemberLines (level : Nat) : List (String × Value) → List Char
  | [] => newLine level ++ [closeBrace]
  | [(name, value)] =>
    newLine (level + 1) ++ writeString name ++ ':' :: ' ' :: value.writeLines (level + 1)
      ++ newLine level ++ [closeBrace]
  | (name, value) :: rest =>
    newLine (level + 1) ++ writeString name ++ ':' :: ' ' :: value.writeLines (level + 1)
      ++ ',' :: writeMemberLines level rest
termination_by structural members => members

end

/-- The document on one line, as messages are sent. -/
def Value.compact (value : Value) : String := String.ofList value.write

/-- The document with one member a line, as files are written for people. -/
def Value.pretty (value : Value) : String := String.ofList (value.writeLines 0)

/-- A string, or null where there is none; the empty string is still a string. -/
def Value.ofOption : Option String → Value
  | none => .null
  | some s => .string s

/-- An object of strings in the order of its keys, which is the order of the map it comes from. -/
def Value.ofTexts (texts : SortedMap String String) : Value :=
  .object (texts.entries.map fun entry => (entry.1, .string entry.2))

end RelayTree.Json
