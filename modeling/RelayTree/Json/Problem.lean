import RelayTree.Decimal.Notation
import RelayTree.Text.Quoted

/-!
# What can be wrong with a document

A document is either not JSON at all, which is a *syntax* fault, or it is JSON
of another shape than the one wanted, which is a *data* fault. Reading stops at
the first fault in document order, so exactly one of the two is reported.
-/
namespace RelayTree.Json

/-- Why a text is not JSON. Which of these is reported depends on how far the text could be
followed. -/
inductive SyntaxFault where
  | endInValue
  | endInList
  | endInObject
  | endInString
  | colonWanted
  | listCommaWanted
  | objectCommaWanted
  | wordWanted
  | valueWanted
  | keyWanted
  | trailingComma
  | trailingText
  | invalidEscape
  | invalidNumber
  | numberOutOfRange
  | controlCharacter
  | loneSurrogate
  | halfSurrogatePair
deriving DecidableEq, Repr

/-- The sentence shown for a syntax fault. It says what was wanted or what ended too soon, and not
where. -/
def SyntaxFault.message : SyntaxFault → String
  | .endInValue => "EOF while parsing a value"
  | .endInList => "EOF while parsing a list"
  | .endInObject => "EOF while parsing an object"
  | .endInString => "EOF while parsing a string"
  | .colonWanted => "expected `:`"
  | .listCommaWanted => "expected `,` or `]`"
  | .objectCommaWanted => "expected `,` or `\x7d`"
  | .wordWanted => "expected ident"
  | .valueWanted => "expected value"
  | .keyWanted => "key must be a string"
  | .trailingComma => "trailing comma"
  | .trailingText => "trailing characters"
  | .invalidEscape => "invalid escape"
  | .invalidNumber => "invalid number"
  | .numberOutOfRange => "number out of range"
  | .controlCharacter =>
    "control character (\\u0000-\\u001F) found while parsing a string"
  | .loneSurrogate => "lone leading surrogate in hex escape"
  | .halfSurrogatePair => "unexpected end of hex escape"

/-- A number as its numeral denotes it: an integer of at most 64 bits, or a
double for everything else, negative zero included. -/
inductive Number where
  | natural (n : Nat)
  | negative (n : Nat)
  | real (x : Binary64)
deriving DecidableEq, Repr

/-- What stood where something else was wanted, as far as it is told in the report. -/
inductive Found where
  | null
  | bool (b : Bool)
  | number (n : Number)
  | string (s : String)
  | sequence
  | map
  | unitVariant
deriving DecidableEq, Repr

/-- The phrase for what was found, with its value where that is a single one. -/
def Found.describe : Found → String
  | .null => "null"
  | .bool true => "boolean `true`"
  | .bool false => "boolean `false`"
  | .number (.natural n) => "integer `" ++ n.repr ++ "`"
  | .number (.negative n) => "integer `-" ++ n.repr ++ "`"
  | .number (.real x) => "floating point `" ++ x.text documentNumbers ++ "`"
  | .string s => "string " ++ quoted s
  | .sequence => "sequence"
  | .map => "map"
  | .unitVariant => "unit variant"

/-- Why a JSON value is not of the wanted shape. What was wanted is said in the words of whoever
reads it. -/
inductive DataFault where
  | wrongType (found : Found) (wanted : String)
  | wrongValue (found : Found) (wanted : String)
  | wrongLength (length : Nat) (wanted : String)
  | missingField (name : String)
  | duplicateField (name : String)
  | unknownVariant (name : String) (known : List String)
  | refused (reason : String)
deriving DecidableEq, Repr

/-- The known variants as an enumeration, in which two are told from more than two. -/
def alternatives : List String → String
  | [] => "there are no variants"
  | [one] => "expected `" ++ one ++ "`"
  | [one, two] => "expected `" ++ one ++ "` or `" ++ two ++ "`"
  | many => "expected one of " ++ ", ".intercalate (many.map fun name => "`" ++ name ++ "`")

/-- The sentence shown for a data fault, with names of fields and variants between backquotes. -/
def DataFault.message : DataFault → String
  | .wrongType found wanted => "invalid type: " ++ found.describe ++ ", expected " ++ wanted
  | .wrongValue found wanted => "invalid value: " ++ found.describe ++ ", expected " ++ wanted
  | .wrongLength length wanted => "invalid length " ++ length.repr ++ ", expected " ++ wanted
  | .missingField name => "missing field `" ++ name ++ "`"
  | .duplicateField name => "duplicate field `" ++ name ++ "`"
  | .unknownVariant name known => "unknown variant `" ++ name ++ "`, " ++ alternatives known
  | .refused reason => reason

/-- The first fault of a document, of the one class or of the other. -/
inductive Problem where
  | malformed (fault : SyntaxFault)
  | mismatched (fault : DataFault)
deriving DecidableEq, Repr

/-- The sentence shown for the fault, whichever of the two it is. -/
def Problem.message : Problem → String
  | .malformed fault => fault.message
  | .mismatched fault => fault.message

end RelayTree.Json
