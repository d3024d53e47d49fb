import RelayTree.Failure

/-!
# Addresses

A module is addressed by its host and its own name. The written form has exactly
one colon, so neither part of a parsed address contains one.
-/
namespace RelayTree

/-- A module on a host. Either part may be empty: a message without target module is a
publication. -/
structure Address where
  host : String
  module : String
deriving DecidableEq, Repr, Inhabited

namespace Address

/-- The written form, in which the two parts can be told apart only if neither has a colon. -/
def text (address : Address) : String := address.host ++ ":" ++ address.module

/-- The two parts of a text around its only colon. A text with none or with several is no
address. -/
def split (text : List Char) : Option (List Char × List Char) :=
  match text.span (· ≠ ':') with
  | (host, ':' :: module) => if ':' ∈ module then none else some (host, module)
  | _ => none

/-- Read the written form; any other number of colons than one is refused. -/
def parse (text : String) : Except Failure Address :=
  match split text.toList with
  | some (host, module) => .ok ⟨String.ofList host, String.ofList module⟩
  | none => .error (.invalidAddress text)

/-- Addresses are ordered by host, then by module, so that those of one host stand together. -/
instance : Ord Address := ⟨compareLex (compareOn Address.host) (compareOn Address.module)⟩

/-- Addresses in increasing order; equal ones stay, next to each other. -/
def sort (addresses : List Address) : List Address :=
  addresses.mergeSort fun a b => (compare a b).isLE

end Address

end RelayTree
