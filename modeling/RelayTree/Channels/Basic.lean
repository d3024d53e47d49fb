import RelayTree.Failure
import RelayTree.SortedMap

/-!
# Channels and connections

A module names its channels itself. Each of these names is bound, as publisher or
as subscriber, to a connection that it shares with the other modules on the same
connection. Both directions are kept: from a module's channel to its connection,
and from a connection to the channels bound to it.
-/
namespace RelayTree

/-- A module's channel under the module's own name for it. Two modules may use one name for channels
that have nothing to do with each other. -/
structure Endpoint where
  module : String
  channel : String
deriving DecidableEq, Repr

namespace Endpoint

/-- Channels are ordered by module and then by name, so that the channels of a module stand together
in every listing. -/
instance : Ord Endpoint := ⟨compareNames Endpoint.module Endpoint.channel⟩

/-- The order of channels is transitive, as comparing two names after each other is. -/
instance : Std.TransOrd Endpoint :=
  inferInstanceAs (Std.TransCmp (compareNames Endpoint.module Endpoint.channel))

/-- Channels that compare as equal are equal, which is what makes a sorted map over channels a
map. -/
instance : Std.LawfulEqOrd Endpoint where
  compare_self := compareNames_self
  eq_of_compare := fun {a b} same => by
    obtain ⟨module, channel⟩ := names_eq_of_compare same
    cases a
    cases b
    cases module
    cases channel
    rfl

end Endpoint

/-- What a module does on a channel. A module that does both on one connection has two channels for
it. -/
inductive Role where
  | publisher
  | subscriber
deriving DecidableEq, Repr

/-- The name of a role as it is printed in a conflict between two bindings. -/
def Role.name : Role → String
  | .publisher => "publisher"
  | .subscriber => "subscriber"

/-- What a channel is bound to: the connection it shares with others, and what its module does
there. -/
structure Binding where
  connection : String
  role : Role
deriving DecidableEq, Repr

/-- A binding in diagnostics, with the role in brackets after the connection. -/
def Binding.text (binding : Binding) : String :=
  binding.connection ++ " (" ++ binding.role.name ++ ")"

/-- The channels bound to a connection and the type they agreed on, which is open
until the first sample or message. -/
structure Connection where
  publishers : SortedSet Endpoint
  subscribers : SortedSet Endpoint
  tag : Option String
deriving DecidableEq

namespace Connection

/-- The connection without channels and without a type. It is what a connection is before the first
channel is bound to it. -/
def empty : Connection := ⟨.empty, .empty, none⟩

/-- An entry that is read before it is there is the empty connection. -/
instance : Inhabited Connection := ⟨empty⟩

/-- Bind a channel in one of the two roles. The type of the connection is not touched, since binding
says nothing about payloads. -/
def join (connection : Connection) (role : Role) (endpoint : Endpoint) : Connection :=
  match role with
  | .publisher => { connection with publishers := connection.publishers.add endpoint }
  | .subscriber => { connection with subscribers := connection.subscribers.add endpoint }

/-- The channels bound in a role, in the order of their modules and names. Copies of a publication
are made in this order. -/
def members (connection : Connection) : Role → List Endpoint
  | .publisher => connection.publishers.toList
  | .subscriber => connection.subscribers.toList

/-- The lines of one role, a line for each channel with its module before it. -/
def roleText (label : String) (endpoints : List Endpoint) : String :=
  String.join (endpoints.map fun endpoint =>
    "    " ++ label ++ " " ++ endpoint.module ++ ":" ++ endpoint.channel ++ "\n")

/-- The lines of a connection: its name with the type agreed on, or a question mark, and then its
publishers and its subscribers. -/
def text (name : String) (connection : Connection) : String :=
  "  " ++ name ++ " [" ++ connection.tag.getD "?" ++ "]\n"
    ++ roleText "pub" (connection.members .publisher)
    ++ roleText "sub" (connection.members .subscriber)

end Connection

/-- All connections by name, and the binding of each channel. A binding is kept in both, so that
publications and diagnostics need not search for it. -/
structure Channels where
  connections : SortedMap String Connection
  bindings : SortedMap Endpoint Binding
deriving DecidableEq

namespace Channels

/-- No connection and no binding, which is how a host begins and how it is left when everything is
forgotten. -/
def empty : Channels := ⟨.empty, .empty⟩

/-- Channels that are read before there are any are the empty ones. -/
instance : Inhabited Channels := ⟨empty⟩

/-- The binding of a channel, if it has one. It says nothing about whether the module is
registered. -/
def resolve? (channels : Channels) (endpoint : Endpoint) : Option Binding :=
  channels.bindings.get? endpoint

/-- The connection with a name, created when it is first used. Looking one up leaves no trace: it is
kept only once a channel is bound to it. -/
def connection (channels : Channels) (name : String) : Connection :=
  (channels.connections.get? name).getD .empty

/-- Bind a channel that is not bound yet. Repeating the same binding changes
nothing; any other one is a conflict. -/
def bind (channels : Channels) (endpoint : Endpoint) (binding : Binding) :
    Except Failure Channels :=
  match channels.resolve? endpoint with
  | some bound =>
    if bound = binding then .ok channels
    else .error (.channelConflict endpoint.module endpoint.channel bound.text binding.text)
  | none => .ok
    { connections := channels.connections.insert binding.connection
        ((channels.connection binding.connection).join binding.role endpoint)
      bindings := channels.bindings.insert endpoint binding }

/-- Whether every connection has an agreed type. On a host without connections this is so. -/
def isReady (channels : Channels) : Bool := channels.connections.values.all (·.tag.isSome)

/-- The lines of all connections, in the order of their names. -/
def text (channels : Channels) : String :=
  String.join (channels.connections.entries.map fun entry => Connection.text entry.1 entry.2)

end Channels

end RelayTree
