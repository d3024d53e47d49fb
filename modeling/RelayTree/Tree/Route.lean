import RelayTree.Tree.Basic

/-!
# Routes

The route between two hosts climbs from the source to the nearest host that is
above both, or is one of them, and goes down from there to the target. Seen from
the source it leads down only if the target lies below; otherwise the source can
only hand the message to its own server.
-/
namespace RelayTree

/-- Where a route starts to lead, seen from its source. One that leads up may well come down again
later. -/
inductive Direction where
  | up
  | down
  | here
deriving DecidableEq, Repr

/-- The name of a direction, as a route is reported with it. -/
def Direction.name : Direction → String
  | .up => "up"
  | .down => "down"
  | .here => "local"

/-- The hosts after the source, up to and with the target. The route of a host to
itself is that host alone. -/
structure Route where
  path : List String
  direction : Direction
deriving DecidableEq, Repr

namespace Route

/-- The host that a message is handed to first. On the route of a host to itself it is that host. -/
def nextHop? (route : Route) : Option String := route.path.head?

/-- The number of hosts on the path, where the source counts only if it is the target as well. -/
def hops (route : Route) : Nat := route.path.length

/-- Whether the target is the next hop, so that nobody else has to pass the message on. -/
def isDirect (route : Route) : Bool := route.path.length = 1

end Route

namespace RoutingTree

/-- The part of a chain of ancestors before a host, which is where a climb towards that host
ends. -/
def chainBefore (meeting : String) (chain : List String) : List String :=
  chain.takeWhile (· ≠ meeting)

/-- The path over the host where the two chains of ancestors meet: up to it from
the source, which itself is left out, then down to the target. -/
def pathVia (meeting : String) (sourceChain targetChain : List String) : List String :=
  (chainBefore meeting sourceChain ++ [meeting]).tail
    ++ (chainBefore meeting targetChain).reverse

/-- The route from one host to another. The chains of two hosts of a tree always
meet, at the latest in the root. -/
def routeBetween (tree : RoutingTree) (source target : String) : Except Failure Route :=
  if !tree.contains source then .error (.unknownHost source)
  else if !tree.contains target then .error (.unknownHost target)
  else if source = target then .ok ⟨[target], .here⟩
  else
    let sourceChain := tree.ancestorChain source
    let targetChain := tree.ancestorChain target
    match sourceChain.find? (· ∈ targetChain) with
    | none => .error (.unknownHost target)
    | some meeting =>
      .ok ⟨pathVia meeting sourceChain targetChain, if meeting = source then .down else .up⟩

end RoutingTree

end RelayTree
