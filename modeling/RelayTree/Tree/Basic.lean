import RelayTree.Failure

/-!
# Routing trees

A tree is its hosts in description order, each with the server it connects to.
Children, ancestors and descendants are derived from these links, so that they
cannot disagree. Walks along the links take at most as many steps as there are
hosts; in a tree accepted by the parser they always end before.
-/
namespace RelayTree

/-- A host and the server it connects to, if it connects to one. -/
structure Link where
  name : String
  parent : Option String
deriving DecidableEq, Repr

/-- Which host connects to which, and the one that connects to nobody. Nothing here says that the
links form a tree; that is for the parser to find out. -/
structure RoutingTree where
  links : List Link
  root : String
deriving DecidableEq, Repr

namespace RoutingTree

/-- The hosts in description order, each as often as it was described. -/
def hosts (tree : RoutingTree) : List String := tree.links.map (·.name)

/-- The number of hosts, which bounds the length of every path between two of them. -/
def size (tree : RoutingTree) : Nat := tree.links.length

/-- Whether the tree has the host, wherever it stands in it. -/
def contains (tree : RoutingTree) (host : String) : Bool := host ∈ tree.hosts

/-- The server a host connects to. The root has none, and neither has a host that is not in the
tree. -/
def parent? (tree : RoutingTree) (host : String) : Option String :=
  (tree.links.find? (·.name = host)).bind (·.parent)

/-- The hosts that connect to a host, in description order. They are found by going through all
links, as no host keeps a list. -/
def children (tree : RoutingTree) (host : String) : List String :=
  (tree.links.filter (·.parent = some host)).map (·.name)

/-- Whether one host connects to the other, directly and in this direction. -/
def isChildOf (tree : RoutingTree) (child parent : String) : Bool :=
  tree.parent? child = some parent

/-- A host and the hosts above it, as far as the given number of steps goes. -/
def climb (tree : RoutingTree) : Nat → String → List String
  | 0, host => [host]
  | steps + 1, host =>
    match tree.parent? host with
    | none => [host]
    | some up => host :: tree.climb steps up

/-- A host followed by its ancestors up to the root. The bound on the climb is the number of hosts,
which no chain in a tree exceeds. -/
def ancestorChain (tree : RoutingTree) (host : String) : List String := tree.climb tree.size host

/-- Whether a host lies strictly below another one, so that a message to it goes down from there. -/
def liesBelow (tree : RoutingTree) (host top : String) : Bool :=
  top ∈ (tree.ancestorChain host).tail

/-- The hosts below a host to the given depth, each directly before its own
descendants. -/
def below (tree : RoutingTree) : Nat → String → List String
  | 0, _ => []
  | depth + 1, host => (tree.children host).flatMap fun child => child :: tree.below depth child

/-- All hosts below a host, depth first, with each host before those that are below it. -/
def descendants (tree : RoutingTree) (host : String) : List String := tree.below tree.size host

/-- The descendants of a host of the tree. It is a failure to ask for those of another one. -/
def descendantsOf (tree : RoutingTree) (host : String) : Except Failure (List String) :=
  if tree.contains host then .ok (tree.descendants host) else .error (.unknownHost host)

/-- A host and the hosts below it with their level, depth first, each level being one more than that
of the host above. -/
def outlineFrom (tree : RoutingTree) : Nat → Nat → String → List (Nat × String)
  | 0, level, host => [(level, host)]
  | depth + 1, level, host =>
    (level, host) :: (tree.children host).flatMap (tree.outlineFrom depth (level + 1))

/-- All hosts with their level, the root first. It is the order and the shape of the rendering. -/
def outline (tree : RoutingTree) : List (Nat × String) := tree.outlineFrom tree.size 0 tree.root

/-- One line of the rendering: a tab for each level, then the name. -/
def line (entry : Nat × String) : List Char :=
  List.replicate entry.1 '\t' ++ entry.2.toList ++ ['\n']

/-- The rendering of a tree, one host a line, indented by its level. -/
def render (tree : RoutingTree) : String := String.ofList (tree.outline.flatMap line)

end RoutingTree

end RelayTree
