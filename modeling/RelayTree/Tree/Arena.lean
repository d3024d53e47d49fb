import RelayTree.Tree.Parse

/-!
# Trees in an arena

A `RoutingTree` has names for its links, and its walks are given a number of steps. A host that
runs keeps its tree in one list of nodes instead, which refer to each other by their places in the
list: each to its server, and each server to its clients. The nodes are linked one after the other,
before it is known that the links form a tree, and a last pass looks whether all nodes can be
reached from the root.

Walks along these links are loops without any bound. Only that last pass notes which nodes it has
met. Here such a loop is given by what it does in one round, and `Finishes` says that it comes to an
end. A round that would read a node that is not there goes astray, and finishes nothing.
-/
namespace RelayTree

/-- What a loop does in one round. To read what is not there is kept apart from ending, since the
walks must be shown never to do it. -/
inductive Round (σ ν β : Type) where
  /-- It visits something and goes on. -/
  | onward (visited : ν) (next : σ)
  | ended (result : β)
  /-- It reads what is not there. -/
  | astray

/-- A loop comes to an end: what it visits on the way, and its result. -/
inductive Finishes {σ ν β : Type} (round : σ → Round σ ν β) : σ → List ν → β → Prop where
  | ended {state : σ} {result : β} (last : round state = .ended result) :
    Finishes round state [] result
  | onward {state next : σ} {visited : ν} {trail : List ν} {result : β}
    (goes : round state = .onward visited next) (rest : Finishes round next trail result) :
    Finishes round state (visited :: trail) result

/-- A host, the place of its server, and those of its clients. Places are positions in the list of
nodes. -/
structure TreeNode where
  name : String
  parent : Option Nat
  children : List Nat
deriving DecidableEq, Repr

/-- The nodes of a tree, and the place of its root. It may have links that lead nowhere, until it is
known how it was made. -/
structure Arena where
  nodes : List TreeNode
  root : Nat
deriving DecidableEq, Repr

namespace Arena

/-! ## Linking -/

/-- A node without links for each host, in the order of the description. -/
def unlinked (hosts : List Host) : List TreeNode := hosts.map fun host => ⟨host.name, none, []⟩

/-- Link a node below another one, by writing the link at both of its ends. -/
def attach (nodes : List TreeNode) (child parent : Nat) : List TreeNode :=
  (nodes.modify parent fun node => { node with children := node.children ++ [child] }).modify child
    fun node => { node with parent := some parent }

/-- The name of the node at a place. At a place without node it is empty, which no result depends
on. -/
def nameIn (nodes : List TreeNode) (place : Nat) : String := (nodes[place]?.map (·.name)).getD ""

/-- Link the nodes of hosts to those of their servers. The hosts stand in the list from a place on,
and `root` is the place of the root if it was met before. -/
def link (hosts : List Host) (root : Option Nat) (nodes : List TreeNode) (place : Nat) :
    List Host → Except Failure (Option Nat × List TreeNode)
  | [] => .ok (root, nodes)
  | host :: rest =>
    match host.connectTo with
    | none =>
      match root with
      | some first => .error (.multipleRoots (nameIn nodes first) host.name)
      | none => link hosts (some place) nodes (place + 1) rest
    | some target =>
      match RoutingTree.checkTarget hosts host target with
      | .error failure => .error failure
      | .ok () =>
        match (hosts.map (·.name)).idxOf? target with
        | none => .error (.unknownConnectTarget host.name target)
        | some server => link hosts root (attach nodes place server) (place + 1) rest

/-- The nodes of a list of hosts, with the links that the list describes. These may lead in a
circle. -/
def ofHosts (hosts : List Host) : Except Failure Arena :=
  if hosts.isEmpty then .error .emptyTopology
  else do
    RoutingTree.checkAddresses [] hosts
    RoutingTree.checkNames [] hosts
    match ← link hosts none (unlinked hosts) 0 hosts with
    | (none, _) => throw .noRoot
    | (some root, nodes) => return ⟨nodes, root⟩

variable (arena : Arena)

/-- The number of nodes, which is the number of hosts described. -/
def size : Nat := arena.nodes.length

/-- The name of the node at a place of this arena. -/
def nameAt (place : Nat) : String := nameIn arena.nodes place

/-- The links by name. It is the tree that the walks of the arena are compared with. -/
def tree : RoutingTree where
  links := arena.nodes.map fun node => ⟨node.name, node.parent.map arena.nameAt⟩
  root := arena.nameAt arena.root

/-! ## Walks -/

/-- Note the nodes below the one on top of the stack, and put them on the stack, unless they were
noted before. -/
def sweep : List Bool × List Nat → Round (List Bool × List Nat) Nat (List Bool)
  | (reached, []) => .ended reached
  | (reached, place :: stack) =>
    match reached[place]? with
    | none => .astray
    | some true => .onward place (reached, stack)
    | some false =>
      match arena.nodes[place]? with
      | none => .astray
      | some node => .onward place (reached.set place true, node.children.reverse ++ stack)

/-- Before the sweep only the root is on the stack, and no node has been reached. -/
def unswept : List Bool × List Nat := (List.replicate arena.size false, [arena.root])

/-- Go up to the server of a node, if there is one. Without server the climb ends, which it has to
do at the root. -/
def climb : Option Nat → Round (Option Nat) Nat Unit
  | none => .ended ()
  | some place =>
    match arena.nodes[place]? with
    | none => .astray
    | some node => .onward place node.parent

/-- Look whether a node hangs directly below a place, and go up from it if it does not. -/
def seek (top : Nat) : Nat ⊕ Bool → Round (Nat ⊕ Bool) Nat Bool
  | .inr found => .ended found
  | .inl place =>
    match arena.nodes[place]? with
    | none => .astray
    | some node => .onward place <|
      match node.parent with
      | none => .inr false
      | some parent => if parent = top then .inr true else .inl parent

/-- Look up a name before the search for it begins, and give its place or that there is no such
node. -/
def sought (name : String) : Nat ⊕ Bool :=
  match (arena.nodes.map (·.name)).idxOf? name with
  | none => .inr false
  | some place => .inl place

/-- One round of a walk with a stack: list what is on top of it, and put what is below that there
instead. How many rounds there are is not said here, so nothing bounds the walk. -/
def unstackOne {α : Type} (below? : α → Option (List α)) : List α → Round (List α) α Unit
  | [] => .ended ()
  | item :: stack =>
    match below? item with
    | none => .astray
    | some lower => .onward item (lower ++ stack)

/-- The places of the nodes below a node, in the order in which they were linked. -/
def below? (place : Nat) : Option (List Nat) := arena.nodes[place]?.map (·.children)

/-- The same with the level of each node, which is one more than that of the node above. -/
def indented? (entry : Nat × Nat) : Option (List (Nat × Nat)) :=
  (arena.below? entry.2).map fun lower => lower.map (entry.1 + 1, ·)

/-- What comes of a list of hosts when the sweep over their nodes is over. The first node that it
has not met is reported. -/
inductive Parses (hosts : List Host) : Except Failure Arena → Prop where
  | refused {failure : Failure} (unlinked : ofHosts hosts = .error failure) :
    Parses hosts (.error failure)
  | cyclic {arena : Arena} {trail : List Nat} {reached : List Bool} {lost : Nat}
    (linked : ofHosts hosts = .ok arena)
    (swept : Finishes arena.sweep arena.unswept trail reached)
    (first : reached.findIdx? (! ·) = some lost) :
    Parses hosts (.error (.connectionCycle (arena.nameAt lost)))
  | accepted {arena : Arena} {trail : List Nat} {reached : List Bool}
    (linked : ofHosts hosts = .ok arena)
    (swept : Finishes arena.sweep arena.unswept trail reached)
    (all : reached.findIdx? (! ·) = none) :
    Parses hosts (.ok arena)

end Arena

end RelayTree
