import RelayTree.Counters
import RelayTree.Tree.Route

/-!
# The route book

What the three strategies of a host know and count: the tree, if one was
installed, the answers of downward look-ups, and a set of counters each. A
downward path is looked up once for each target; that there is none is remembered
as well. Before there is a tree nothing is remembered, for the answer would
change.
-/
namespace RelayTree

/-- The tree, the remembered downward paths, and the counters of each strategy. That a target has no
downward path is remembered as well, as `none`. -/
structure RouteBook where
  tree : Option RoutingTree
  cache : SortedMap String (Option (List String))
  onHost : Counters
  upward : Counters
  downward : Counters
deriving DecidableEq

namespace RouteBook

/-- No tree, nothing remembered, nothing counted. -/
def empty : RouteBook := ⟨none, .empty, .zero, .zero, .zero⟩

/-- A book that is read before there is one is the empty one. -/
instance : Inhabited RouteBook := ⟨empty⟩

/-- The counters of a strategy, which no other strategy touches. -/
def counters (book : RouteBook) : Strategy → Counters
  | .onHost => book.onHost
  | .upward => book.upward
  | .downward => book.downward

/-- Change the counters of a strategy and leave those of the others, the tree and the cache as they
are. -/
def count (book : RouteBook) (strategy : Strategy) (change : Counters → Counters) : RouteBook :=
  match strategy with
  | .onHost => { book with onHost := change book.onHost }
  | .upward => { book with upward := change book.upward }
  | .downward => { book with downward := change book.downward }

/-- Install a tree; remembered paths stay, so that whoever installs another tree must have them
forgotten. -/
def install (book : RouteBook) (tree : RoutingTree) : RouteBook := { book with tree := some tree }

/-- The installed tree. It is a failure to ask for one before there is any. -/
def currentTree (book : RouteBook) : Except Failure RoutingTree :=
  match book.tree with
  | some tree => .ok tree
  | none => .error .routingTableNotBuilt

/-- Forget the remembered paths and keep the tree they were looked up in. -/
def forget (book : RouteBook) : RouteBook := { book with cache := .empty }

/-- Whether a host lies in upward direction, as the tree has it now. The cache is not used for
this. -/
def leadsUp (book : RouteBook) (current host : String) : Bool :=
  match book.tree with
  | none => false
  | some tree =>
    match tree.routeBetween current host with
    | .ok route => route.direction = .up
    | .error _ => false

/-- The downward path of a tree, if the target lies below. It is the path of the route without the
host it starts from. -/
def pathDown? (tree : RoutingTree) (current host : String) : Option (List String) :=
  match tree.routeBetween current host with
  | .ok route => if route.direction = .down then some route.path else none
  | .error _ => none

/-- Look a downward path up: remembered, or from the tree. Without a tree the answer is that there
is none, and it is not remembered. -/
def resolveDown (book : RouteBook) (current host : String) : Option (List String) × RouteBook :=
  match book.cache.get? host with
  | some path => (path, book.count .downward Counters.addHit)
  | none =>
    let missed := book.count .downward Counters.addMiss
    match book.tree with
    | none => (none, missed)
    | some tree =>
      let path := pathDown? tree current host
      (path, { missed with cache := missed.cache.insert host path })

end RouteBook

end RelayTree
