import RelayTree.Desk
import RelayTree.RouteBook
import RelayTree.Tree.Parse

/-!
# The exchange

The desk of a host, its route book and the contents of all queues: what a strategy
needs to pass a message on. A strategy accepts or refuses a message. One that it
accepts it either forwards or, when a queue is closed or a client is missing, logs
and drops; its counters tell how often each happened.
-/
namespace RelayTree

/-- Make a tree of hosts. A tree that was accepted is logged, a list that was refused is not. -/
def parseTree {σ : Type} (state : σ) (hosts : List Host) : Outcome σ RoutingTree :=
  match RoutingTree.ofHosts hosts with
  | .error failure => .fail state failure
  | .ok tree => (Outcome.ok state tree).after [.treeParsed tree.size tree.root]

/-- What a strategy reads and changes: the desk it takes queues from, the queues themselves, and the
book it looks routes up in. -/
structure Exchange where
  desk : Desk
  queues : QueueStore
  book : RouteBook
deriving DecidableEq

namespace Exchange

/-- Change the counters of a strategy, and neither the tree nor what is remembered. -/
def count (exchange : Exchange) (strategy : Strategy) (change : Counters → Counters) : Exchange :=
  { exchange with book := exchange.book.count strategy change }

/-- The message was put on a queue, or passed on without one, and counts as routed by the
strategy. -/
def forwarded (exchange : Exchange) (strategy : Strategy) : Outcome Exchange Delivery :=
  .ok (exchange.count strategy Counters.addRouted) .forwarded

/-- The message was discarded without a failure: a queue was closed, or a client is not there. It
counts as dropped. -/
def dropped (exchange : Exchange) (strategy : Strategy) : Outcome Exchange Delivery :=
  .ok (exchange.count strategy Counters.addDropped) .dropped

/-- The message was refused. It counts as dropped as well, and whoever sent it learns why. -/
def refused (exchange : Exchange) (strategy : Strategy) (failure : Failure) :
    Outcome Exchange Delivery :=
  .fail (exchange.count strategy Counters.addDropped) failure

/-- Forward a message if the queue for it took it, and drop it with a log event
otherwise. -/
def queued (exchange : Exchange) (strategy : Strategy) (taken : Option QueueStore)
    (closed : Event) : Outcome Exchange Delivery :=
  match taken with
  | some queues => { exchange with queues := queues }.forwarded strategy
  | none => (exchange.dropped strategy).after [closed]

/-! ## Installing a tree -/

/-- Install the tree of a list of hosts. Remembered downward paths stay until they
are forgotten on request. -/
def installTree (exchange : Exchange) (hosts : List Host) : Outcome Exchange Unit :=
  (parseTree exchange hosts).andThen fun exchange tree =>
    .ok { exchange with book := exchange.book.install tree } ()

/-- Forget the remembered downward paths, so that the next look-up of each asks the tree again. -/
def forgetPaths (exchange : Exchange) : Exchange :=
  { exchange with book := exchange.book.forget }

end Exchange

end RelayTree
