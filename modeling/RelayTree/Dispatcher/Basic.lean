import RelayTree.Deployment.Host
import RelayTree.Exchange.Route
import RelayTree.Queue.Forwarder

/-!
# The dispatcher

The dispatcher of a host picks the strategy for each message from a table that has
an entry for every host of the tree. While it runs, a merger carries all messages
that the host has to route into one inbound queue, and a loop routes them one
after the other. A message can also be routed right away, past the queue.
-/
namespace RelayTree

/-- Where the dispatch loop stands. Between any two stages somebody else may come in. -/
inductive LoopStage where
  /-- Waiting for the inbound queue. -/
  | waiting
  /-- Has taken a message and not yet routed it. -/
  | holding (message : Message)
  /-- The inbound queue was closed and is empty. -/
  | done
deriving DecidableEq, Repr

/-- What the loop has taken and not yet routed, which is one message at most. -/
def LoopStage.held : LoopStage → List Message
  | .waiting => []
  | .holding message => [message]
  | .done => []

/-- What works in the background while a dispatcher runs: the forwarders into the inbound queue, and
the loop that empties it. -/
structure Workers where
  merger : Merger
  loop : LoopStage
deriving DecidableEq

/-- A dispatcher: its route book, its table, what it counted, its inbound queue,
the hosts it was last built from, and the workers while it runs. -/
structure Dispatcher where
  book : RouteBook
  table : SortedMap String Strategy
  counters : Counters
  inbound : QueueId
  roster : Option Roster
  workers : Option Workers
deriving DecidableEq

namespace Dispatcher

/-- A dispatcher that knows no hosts yet. Its inbound queue is the next one that the store has to
give, and it keeps it for good. -/
def create (queues : QueueStore) : Dispatcher × QueueStore :=
  let (inbound, queues) := queues.create
  (⟨.empty, .empty, .zero, inbound, none, none⟩, queues)

/-- Whether the dispatcher was started and not stopped. There are workers just as long. -/
def isRunning (dispatcher : Dispatcher) : Bool := dispatcher.workers.isSome

/-- The strategy for a host, if the table has the host. Before there is a table it has none. -/
def strategy? (dispatcher : Dispatcher) (host : String) : Option Strategy :=
  dispatcher.table.get? host

/-- The strategy for a message. That a host is missing from the message, from the table, or that
there is no table, are three failures. -/
def select (dispatcher : Dispatcher) (message : Message) : Except Failure Strategy :=
  if message.target.host.isEmpty then .error (.missingTargetHost message.id)
  else if dispatcher.table.isEmpty then .error .routingTableNotBuilt
  else
    match dispatcher.strategy? message.target.host with
    | some strategy => .ok strategy
    | none => .error (.unknownHost message.target.host)

end Dispatcher

/-- A host at work: its desk, its dispatcher, and the contents of all queues. -/
structure Station where
  desk : Desk
  dispatcher : Dispatcher
  queues : QueueStore
deriving DecidableEq

namespace Station

/-- A host with empty tables in a world of its own, in which only its own queues were created. -/
def create (host : String) : Station :=
  let (desk, queues) := Desk.create host .empty
  let (dispatcher, queues) := Dispatcher.create queues
  ⟨desk, dispatcher, queues⟩

/-- What the strategies of the dispatcher work on: the desk, the queues, and the book of the
dispatcher. -/
def exchange (station : Station) : Exchange :=
  ⟨station.desk, station.queues, station.dispatcher.book⟩

/-- Take over what a strategy changed. Table, counters, inbound queue and workers are no part of
that. -/
def adopt (station : Station) (exchange : Exchange) : Station where
  desk := exchange.desk
  dispatcher := { station.dispatcher with book := exchange.book }
  queues := exchange.queues

/-- Change the counters of the dispatcher, which are apart from those of the strategies. -/
def count (station : Station) (change : Counters → Counters) : Station :=
  { station with
    dispatcher := { station.dispatcher with counters := change station.dispatcher.counters } }

/-- How the dispatcher counts what came of a message: forwarded, or anything else. -/
def tally : Except Failure Delivery → Counters → Counters
  | .ok .forwarded => Counters.addRouted
  | .ok .dropped => Counters.addDropped
  | .error _ => Counters.addDropped

/-- Route a message right away. A message that no strategy is selected for is refused, and counts as
dropped. -/
def route (station : Station) (message : Message) : Outcome Station Delivery :=
  match station.dispatcher.select message with
  | .error failure => .fail (station.count (tally (.error failure))) failure
  | .ok strategy =>
    let handled := station.exchange.route strategy message
    ⟨handled.result, (station.adopt handled.state).count (tally handled.result),
      .dispatched message strategy :: handled.events⟩

/-- Route messages one after the other, whatever comes of each. Nobody learns of a failure but the
counters. -/
def routeEach (station : Station) : List Message → Station
  | [] => station
  | message :: rest => (station.route message).state.routeEach rest

/-- Whether the strategy in the table reaches a host. A host that the table does not know is not
reached. -/
def canReach (station : Station) (host : String) : Bool × Station :=
  match station.dispatcher.strategy? host with
  | none => (false, station)
  | some strategy =>
    let (reached, exchange) := station.exchange.reaches strategy host
    (reached, station.adopt exchange)

end Station

end RelayTree
