import RelayTree.Exchange.Basic

/-!
# Passing a message on by a strategy

On the host itself administrative messages jump the queue: they go to the front of the control
queue. Data for a module goes to the queue of the module's runtime. Data without a target module is
a publication and goes to every subscriber of its channel; it counts as forwarded however many there
are. The target host is not looked at.

Upwards the host hands a message to the server it connects to whenever the route starts that way,
which includes hosts beside it in the tree; the server finds the rest of the way.

Downwards a target that is connected directly gets one copy for each addressed user. A target
further down is reached over the next host on the path, of which exactly one instance must be
connected. A client that is not connected may come later, so its messages are dropped and not
refused.
-/
namespace RelayTree

namespace Exchange

/-! ## Delivery on the host -/

/-- Put an administrative message before all others. The control queue takes it unless it is closed,
and then the message is dropped. -/
def deliverControl (exchange : Exchange) (message : Message) : Outcome Exchange Delivery :=
  match exchange.queues.pushFront? exchange.desk.board.control message with
  | some queues =>
    ({ exchange with queues := queues }.forwarded .onHost).after [.controlQueued message]
  | none => (exchange.dropped .onHost).after [.controlQueueClosed message]

/-- Publish a message to the subscribers of its channel. It counts as forwarded if its channel takes
it, even where nobody is subscribed. -/
def deliverPublication (exchange : Exchange) (message : Message) : Outcome Exchange Delivery :=
  let published := exchange.desk.board.publish exchange.queues message
  let (board, queues) := published.state
  let exchange : Exchange :=
    { exchange with desk := { exchange.desk with board := board }, queues := queues }
  match published.result with
  | .ok copies =>
    (exchange.forwarded .onHost).after (published.events ++ [.fannedOut message copies])
  | .error failure => (exchange.refused .onHost failure).after published.events

/-- Put a message on the queue of its target module. A closed queue belongs to a
runtime that is shutting down. -/
def deliverToModule (exchange : Exchange) (message : Message) : Outcome Exchange Delivery :=
  match exchange.desk.board.registry.outputQueue? message.target.module with
  | none => exchange.refused .onHost (.unknownModule message.target.module)
  | some queue =>
    (exchange.queued .onHost (exchange.queues.pushBack? queue message)
      (.runtimeQueueClosed message)).after [.deliveredToModule message]

/-- Deliver a message on the host. What it is decides where it goes: administrative before all else,
then by whether a module is named. -/
def deliverOnHost (exchange : Exchange) (message : Message) : Outcome Exchange Delivery :=
  if message.isControl then exchange.deliverControl message
  else if message.target.module.isEmpty then exchange.deliverPublication message
  else exchange.deliverToModule message

/-! ## Up to the server -/

/-- Whether a route to the host starts upwards. Without a tree none does. -/
def reachesUpward (exchange : Exchange) (host : String) : Bool :=
  exchange.book.leadsUp exchange.desk.host host

/-- Hand a message to the server above, by the queue of the link. The link may be down without the
queue being closed; then messages wait there. -/
def sendUpward (exchange : Exchange) (message : Message) : Outcome Exchange Delivery :=
  if exchange.reachesUpward message.target.host then
    (exchange.queued .upward (exchange.queues.pushBack? exchange.desk.uplink.toServer message)
      (.uplinkClosed message)).after [.sentUp message]
  else
    exchange.refused .upward (.unreachable .upward exchange.desk.host message.target.host)

/-! ## Down to connected clients -/

/-- Drop a message and log why, which is what becomes of messages for clients that are not there. -/
def dropBelow (exchange : Exchange) (message : Message) (reason : Failure) :
    Outcome Exchange Delivery :=
  (exchange.dropped .downward).after [.droppedBelow message reason]

/-- The queues of the users that a message is meant for: all users of the target host, or the one
whose token it names. -/
def addressedQueues (exchange : Exchange) (message : Message) : Except Failure (List QueueId) :=
  if message.isBroadcast then exchange.desk.users.queuesOf message.target.host
  else (exchange.desk.users.queueOf ⟨message.target.host, message.userToken⟩).map ([·])

/-- Put a copy of a message on each queue; closed ones are skipped and logged. -/
def copyToUsers (message : Message) : List QueueId → QueueStore → QueueStore × List Event
  | [], queues => (queues, [])
  | queue :: rest, queues =>
    match queues.pushBack? queue message with
    | some queues => copyToUsers message rest queues
    | none =>
      let (queues, events) := copyToUsers message rest queues
      (queues, .userQueueClosed message :: events)

/-- Send a message to its users on a host that is connected directly. -/
def sendToUsers (exchange : Exchange) (message : Message) : Outcome Exchange Delivery :=
  match exchange.addressedQueues message with
  | .error reason => exchange.dropBelow message reason
  | .ok addressed =>
    let (queues, events) := copyToUsers message addressed exchange.queues
    ({ exchange with queues := queues }.forwarded .downward).after
      (.sentToUsers message addressed.length :: events)

/-- Send a message to the next host on the way down. One with several users is no next hop, since
nothing says which of them leads further. -/
def sendVia (exchange : Exchange) (message : Message) (hop : String) :
    Outcome Exchange Delivery :=
  match exchange.desk.users.queuesOf hop with
  | .error reason => exchange.dropBelow message reason
  | .ok [] => exchange.dropBelow message (.hostNotConnected hop)
  | .ok [queue] =>
    (exchange.queued .downward (exchange.queues.pushBack? queue message)
      (.hopQueueClosed message hop)).after [.sentVia message hop]
  | .ok several => exchange.refused .downward (.ambiguousNextHop hop several.length)

/-- Look a downward path up, and keep in the book what was learned by it. -/
def resolveDown (exchange : Exchange) (host : String) : Option (List String) × Exchange :=
  let (path, book) := exchange.book.resolveDown exchange.desk.host host
  (path, { exchange with book := book })

/-- Hand a message to a connected client: to its users if it is the target, and otherwise to the one
that leads to the target. -/
def sendDownward (exchange : Exchange) (message : Message) : Outcome Exchange Delivery :=
  match exchange.resolveDown message.target.host with
  | (some [_], exchange) => exchange.sendToUsers message
  | (some (hop :: _ :: _), exchange) => exchange.sendVia message hop
  | (_, exchange) =>
    exchange.refused .downward (.unreachable .downward exchange.desk.host message.target.host)

/-! ## One of the three -/

/-- Pass a message on by one of the strategies. Which one is the right one is not asked here. -/
def route (exchange : Exchange) (strategy : Strategy) (message : Message) :
    Outcome Exchange Delivery :=
  match strategy with
  | .onHost => exchange.deliverOnHost message
  | .upward => exchange.sendUpward message
  | .downward => exchange.sendDownward message

/-- Whether a strategy is the one that reaches a host. Asking for a downward path is
a look-up like any other: it is counted and remembered. -/
def reaches (exchange : Exchange) (strategy : Strategy) (host : String) : Bool × Exchange :=
  match strategy with
  | .onHost => (host = exchange.desk.host, exchange)
  | .upward => (exchange.reachesUpward host, exchange)
  | .downward =>
    let (path, exchange) := exchange.resolveDown host
    (path.isSome, exchange)

/-- What is logged when a strategy is started, once for each of the three. -/
def startEvent (exchange : Exchange) (strategy : Strategy) : Event :=
  .strategyStarted strategy exchange.desk.host

end Exchange

end RelayTree
