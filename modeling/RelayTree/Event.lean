import RelayTree.Address
import RelayTree.Message.Basic

/-!
# Log events

Everything that is logged, as data. An event has a level, a message and fields;
a line shows the fields in the order of their names.
-/
namespace RelayTree

/-- How much attention an event deserves, from details of a single message to what somebody should
look into. -/
inductive Level where
  | debug
  | info
  | warn
deriving DecidableEq, Repr

/-- The name of a level in a line, in capital letters. -/
def Level.name : Level → String
  | .debug => "DEBUG"
  | .info => "INFO"
  | .warn => "WARN"

/-- What is logged, with everything that its line shows. -/
inductive Event where
  /-- A list of hosts was accepted as a tree. -/
  | treeParsed (hosts : Nat) (root : String)
  | clientConnected (device host userToken : String)
  | clientDisconnected (host userToken : String)
  /-- A copy of a publication has no runtime to go to. -/
  | subscriberWithoutRuntime (module connection : String) (message : Message)
  | strategyStarted (strategy : Strategy) (host : String)
  | controlQueued (message : Message)
  | controlQueueClosed (message : Message)
  | fannedOut (message : Message) (copies : Nat)
  | deliveredToModule (message : Message)
  | runtimeQueueClosed (message : Message)
  | sentUp (message : Message)
  | uplinkClosed (message : Message)
  | droppedBelow (message : Message) (reason : Failure)
  | sentToUsers (message : Message) (queues : Nat)
  | userQueueClosed (message : Message)
  | sentVia (message : Message) (hop : String)
  | hopQueueClosed (message : Message) (hop : String)
  /-- The dispatcher picked a strategy for a message. -/
  | dispatched (message : Message) (strategy : Strategy)
  | treeBuilt (rendering host : String) (hosts : Nat)
  | deploymentApplied (host : String) (modules : Nat)
  | dispatcherStarted (host : String)
  | dispatcherStopped (host : String)
deriving DecidableEq, Repr

namespace Event

/-- The level of an event: single messages that went well are details, changes of a host are news,
and messages that got lost are warnings. -/
def level : Event → Level
  | treeParsed .. | controlQueued _ | fannedOut .. | deliveredToModule _ | sentUp _
  | sentToUsers .. | sentVia .. | dispatched .. => .debug
  | clientConnected .. | clientDisconnected .. | strategyStarted .. | treeBuilt ..
  | deploymentApplied .. | dispatcherStarted _ | dispatcherStopped _ => .info
  | subscriberWithoutRuntime .. | controlQueueClosed _ | runtimeQueueClosed _
  | uplinkClosed _ | droppedBelow .. | userQueueClosed _ | hopQueueClosed .. => .warn

/-- Where a message comes from and where it goes, as far as the message says so. -/
def journey (message : Message) : String := message.source.text ++ " -> " ++ message.target.text

/-- A message's name between parentheses, as it stands at the end of a sentence. -/
def bracketed (message : Message) : String := "(" ++ message.id ++ ")"

/-- The sentence of an event, in which modules, hosts and messages are named where they are not
fields. -/
def text : Event → String
  | treeParsed .. => "routing tree parsed"
  | clientConnected .. => "remote client connected"
  | clientDisconnected .. => "remote client disconnected"
  | subscriberWithoutRuntime module connection message =>
    "module table: subscriber " ++ module ++ " of " ++ connection
      ++ " has no runtime, skipping message " ++ message.id
  | strategyStarted strategy _ => strategy.name ++ " router started"
  | controlQueued message => "local router: queued control message " ++ message.id
  | controlQueueClosed message =>
    "local router: control queue closed, dropping control message " ++ message.id
  | fannedOut message copies =>
    "local router: message " ++ message.id ++ " on " ++ message.channel ++ " fanned out to "
      ++ copies.repr ++ " subscribers"
  | deliveredToModule message =>
    "local router: " ++ message.source.text ++ " -> " ++ message.target.module ++ " "
      ++ bracketed message
  | runtimeQueueClosed message =>
    "local router: runtime queue closed, dropping message " ++ message.id
  | sentUp message =>
    "client router: " ++ journey message ++ " via upstream server " ++ bracketed message
  | uplinkClosed message =>
    "client router: upstream queue closed, dropping message " ++ message.id
  | droppedBelow message reason =>
    "server router: dropping message " ++ message.id ++ " for " ++ message.target.text ++ ": "
      ++ reason.message
  | sentToUsers message queues =>
    "server router: " ++ journey message ++ " to " ++ queues.repr ++ " user queue(s) "
      ++ bracketed message
  | userQueueClosed message =>
    "server router: user queue of " ++ message.target.host ++ " closed, skipping copy of "
      ++ message.id
  | sentVia message hop =>
    "server router: " ++ journey message ++ " via " ++ hop ++ " " ++ bracketed message
  | hopQueueClosed message hop =>
    "server router: queue of " ++ hop ++ " closed, dropping message " ++ message.id
  | dispatched message strategy =>
    "master router: " ++ journey message ++ " via " ++ strategy.name ++ " router "
      ++ bracketed message
  | treeBuilt rendering .. => "master router: routing tree built\n" ++ rendering
  | deploymentApplied .. => "master router: configuration applied"
  | dispatcherStarted _ => "master router started"
  | dispatcherStopped _ => "master router stopped"

/-- The fields of an event by name, in the order of their names. Most events have all they say in
their sentence. -/
def fields : Event → List (String × String)
  | treeParsed hosts root => [("hosts", hosts.repr), ("root", root)]
  | clientConnected device host userToken =>
    [("device_id", device), ("host", host), ("user_token", userToken)]
  | clientDisconnected host userToken => [("host", host), ("user_token", userToken)]
  | strategyStarted _ host | dispatcherStarted host | dispatcherStopped host => [("host", host)]
  | treeBuilt _ host hosts => [("host", host), ("hosts", hosts.repr)]
  | deploymentApplied host modules => [("host", host), ("modules", modules.repr)]
  | _ => []

/-- The line of an event: its level, its sentence and its fields. -/
def line (event : Event) : String :=
  event.level.name ++ " " ++ event.text
    ++ String.join (event.fields.map fun entry => " " ++ entry.1 ++ "=" ++ entry.2)

end Event

end RelayTree
