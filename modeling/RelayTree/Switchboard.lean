import RelayTree.Channels.Agreement
import RelayTree.Deployment.Basic
import RelayTree.Registry

/-!
# The switchboard of a host

The registered modules together with their channels, the queue into which modules
publish, and the queue of administrative messages for the host. A publication is
copied to every subscriber of its connection, each copy under the subscriber's own
name for the channel.
-/
namespace RelayTree

/-- The modules, their channels, and the two queues of a host for its modules. -/
structure Switchboard where
  registry : Registry
  channels : Channels
  fromModules : QueueId
  control : QueueId
deriving DecidableEq

namespace Switchboard

/-- A switchboard without modules. Its two queues are the next ones that the store has to give. -/
def create (queues : QueueStore) : Switchboard × QueueStore :=
  let (fromModules, queues) := queues.create
  let (control, queues) := queues.create
  (⟨.empty, .empty, fromModules, control⟩, queues)

/-- Whether a module may be bound: it is registered. This is a section of its own, so that a module
can be gone by the time its channel is bound. -/
def checkModule (board : Switchboard) (module : String) : Except Failure Unit :=
  if board.registry.contains module then .ok () else .error (.unknownModule module)

/-- Bind a channel that is not bound yet, without asking for its module again. -/
def bindChannel (board : Switchboard) (endpoint : Endpoint) (binding : Binding) :
    Except Failure Switchboard :=
  (board.channels.bind endpoint binding).map fun channels => { board with channels := channels }

/-- Bind a channel of a registered module, the check and the binding one right after the other. -/
def bind (board : Switchboard) (endpoint : Endpoint) (binding : Binding) :
    Except Failure Switchboard :=
  match board.checkModule endpoint.module with
  | .error failure => .error failure
  | .ok () => board.bindChannel endpoint binding

/-- Bind channels of a module in one role. Those before a refused one stay bound. -/
def bindEach (board : Switchboard) (module : String) (role : Role) :
    List (String × String) → Outcome Switchboard Unit
  | [] => .ok board ()
  | (channel, connection) :: rest =>
    match board.bind ⟨module, channel⟩ ⟨connection, role⟩ with
    | .ok board => board.bindEach module role rest
    | .error failure => .fail board failure

/-- Register a module and bind its channels, outputs before inputs. Where a channel
is refused, the module and the channels before it stay. -/
def register (board : Switchboard) (spec : ModuleSpec) : Outcome Switchboard Unit :=
  match board.registry.add spec.id spec.className spec.properties with
  | .error failure => .fail board failure
  | .ok registry =>
    (bindEach { board with registry := registry } spec.id .publisher spec.outputs.entries).andThen
      fun board _ => board.bindEach spec.id .subscriber spec.inputs.entries

/-- Register modules one after the other, up to the first refused one. What was registered before
that one stays. -/
def registerAll (board : Switchboard) : List ModuleSpec → Outcome Switchboard Unit
  | [] => .ok board ()
  | spec :: rest => (board.register spec).andThen fun board _ => board.registerAll rest

/-- Let a module present the types of its channels by samples. Those before a refused one have been
agreed on. -/
def present (board : Switchboard) (module : String) (samples : List Message) :
    Outcome Switchboard Unit :=
  (board.channels.presentAll module samples).within fun channels =>
    { board with channels := channels }

/-- Forget all modules and channels. Runtimes and queues stay, and modules that come back are put
into the runtimes they had. -/
def clear (board : Switchboard) : Switchboard :=
  { board with registry := board.registry.clear, channels := .empty }

/-- The copy of a message for one subscriber, under the name that the subscriber has for the
channel. The host it is addressed to is the one it came from. -/
def copyFor (subscriber : Endpoint) (message : Message) : Message :=
  { message with
    target := ⟨message.source.host, subscriber.module⟩
    channel := subscriber.channel }

/-- Give each subscriber its copy. Returns the number of copies that were queued. A
subscriber without a runtime is skipped and logged, one whose queue is closed is
skipped silently. -/
def copyToEach (registry : Registry) (connection : String) (message : Message) :
    List Endpoint → QueueStore → Outcome QueueStore Nat
  | [], queues => .ok queues 0
  | subscriber :: rest, queues =>
    match registry.outputQueue? subscriber.module with
    | none =>
      (copyToEach registry connection message rest queues).after
        [.subscriberWithoutRuntime subscriber.module connection message]
    | some queue =>
      match queues.pushBack? queue (copyFor subscriber message) with
      | none => copyToEach registry connection message rest queues
      | some queues => (copyToEach registry connection message rest queues).map (· + 1)

/-- Publish a message on the connection its sender bound for it. Returns the number
of copies that were queued. -/
def publish (board : Switchboard) (queues : QueueStore) (message : Message) :
    Outcome (Switchboard × QueueStore) Nat :=
  match board.channels.accept message with
  | .error failure => .fail (board, queues) failure
  | .ok (connection, subscribers, channels) =>
    (copyToEach board.registry connection message subscribers queues).within fun queues =>
      ({ board with channels := channels }, queues)

/-- The modules and channels in lines, first all modules and then all connections. -/
def text (board : Switchboard) : String :=
  "modules:\n" ++ board.registry.text ++ "channels:\n" ++ board.channels.text

end Switchboard

end RelayTree
