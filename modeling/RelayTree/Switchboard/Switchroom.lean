import RelayTree.Switchboard.Requests

/-!
# A switchboard with many callers

Any number of callers use a switchboard at once. Modules and channels have a lock each, and a
request takes one of them at a time, for as long as it reads or changes what is behind it. Here
a request is taken apart into the sections between which another caller may come in:

* binding a channel looks whether the module is registered, and then binds it;
* presenting samples is a single section with all the samples in it;
* publishing looks the connection up, fixes the type if none was agreed on, and then, for each
  subscriber, looks the queue of its runtime up and adds the copy;
* registering a module with its channels enters the module, and then binds one channel after
  the other;
* clearing forgets the modules, and holds on to their lock until the channels are forgotten.

A switchroom keeps a record of the samples that were applied and of the copies that were queued.
No section looks at the record.
-/
namespace RelayTree

/-- A channel and what it shall be bound to, as part of a request that may have several of them. -/
structure Wish where
  endpoint : Endpoint
  binding : Binding
deriving DecidableEq

/-- The channels that a module binds when it is registered, in this order. -/
def ModuleSpec.wishes (spec : ModuleSpec) : List Wish :=
  spec.outputs.entries.map (fun entry => ⟨⟨spec.id, entry.1⟩, ⟨entry.2, .publisher⟩⟩) ++
    spec.inputs.entries.map fun entry => ⟨⟨spec.id, entry.1⟩, ⟨entry.2, .subscriber⟩⟩

/-- How far a request has come. Each of these is a point where the lock was given back, so that
somebody else may come in. -/
inductive Progress where
  /-- It was made. -/
  | asked
  /-- Channels are left to be bound. -/
  | binding (wish : Wish) (left : List Wish)
  /-- The module of the next channel is registered. -/
  | checked (wish : Wish) (left : List Wish)
  /-- A message was found to be published on a connection without a type. -/
  | settling (message : Message) (connection : String)
  /-- The type of a message is right, and copies are left to be made. -/
  | copying (message : Message) (left : List Endpoint) (count : Nat)
  /-- The queue for the next copy was found. -/
  | sending (message : Message) (subscriber : Endpoint) (queue : QueueId) (left : List Endpoint)
      (count : Nat)
  /-- The modules are forgotten and still locked. -/
  | clearing
  | answered (result : Except Failure Reply)

/-- What is left to do for a request that binds channels: the next check, or to say that it is
done. -/
def Progress.rest : List Wish → Progress
  | [] => .answered (.ok .done)
  | wish :: left => .binding wish left

/-- A request, how far it has come, and the connection that its message was found to be
published on. -/
structure Ticket where
  request : Request
  connection : Option String
  progress : Progress

/-- A sample that was applied to a connection, kept on record in the order of application. -/
structure Applied where
  connection : String
  sample : Message

/-- The samples of a batch that are applied: those before the first refused one. -/
def Channels.applied (channels : Channels) (module : String) : List Message → List Applied
  | [] => []
  | sample :: rest =>
    match channels.present module sample with
    | .error _ => []
    | .ok changed =>
      (channels.resolve? ⟨module, sample.channel⟩).toList.map (⟨·.connection, sample⟩) ++
        changed.applied module rest

/-- A copy that was put on a queue. It is recorded as it was queued, with the name and module of its
subscriber. -/
structure Sent where
  queue : QueueId
  copy : Message
deriving DecidableEq

/-- What all callers share: the switchboard, the queues, and whether somebody holds the lock of
the modules from one section to the next. -/
structure Hall where
  board : Switchboard
  queues : QueueStore
  locked : Bool

namespace Hall

/-- Change the modules, and with them the queues where a runtime was opened. -/
def enrolled (hall : Hall) (registry : Registry) (queues : QueueStore) : Hall :=
  { hall with board := { hall.board with registry := registry }, queues := queues }

/-- Change the channels, and neither modules nor queues nor the lock. -/
def rewired (hall : Hall) (channels : Channels) : Hall :=
  { hall with board := { hall.board with channels := channels } }

end Hall

/-- What a section leaves behind: what is shared, the request, and what goes on record. -/
structure Section where
  hall : Hall
  ticket : Ticket
  applied : List Applied
  sent : List Sent

namespace Ticket

/-- A request that was just made. It has looked nothing up yet and holds no lock. -/
def of (request : Request) : Ticket := ⟨request, none, .asked⟩

/-- A section that leaves a request at some point and puts nothing on record. -/
def reaching (ticket : Ticket) (progress : Progress) (hall : Hall) : Section :=
  ⟨hall, { ticket with progress := progress }, [], []⟩

/-- A section that answers a request, after which it gets no further turn that does anything. -/
def answering (ticket : Ticket) (result : Except Failure Reply) (hall : Hall) : Section :=
  ticket.reaching (.answered result) hall

/-- A section with the lock of the modules. While somebody else holds it, nothing happens. -/
def unlessLocked (ticket : Ticket) (hall : Hall) (work : Section) : Section :=
  if hall.locked then ⟨hall, ticket, [], []⟩ else work

/-- Nobody waits for a lock that is free: the section is done as if it were alone. -/
theorem unless_unlocked {ticket : Ticket} {hall : Hall} (unlocked : hall.locked = false)
    (work : Section) : ticket.unlessLocked hall work = work := by
  rw [unlessLocked, unlocked, if_neg Bool.false_ne_true]

/-- Enter a change of the modules, and go on from there. Where the change is refused, that is the
answer. -/
def enter (ticket : Ticket) (hall : Hall) (next : Progress) :
    Except Failure (Registry × QueueStore) → Section
  | .ok (registry, queues) => ticket.reaching next (hall.enrolled registry queues)
  | .error failure => ticket.answering (.error failure) hall

/-- Look whether a module is registered before a channel of it is bound. -/
def check (ticket : Ticket) (hall : Hall) (wish : Wish) (left : List Wish) : Section :=
  ticket.unlessLocked hall <|
    match hall.board.checkModule wish.endpoint.module with
    | .ok () => ticket.reaching (.checked wish left) hall
    | .error failure => ticket.answering (.error failure) hall

/-- Bind a channel that was found to have a registered module. The module is not looked at again,
and this is where a clear may have come in between. -/
def connect (ticket : Ticket) (hall : Hall) (wish : Wish) (left : List Wish) : Section :=
  match hall.board.channels.bind wish.endpoint wish.binding with
  | .ok channels => ticket.reaching (.rest left) (hall.rewired channels)
  | .error failure => ticket.answering (.error failure) hall

/-- Present samples, all of them in one section. Those before a refused one are applied and stand on
record. -/
def present (ticket : Ticket) (hall : Hall) (module : String) (samples : List Message) :
    Section :=
  let presented := hall.board.channels.presentAll module samples
  { ticket.answering (presented.result.map fun _ => .done) (hall.rewired presented.state) with
    applied := if module.isEmpty then [] else hall.board.channels.applied module samples }

/-- Look up the connection that a message is published on. A type that was agreed on before is
compared at once. -/
def lookUp (ticket : Ticket) (hall : Hall) (message : Message) : Section :=
  match hall.board.channels.publication message with
  | .error failure => ticket.answering (.error failure) hall
  | .ok found =>
    let located := { ticket with connection := some found.connection }
    match found.agreed with
    | none => located.reaching (.settling message found.connection) hall
    | some agreed =>
      if agreed = message.tag then located.reaching (.copying message found.subscribers 0) hall
      else
        located.answering (.error
          (.channelTypeMismatch found.connection message.source.module agreed message.tag)) hall

/-- Fix the type of a connection, unless somebody has fixed another one by now. -/
def settle (ticket : Ticket) (hall : Hall) (message : Message) (connection : String) : Section :=
  match hall.board.channels.settle connection message with
  | .ok (subscribers, channels) =>
    ticket.reaching (.copying message subscribers 0) (hall.rewired channels)
  | .error failure => ticket.answering (.error failure) hall

/-- Look up the queue for the next copy, or answer how many were queued. -/
def copy (ticket : Ticket) (hall : Hall) (message : Message) (count : Nat) :
    List Endpoint → Section
  | [] => ticket.answering (.ok (.copies count)) hall
  | subscriber :: left =>
    ticket.unlessLocked hall <|
      match hall.board.registry.outputQueue? subscriber.module with
      | none => ticket.reaching (.copying message left count) hall
      | some queue => ticket.reaching (.sending message subscriber queue left count) hall

/-- Put a copy on its queue, if that is open. The queue was looked up in an earlier section and may
have been closed since, and then the copy is skipped. -/
def send (ticket : Ticket) (hall : Hall) (message : Message) (subscriber : Endpoint)
    (queue : QueueId) (left : List Endpoint) (count : Nat) : Section :=
  match hall.queues.pushBack? queue (Switchboard.copyFor subscriber message) with
  | none => ticket.reaching (.copying message left count) hall
  | some queues =>
    { ticket.reaching (.copying message left (count + 1)) { hall with queues := queues } with
      sent := [⟨queue, Switchboard.copyFor subscriber message⟩] }

/-- The first section of a request. Whatever concerns modules waits for their lock; samples and
publications go to the channels at once. -/
def begin (ticket : Ticket) (hall : Hall) : Section :=
  match ticket.request with
  | .enroll module className properties =>
    ticket.unlessLocked hall <| ticket.enter hall (.answered (.ok .done))
      ((hall.board.registry.add module className properties).map (·, hall.queues))
  | .place module runtime =>
    ticket.unlessLocked hall <| ticket.enter hall (.answered (.ok .done))
      (hall.board.registry.place module runtime hall.queues)
  | .bind endpoint binding => ticket.check hall ⟨endpoint, binding⟩ []
  | .present module samples => ticket.present hall module samples
  | .publish message => ticket.lookUp hall message
  | .register spec =>
    ticket.unlessLocked hall <| ticket.enter hall (.rest spec.wishes)
      ((hall.board.registry.add spec.id spec.className spec.properties).map (·, hall.queues))
  | .clear =>
    ticket.unlessLocked hall <| ticket.reaching .clearing
      { hall.enrolled hall.board.registry.clear hall.queues with locked := true }

/-- The next section of a request, by the point it has come to. One that was answered gets turns too
and does nothing with them. -/
def proceed (ticket : Ticket) (hall : Hall) : Section :=
  match ticket.progress with
  | .asked => ticket.begin hall
  | .binding wish left => ticket.check hall wish left
  | .checked wish left => ticket.connect hall wish left
  | .settling message connection => ticket.settle hall message connection
  | .copying message left count => ticket.copy hall message count left
  | .sending message subscriber queue left count =>
    ticket.send hall message subscriber queue left count
  | .clearing => ticket.answering (.ok .done) { hall.rewired .empty with locked := false }
  | .answered _ => ⟨hall, ticket, [], []⟩

end Ticket

/-- A switchboard in use. Requests are numbered in the order in which they were made. -/
structure Switchroom where
  hall : Hall
  tickets : List Ticket
  applied : List Applied
  /-- The copies that were queued, each with the number of its request. -/
  sent : List (Nat × Sent)

namespace Switchroom

/-- What happens at once. The queues may change in any way between two sections, since routing uses
them too. -/
inductive Action where
  /-- Somebody makes a request. -/
  | ask (request : Request)
  /-- The request with a number gets a turn. -/
  | proceed (number : Nat)
  /-- Others change the queues. -/
  | elsewhere (queues : QueueStore)

/-- A switchboard that nobody uses yet: no request, no record, and the lock of the modules free. -/
def around (board : Switchboard) (queues : QueueStore) : Switchroom :=
  ⟨⟨board, queues, false⟩, [], [], []⟩

/-- The room after a section of the request with a number. What the section recorded is put after
what is on record. -/
def adopt (room : Switchroom) (number : Nat) (left : Section) : Switchroom where
  hall := left.hall
  tickets := room.tickets.set number left.ticket
  applied := room.applied ++ left.applied
  sent := room.sent ++ left.sent.map (number, ·)

/-- The request with a number gets a turn. If no request has that number, nothing happens. -/
def proceed (room : Switchroom) (number : Nat) : Switchroom :=
  match room.tickets[number]? with
  | none => room
  | some ticket => room.adopt number (ticket.proceed room.hall)

/-- The room after an action. A request that is made waits for its first turn. -/
def after (room : Switchroom) : Action → Switchroom
  | .ask request => { room with tickets := room.tickets ++ [.of request] }
  | .proceed number => room.proceed number
  | .elsewhere queues => { room with hall := { room.hall with queues := queues } }

/-- The room after all actions, one after the other. Every order in which callers can come in is
such a list. -/
def run (room : Switchroom) (actions : List Action) : Switchroom := actions.foldl after room

end Switchroom

end RelayTree
