import RelayTree.Dispatcher.Reload

/-!
# A dispatcher in service

`start`, `stop` and `reconfigure` say what a call leaves behind when nothing comes in
between. In service much does: modules, clients and the server go on adding messages,
and the workers go on as long as they are there. Here the calls are taken apart into
the steps that happen at once. One call is worked on at a time, and it takes its next
step whenever it gets a turn; where it waits for a worker, a turn changes nothing until
the worker has ended.

A service also keeps a record of what its queues have accepted and of what its loop has
routed. No step looks at the record.
-/
namespace RelayTree

/-- Where messages come in: from the modules, the clients and the server of the host, whose
queues are merged, or directly into the inbound queue. -/
inductive Door where
  | modules
  | clients
  | server
  | inbound
deriving DecidableEq, Repr

/-- The position of the forwarder behind a door. There is none behind the last one. -/
def Door.position : Door → Nat
  | .modules => 0
  | .clients => 1
  | .server => 2
  | .inbound => 3

/-- A message that was accepted, and where. It is on record from the moment it was added to a
queue. -/
structure Arrival where
  door : Door
  message : Message
deriving DecidableEq

namespace Forwarder

/-- The loop was told to end, and does so the next time it looks whether it shall go on. -/
def halted (forwarder : Forwarder) : Forwarder := { forwarder with active := false }

/-- The loop that has ended was taken leave of, so that its forwarder can be started again. -/
def dismissed (forwarder : Forwarder) : Forwarder := { forwarder with stage := .stopped }

end Forwarder

namespace Station

/-- The queue behind a door. Who adds a message there does not know that it will be routed. -/
def intake (station : Station) : Door → QueueId
  | .modules => station.desk.board.fromModules
  | .clients => station.desk.users.fromClients
  | .server => station.desk.uplink.fromServer
  | .inbound => station.dispatcher.inbound

/-- The forwarders into the inbound queue. There are none while the dispatcher does not run. -/
def gatherers (station : Station) : List Forwarder :=
  match station.dispatcher.workers with
  | none => []
  | some workers => workers.merger.forwarders

/-- Change the forwarder at a position, and leave the other ones and the loop as they are. -/
def adjust (station : Station) (position : Nat) (change : Forwarder → Forwarder) : Station :=
  match station.dispatcher.workers with
  | none => station
  | some workers =>
    station.withWorkers (some
      { workers with
        merger := { workers.merger with
          forwarders := workers.merger.forwarders.modify position change } })

/-- Whether the loop of the forwarder at a position has ended, which whoever told it to end waits
for. -/
def hasEnded (station : Station) (position : Nat) : Bool :=
  match station.gatherers[position]? with
  | none => false
  | some forwarder => forwarder.stage = .ended

/-- The merger is there, and its forwarders are still to be started. A loop that takes no
step stands for the one that is not there yet. -/
def prepare (station : Station) : Station :=
  station.withWorkers (some ⟨station.newMerger, .done⟩)

/-- With all forwarders started the loop begins, and waits for its first message. -/
def beginLoop (station : Station) : Station :=
  match station.dispatcher.workers with
  | none => station
  | some workers =>
    station.withWorkers (some ⟨{ workers.merger with running := true }, .waiting⟩)

/-- Whether the loop has come to its end. Without workers there is no loop to wait for. -/
def loopDone (station : Station) : Bool :=
  match station.dispatcher.workers with
  | none => true
  | some workers => workers.loop = .done

/-- What the loop routes in its next step, and what comes of it. -/
def routing (station : Station) : List (Message × Except Failure Delivery) :=
  match station.dispatcher.workers with
  | none => []
  | some workers =>
    workers.loop.held.map fun message => (message, (station.route message).result)

end Station

/-- A call that operates a dispatcher. Each of them may be refused, depending on the state it is
made in. -/
inductive Order where
  | start
  | stop
  | build (roster : Roster)
  | reload (deployment : Deployment)

/-- How far a call has come. In some of these phases it waits for a worker, and turns change nothing
until that has got on. -/
inductive Phase where
  /-- No call is worked on. -/
  | settled
  /-- So many forwarders are started. -/
  | starting (count : Nat)
  /-- So many forwarders have ended. -/
  | stopping (count : Nat)
  /-- The next forwarder was told to end. -/
  | joining (count : Nat)
  /-- All forwarders have ended. -/
  | closing
  /-- The inbound queue is closed. -/
  | draining
  /-- The loop has ended. -/
  | reopening
  /-- A reload has stopped what was running. -/
  | replacing
deriving DecidableEq, Repr

/-- A reload that is worked on, and whether the dispatcher was running before it. -/
structure Reload where
  deployment : Deployment
  wasRunning : Bool

/-- A station in service, with the call that is worked on and the record. -/
structure Service where
  station : Station
  phase : Phase
  reload : Option Reload
  /-- What the queues behind the doors have accepted, in this order. -/
  accepted : List Arrival
  /-- What the loop has routed, in this order, and what came of it. -/
  routed : List (Message × Except Failure Delivery)

/-- What happens at once. All of these may come in any order, whatever call is worked on. -/
inductive Move where
  /-- Somebody adds a message to the queue behind a door. -/
  | push (door : Door) (message : Message)
  /-- The forwarder behind a door takes a step. -/
  | gather (door : Door)
  /-- The loop takes a step. -/
  | dispatch
  /-- A call is made. -/
  | call (order : Order)
  /-- The call that is worked on gets a turn. -/
  | advance
  /-- Somebody asks whether a host can be reached. -/
  | ask (host : String)
  /-- Others change modules, users and queues. -/
  | elsewhere (board : Switchboard) (users : UserDirectory) (queues : QueueStore)

namespace Service

/-- A host with empty tables, whose dispatcher has not been called yet, and with nothing on
record. -/
def create (host : String) : Service := ⟨.create host, .settled, none, [], []⟩

/-- Add a message to the queue behind a door. A closed one refuses it. -/
def push (service : Service) (door : Door) (message : Message) : Service :=
  match service.station.queues.pushBack? (service.station.intake door) message with
  | none => service
  | some queues =>
    { service with
      station := { service.station with queues := queues }
      accepted := service.accepted ++ [⟨door, message⟩] }

/-- The loop takes a step, and the message that it routes by this goes on record. -/
def dispatch (service : Service) : Service :=
  { service with
    station := service.station.loopStep
    routed := service.routed ++ service.station.routing }

/-- Begin with a start, of a station that does not run. The forwarders are started one after the
other. -/
def beginStart (service : Service) : Service :=
  { service with station := service.station.prepare, phase := .starting 0, reload := none }

/-- Begin with a reload of hosts that have passed the checks. Whether to start again afterwards is
decided here. -/
def beginReload (service : Service) (deployment : Deployment) : Service :=
  let wasRunning := service.station.dispatcher.isRunning
  { service with
    phase := if wasRunning then .stopping 0 else .replacing
    reload := some ⟨deployment, wasRunning⟩ }

/-- Make a call. While another one is worked on it is not taken up, and where the checks
at its beginning fail there is nothing to work on. -/
def call (service : Service) (order : Order) : Service :=
  match service.phase with
  | .settled =>
    match order with
    | .start =>
      if service.station.dispatcher.isRunning || service.station.dispatcher.book.tree.isNone then
        service
      else service.beginStart
    | .stop =>
      if service.station.dispatcher.isRunning then { service with phase := .stopping 0 }
      else service
    | .build roster => { service with station := (service.station.build roster).state }
    | .reload deployment =>
      match service.station.checkReload deployment.hosts,
          RoutingTree.ofHosts deployment.hosts.hosts with
      | .ok (), .ok _ => service.beginReload deployment
      | _, _ => service
  | _ => service

/-- Put the deployment of a reload in place, and begin with the start if one is due. -/
def replace (service : Service) (reload : Reload) : Service :=
  let replaced := (service.station.build reload.deployment.hosts).andThen fun station _ =>
    station.replaceModules reload.deployment
  let changed : Service :=
    { service with station := replaced.state, phase := .settled, reload := none }
  match replaced.result with
  | .error _ => changed
  | .ok () => if reload.wasRunning then changed.beginStart else changed

/-- The next step of the call that is worked on. A phase that waits for a worker goes on only when
that has ended. -/
def advance (service : Service) : Service :=
  match service.phase with
  | .settled => service
  | .starting count =>
    if count < service.station.gatherers.length then
      { service with
        station := service.station.adjust count Forwarder.launched
        phase := .starting (count + 1) }
    else { service with station := service.station.beginLoop, phase := .settled }
  | .stopping count =>
    if count < service.station.gatherers.length then
      { service with
        station := service.station.adjust count Forwarder.halted
        phase := .joining count }
    else { service with phase := .closing }
  | .joining count =>
    if service.station.hasEnded count then
      { service with
        station := service.station.adjust count Forwarder.dismissed
        phase := .stopping (count + 1) }
    else service
  | .closing => { service with station := service.station.closeInbound, phase := .draining }
  | .draining =>
    if service.station.loopDone then
      { service with station := service.station.withWorkers none, phase := .reopening }
    else service
  | .reopening =>
    { service with
      station := service.station.reopenInbound
      phase := if service.reload.isSome then .replacing else .settled }
  | .replacing =>
    match service.reload with
    | none => { service with phase := .settled }
    | some reload => service.replace reload

/-- The service after a move. Others change modules, users and queues only as their moves allow. -/
def after (service : Service) : Move → Service
  | .push door message => service.push door message
  | .gather door => { service with station := service.station.mergeStep door.position }
  | .dispatch => service.dispatch
  | .call order => service.call order
  | .advance => service.advance
  | .ask host => { service with station := (service.station.canReach host).2 }
  | .elsewhere board users queues =>
    { service with
      station :=
        { service.station with
          desk := { service.station.desk with board := board, users := users }
          queues := queues } }

/-- The service after all moves, one after the other. Every way in which callers, workers and
producers can come in is such a list. -/
def run (service : Service) (moves : List Move) : Service := moves.foldl after service

end Service

end RelayTree
