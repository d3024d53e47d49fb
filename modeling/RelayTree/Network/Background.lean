import RelayTree.Network.Basic

/-!
# Background work

Forwarders, mergers and dispatchers work beside everything else. Each of their
loops is a worker, and one step of one worker is what happens at once. `settle`
gives all workers turns until they only wait.
-/
namespace RelayTree

/-- A loop that works in the background, by the name of what it belongs to and its place there. -/
inductive Worker where
  | forwarder (name : String)
  /-- One of the forwarders of a merger. -/
  | merging (name : String) (index : Nat)
  /-- One of the forwarders into the inbound queue of a node. -/
  | gathering (node : String) (index : Nat)
  /-- The dispatch loop of a node. -/
  | dispatching (node : String)
deriving DecidableEq, Repr

namespace Network

/-- One step of a worker. A worker that is not there any more does nothing. -/
def step (network : Network) : Worker → Network
  | .forwarder name =>
    match network.forwarders.get? name with
    | none => network
    | some forwarder =>
      let (stepped, queues) := forwarder.step network.queues
      network.setForwarder name stepped queues
  | .merging name index =>
    match network.mergers.get? name with
    | none => network
    | some merger =>
      let (stepped, queues) := merger.stepAt index network.queues
      network.setMerger name stepped queues
  | .gathering name index =>
    match network.nodes.get? name with
    | none => network
    | some node => network.adoptStation name node ((network.station node).mergeStep index)
  | .dispatching name =>
    match network.nodes.get? name with
    | none => network
    | some node => network.adoptStation name node (network.station node).loopStep

/-- The workers of a dispatcher that runs on a node: its forwarders and its loop. -/
def dispatcherWorkers (name : String) (dispatcher : Dispatcher) : List Worker :=
  match dispatcher.workers with
  | none => []
  | some workers =>
    (List.range workers.merger.forwarders.length).map (.gathering name) ++ [.dispatching name]

/-- All workers, those of forwarders first, then those of mergers, then those of the nodes. -/
def workers (network : Network) : List Worker :=
  network.forwarders.keys.map .forwarder
    ++ network.mergers.entries.flatMap (fun (name, merger) =>
      (List.range merger.forwarders.length).map (.merging name))
    ++ network.nodes.entries.flatMap fun (name, node) => dispatcherWorkers name node.dispatcher

/-- Whether further steps of all workers only wait, so that nothing moves without somebody from
outside. -/
def isIdle (network : Network) : Bool :=
  network.forwarders.values.all (·.isIdle network.queues)
    && network.mergers.values.all (·.isIdle network.queues)
    && network.nodes.values.all fun node => (network.station node).isIdle

/-- One step of each worker, in the order in which they are listed before the first of them. -/
def round (network : Network) : Network := network.workers.foldl step network

/-- Rounds until every worker only waits, but not more than the given number. -/
def rounds : Nat → Network → Network
  | 0, network => network
  | more + 1, network => if network.isIdle then network else rounds more network.round

/-- How many rounds to wait for. A message passes each worker in a few steps, so only
forwarders in a ring are not done by then, and these never are. -/
def patience (network : Network) : Nat :=
  1024 + 64 * (network.queues.total + 1) * (network.workers.length + 1)

/-- Let the background work get as far as it can, within a number of rounds that depends on what
there is to do. -/
def settle (network : Network) : Network := rounds network.patience network

/-- What a consumer gets that waits for a queue. If nothing is there yet, the
background work goes on first. -/
def await (network : Network) (queue : QueueId) : Option Message × Network :=
  let ready :=
    match (network.queues.read queue).head with
    | .waiting => network.settle
    | .finished => network
    | .item _ => network
  let (message, queues) := ready.queues.take queue
  (message, ready.adoptQueues queues)

end Network

end RelayTree
