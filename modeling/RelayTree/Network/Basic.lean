import RelayTree.Dispatcher.Reload

/-!
# Networks

Several hosts in one world of queues. Each node has a desk, a dispatcher, and a
route book of its own for strategies that are operated by hand. Forwarders and
mergers with a name of their own connect any queues.
-/
namespace RelayTree

/-- A host of a network, with its desk and its dispatcher, and with strategies that can be operated
by hand. -/
structure Node where
  desk : Desk
  /-- The routes of the strategies that are operated by hand. -/
  manual : RouteBook
  dispatcher : Dispatcher
deriving DecidableEq

/-- All nodes, the queues, and what else has a name: queues that are kept, forwarders
and mergers. -/
structure Network where
  queues : QueueStore
  nodes : SortedMap String Node
  kept : SortedMap String QueueId
  forwarders : SortedMap String Forwarder
  mergers : SortedMap String Merger
deriving DecidableEq

namespace Network

/-- A network without nodes, queues, forwarders or mergers. -/
def empty : Network := ⟨.empty, .empty, .empty, .empty, .empty⟩

/-- A node's dispatcher at work, with the queues of the whole network before it. -/
def station (network : Network) (node : Node) : Station :=
  ⟨node.desk, node.dispatcher, network.queues⟩

/-- Take over what a node's dispatcher changed: its desk, the dispatcher itself, and the queues of
all. -/
def adoptStation (network : Network) (name : String) (node : Node) (station : Station) : Network :=
  { network with
    queues := station.queues
    nodes := network.nodes.insert name
      { node with desk := station.desk, dispatcher := station.dispatcher } }

/-- A node's strategies for operation by hand, which look routes up in a book of their own. -/
def exchange (network : Network) (node : Node) : Exchange :=
  ⟨node.desk, network.queues, node.manual⟩

/-- Take over what a node's strategies changed. The dispatcher of the node is not concerned. -/
def adoptExchange (network : Network) (name : String) (node : Node) (exchange : Exchange) :
    Network :=
  { network with
    queues := exchange.queues
    nodes := network.nodes.insert name
      { node with desk := exchange.desk, manual := exchange.book } }

/-- Take over a change of the queues alone, which no node has for itself. -/
def adoptQueues (network : Network) (queues : QueueStore) : Network :=
  { network with queues := queues }

/-- Take over a change of a node's modules and channels, and leave its users as they are. -/
def adoptBoard (network : Network) (name : String) (node : Node) (board : Switchboard) : Network :=
  { network with
    nodes := network.nodes.insert name { node with desk := { node.desk with board := board } } }

/-- Take over a change of a node's connected users, and leave its modules as they are. -/
def adoptUsers (network : Network) (name : String) (node : Node) (users : UserDirectory) :
    Network :=
  { network with
    nodes := network.nodes.insert name { node with desk := { node.desk with users := users } } }

/-- A new node with nothing on its desk, and with queues that nobody else has. -/
def newNode (queues : QueueStore) (name : String) : Node × QueueStore :=
  let (desk, queues) := Desk.create name queues
  let (dispatcher, queues) := Dispatcher.create queues
  (⟨desk, .empty, dispatcher⟩, queues)

/-- Stop the dispatcher of a node that is about to go. A name without node is no failure. -/
def retire (network : Network) (name : String) : Outcome Network Unit :=
  match network.nodes.get? name with
  | none => .ok network ()
  | some node =>
    (network.station node).pause.within (network.adoptStation name node)

/-- Add a node; one that had the name is stopped and replaced, and its queues stay in the store. -/
def addNode (network : Network) (name : String) : Outcome Network Unit :=
  (network.retire name).andThen fun network _ =>
    let (node, queues) := newNode network.queues name
    .ok { network with queues := queues, nodes := network.nodes.insert name node } ()

/-- Keep a queue under a name, instead of the one that was kept under it before. -/
def keep (network : Network) (name : String) (queue : QueueId) : Network :=
  { network with kept := network.kept.insert name queue }

/-- Create a queue and keep it under a name, for forwarders and mergers of their own. -/
def newQueue (network : Network) (name : String) : Network :=
  let (queue, queues) := network.queues.create
  { network with queues := queues }.keep name queue

/-- Set a forwarder and the queues after one of its operations, which belong together. -/
def setForwarder (network : Network) (name : String) (forwarder : Forwarder)
    (queues : QueueStore) : Network :=
  { network with queues := queues, forwarders := network.forwarders.insert name forwarder }

/-- Set a merger and the queues after one of its operations, which belong together. -/
def setMerger (network : Network) (name : String) (merger : Merger) (queues : QueueStore) :
    Network :=
  { network with queues := queues, mergers := network.mergers.insert name merger }

/-- Stop the forwarder that has the name, if one runs. What it held is in its output then. -/
def retireForwarder (network : Network) (name : String) : Network :=
  match network.forwarders.get? name with
  | none => network
  | some forwarder =>
    match forwarder.stop network.queues with
    | .ok (stopped, queues) => network.setForwarder name stopped queues
    | .error _ => network

/-- Add a forwarder; one that had the name is stopped and replaced. The new one is not started. -/
def addForwarder (network : Network) (name : String) (input output : QueueId) : Network :=
  let network := network.retireForwarder name
  network.setForwarder name (.between input output) network.queues

/-- Stop the merger that has the name, if one runs, with all of its forwarders. -/
def retireMerger (network : Network) (name : String) : Network :=
  match network.mergers.get? name with
  | none => network
  | some merger =>
    match merger.stop network.queues with
    | .ok (stopped, queues) => network.setMerger name stopped queues
    | .error _ => network

/-- Add a merger; one that had the name is stopped and replaced. The new one is not started. -/
def addMerger (network : Network) (name : String) (inputs : List QueueId) (output : QueueId) :
    Network :=
  let network := network.retireMerger name
  network.setMerger name (.into inputs output) network.queues

end Network

end RelayTree
