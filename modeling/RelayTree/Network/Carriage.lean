import RelayTree.Network.Basic

/-!
# Carrying messages between nodes

What a connection between two hosts does: it empties the queue at one end and lets
the dispatcher at the other end route each message. A node has a link to its server
and one to each connected user. Links whose other end is no node of the network are
left alone.
-/
namespace RelayTree

/-- One message carried over one link, and what came of it at the other end. -/
structure Carried where
  source : String
  target : String
  messageId : String
  outcome : Except Failure Delivery

namespace Network

/-- The link to the server above a node, if its dispatcher knows one. -/
def serverLink (name : String) (node : Node) : List (String × QueueId) :=
  match node.dispatcher.book.tree.bind (·.parent? name) with
  | some server => [(server, node.desk.uplink.toServer)]
  | none => []

/-- The links to the users of a host, one for each user, which all lead to that host. -/
def hostLinks (users : UserDirectory) (host : String) : List (String × QueueId) :=
  match users.queuesOf host with
  | .ok queues => queues.map (host, ·)
  | .error _ => []

/-- The links of a node: the one to its server first, and then those to its users. -/
def links (name : String) (node : Node) : List (String × QueueId) :=
  serverLink name node ++ node.desk.users.hosts.flatMap (hostLinks node.desk.users)

/-- Let a node route messages that arrive from another one, in the order in which they were sent. -/
def arrive (network : Network) (source target : String) :
    List Message → Outcome Network (List Carried)
  | [] => .ok network []
  | message :: rest =>
    match network.nodes.get? target with
    | none => .ok network []
    | some node =>
      let routed := (network.station node).route message
      ((network.adoptStation target node routed.state).arrive source target rest).map
        (⟨source, target, message.id, routed.result⟩ :: ·) |>.after routed.events

/-- Carry what waits at the links of a node. Each link is emptied before the messages of it arrive,
so none is carried twice in a round. -/
def carryLinks (network : Network) (source : String) :
    List (String × QueueId) → Outcome Network (List Carried)
  | [] => .ok network []
  | (target, queue) :: rest =>
    if network.nodes.contains target then
      let (messages, queues) := network.queues.drain queue
      ({ network with queues := queues }.arrive source target messages).andThen
        fun network carried =>
          (network.carryLinks source rest).map (carried ++ ·)
    else network.carryLinks source rest

/-- Carry what waits at the links of some nodes, one node after the other. -/
def carryNodes (network : Network) : List String → Outcome Network (List Carried)
  | [] => .ok network []
  | name :: rest =>
    let own := match network.nodes.get? name with
      | some node => links name node
      | none => []
    (network.carryLinks name own).andThen fun network carried =>
      (network.carryNodes rest).map (carried ++ ·)

/-- Carrying ends when this many messages were carried, since two nodes can go on sending a message
to each other. -/
def carryLimit : Nat := 200

/-- Visit all nodes again and again. A visit that carries nothing is the last one, so
as many visits as messages may be carried are enough. -/
def carryRounds (network : Network) : Nat → Nat → Outcome Network (List Carried)
  | 0, _ => .ok network []
  | visits + 1, before =>
    (network.carryNodes network.nodes.keys).andThen fun network carried =>
      if carried.isEmpty || carryLimit ≤ before + carried.length then .ok network carried
      else (network.carryRounds visits (before + carried.length)).map (carried ++ ·)

/-- Carry messages between the nodes until none moves, or until the limit is reached. -/
def carry (network : Network) : Outcome Network (List Carried) :=
  network.carryRounds carryLimit 0

end Network

end RelayTree
