import RelayTree.Network.Basic

/-!
# References to queues

How a queue is named from outside: by its place on a node's desk, or by the name it
is kept under.
-/
namespace RelayTree

/-- A way to name a queue from outside. It may name none, as when a module has no runtime. -/
inductive QueueRef where
  | fromModules
  | control
  | runtime (name : String)
  | ofModule (module : String)
  | fromClients
  | user (key : UserKey)
  | fromServer
  | toServer
  | inbound
  | kept (name : String)
deriving DecidableEq, Repr

/-- The queue that a reference names, seen from a node. There may be none; a user
that is not connected is a failure. -/
def Network.resolve (network : Network) (node : Node) :
    QueueRef → Except Failure (Option QueueId)
  | .fromModules => .ok node.desk.board.fromModules
  | .control => .ok node.desk.board.control
  | .runtime name => .ok (node.desk.board.registry.runtimeQueue? name)
  | .ofModule module => .ok (node.desk.board.registry.outputQueue? module)
  | .fromClients => .ok node.desk.users.fromClients
  | .user key => (node.desk.users.queueOf key).map some
  | .fromServer => .ok node.desk.uplink.fromServer
  | .toServer => .ok node.desk.uplink.toServer
  | .inbound => .ok node.dispatcher.inbound
  | .kept name => .ok (network.kept.get? name)

end RelayTree
