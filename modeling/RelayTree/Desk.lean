import RelayTree.Switchboard
import RelayTree.UserDirectory

/-!
# The desk of a host

All that a host keeps to pass messages on, apart from the routes: its modules, its
connected users, and the two queues of the link to the server above it.
-/
namespace RelayTree

/-- The link to the server that a host connects to: what comes from it, and what
goes to it. -/
structure Uplink where
  fromServer : QueueId
  toServer : QueueId
deriving DecidableEq, Repr

/-- A link whose queues are open and empty: one for what comes from the server, and one for what
goes to it. -/
def Uplink.create (queues : QueueStore) : Uplink × QueueStore :=
  let (fromServer, queues) := queues.create
  let (toServer, queues) := queues.create
  (⟨fromServer, toServer⟩, queues)

/-- The name of a host with its modules, its users and its link. -/
structure Desk where
  host : String
  board : Switchboard
  users : UserDirectory
  uplink : Uplink
deriving DecidableEq

namespace Desk

/-- A desk with nothing on it: no module, no user, and the five queues that every desk has. -/
def create (host : String) (queues : QueueStore) : Desk × QueueStore :=
  let (board, queues) := Switchboard.create queues
  let (users, queues) := UserDirectory.create queues
  let (uplink, queues) := Uplink.create queues
  (⟨host, board, users, uplink⟩, queues)

/-- The queues whose messages a host has to route, in the order in which they are
merged. -/
def sources (desk : Desk) : List QueueId :=
  [desk.board.fromModules, desk.users.fromClients, desk.uplink.fromServer]

end Desk

end RelayTree
