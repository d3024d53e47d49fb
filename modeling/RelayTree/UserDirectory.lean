import RelayTree.SortedMap
import RelayTree.Outcome
import RelayTree.Queue.Store

/-!
# Connected users

The same host name may be run by several users at a time. Each of them has a
queue of its own. A second index lists the users of a host in the order of their
connection, so that copies for all of them go out in a stable order.
-/
namespace RelayTree

/-- A user on a host. Several users of one host are told apart by their tokens. -/
structure UserKey where
  host : String
  userToken : String
deriving DecidableEq, Repr

namespace UserKey

/-- Users are ordered by host and then by token, so that those of one host stand together. -/
instance : Ord UserKey := ⟨compareNames UserKey.host UserKey.userToken⟩

/-- The order of users is transitive, as comparing two names after each other is. -/
instance : Std.TransOrd UserKey :=
  inferInstanceAs (Std.TransCmp (compareNames UserKey.host UserKey.userToken))

/-- Users that compare as equal are equal, so a map over users has one entry for each. -/
instance : Std.LawfulEqOrd UserKey where
  compare_self := compareNames_self
  eq_of_compare := fun {a b} same => by
    obtain ⟨host, userToken⟩ := names_eq_of_compare same
    cases a
    cases b
    cases host
    cases userToken
    rfl

end UserKey

/-- A connected user: the device and the queue towards it, which was created when the user
connected. -/
structure RemoteUser where
  device : String
  queue : QueueId
deriving DecidableEq, Repr

/-- The connected users by key, their tokens by host, and the queue into which they
send. -/
structure UserDirectory where
  byKey : SortedMap UserKey RemoteUser
  byHost : SortedMap String (List String)
  fromClients : QueueId
deriving DecidableEq

namespace UserDirectory

/-- A directory without users. The queue into which clients send is the next one that the store has
to give. -/
def create (queues : QueueStore) : UserDirectory × QueueStore :=
  let (fromClients, queues) := queues.create
  (⟨.empty, .empty, fromClients⟩, queues)

/-- The tokens of a host's users in the order of their connection. A host that is not listed has
none. -/
def tokens (directory : UserDirectory) (host : String) : List String :=
  (directory.byHost.get? host).getD []

/-- The hosts with a connected user, in the order of their names. A host is listed only as long as
it has one. -/
def hosts (directory : UserDirectory) : List String := directory.byHost.keys

/-- The device of a connected user, as the user gave it when connecting. -/
def device? (directory : UserDirectory) (key : UserKey) : Option String :=
  (directory.byKey.get? key).map (·.device)

/-- The queue of a connected user. It is a failure to ask for one who is not connected. -/
def queueOf (directory : UserDirectory) (key : UserKey) : Except Failure QueueId :=
  match directory.byKey.get? key with
  | some user => .ok user.queue
  | none => .error (.userNotConnected key.host key.userToken)

/-- The queues of all users of a host in the order of their connection. -/
def queuesOf (directory : UserDirectory) (host : String) : Except Failure (List QueueId) :=
  match directory.byHost.get? host with
  | none => .error (.hostNotConnected host)
  | some tokens =>
    .ok (tokens.filterMap fun token => (directory.byKey.get? ⟨host, token⟩).map (·.queue))

/-- Connect a user and return the new queue towards it. A user who is connected already is refused,
and keeps the queue there is. -/
def connect (directory : UserDirectory) (queues : QueueStore) (key : UserKey) (device : String) :
    Outcome (UserDirectory × QueueStore) QueueId :=
  if directory.byKey.contains key then
    .fail (directory, queues) (.userAlreadyConnected key.host key.userToken)
  else
    let (queue, queues) := queues.create
    let connected : UserDirectory :=
      { directory with
        byKey := directory.byKey.insert key ⟨device, queue⟩
        byHost := directory.byHost.insert key.host (directory.tokens key.host ++ [key.userToken]) }
    ⟨.ok queue, (connected, queues), [.clientConnected device key.host key.userToken]⟩

/-- Take a token off a host's list; a host without users is not listed. -/
def withoutToken (byHost : SortedMap String (List String)) (key : UserKey) :
    SortedMap String (List String) :=
  match byHost.get? key.host with
  | none => byHost
  | some tokens =>
    let left := tokens.filter (· ≠ key.userToken)
    if left.isEmpty then byHost.erase key.host else byHost.insert key.host left

/-- Disconnect a user. The queue is closed, so that whoever empties it stops. -/
def disconnect (directory : UserDirectory) (queues : QueueStore) (key : UserKey) :
    Outcome (UserDirectory × QueueStore) Unit :=
  match directory.byKey.get? key with
  | none => .fail (directory, queues) (.userNotConnected key.host key.userToken)
  | some user =>
    let left : UserDirectory :=
      { directory with
        byKey := directory.byKey.erase key
        byHost := withoutToken directory.byHost key }
    ⟨.ok (), (left, queues.close user.queue), [.clientDisconnected key.host key.userToken]⟩

end UserDirectory

end RelayTree
