import RelayTree.Deployment.Host
import RelayTree.Tree.Basic

/-!
# From hosts to a tree

A list of hosts is a tree when names and server addresses are distinct, exactly
one host connects to nobody, every other one connects to another host that is a
server, and no host is caught in a cycle. The checks run in this order, and each
reports its first offender in description order.
-/
namespace RelayTree

namespace RoutingTree

/-- No host is nameless, and no two share a server address. `earlier` holds the
hosts that were checked before. -/
def checkAddresses (earlier : List Host) : List Host → Except Failure Unit
  | [] => .ok ()
  | host :: rest =>
    if host.name.isEmpty then .error (.invalidHost "" "missing hostname")
    else
      match host.serverAddress with
      | none => checkAddresses (earlier ++ [host]) rest
      | some address =>
        match earlier.find? (·.serverAddress = some address) with
        | some first => .error (.duplicateServerAddress address first.name host.name)
        | none => checkAddresses (earlier ++ [host]) rest

/-- No two hosts share a name. The first that repeats an earlier one is the offender. -/
def checkNames (earlier : List String) : List Host → Except Failure Unit
  | [] => .ok ()
  | host :: rest =>
    if host.name ∈ earlier then .error (.duplicateHost host.name)
    else checkNames (earlier ++ [host.name]) rest

/-- The server that a host may connect to under a name. The host itself, a name that nobody has, and
a pure client are refused, in this order. -/
def checkTarget (hosts : List Host) (host : Host) (target : String) : Except Failure Unit :=
  if target = host.name then .error (.selfConnection host.name)
  else
    match hosts.find? (·.name = target) with
    | none => .error (.unknownConnectTarget host.name target)
    | some server =>
      if server.isServer then .ok () else .error (.connectTargetNotServer host.name target)

/-- Every connection is allowed and at most one host has none, which is the root.
`root` is the one met before. -/
def findRoot (hosts : List Host) (root : Option String) :
    List Host → Except Failure (Option String)
  | [] => .ok root
  | host :: rest =>
    match host.connectTo with
    | none =>
      match root with
      | some first => .error (.multipleRoots first host.name)
      | none => findRoot hosts (some host.name) rest
    | some target =>
      match checkTarget hosts host target with
      | .error failure => .error failure
      | .ok () => findRoot hosts root rest

/-- Visit the hosts of the stack and everything connected below them, each host
once. Every round takes one host off the stack, and a host is put there at most
once by the host it connects to, so as many rounds as there are hosts empty a
stack that holds the root alone. -/
def sweep (tree : RoutingTree) : Nat → List String → List String → List String
  | 0, _, reached => reached
  | _ + 1, [], reached => reached
  | rounds + 1, host :: stack, reached =>
    if host ∈ reached then tree.sweep rounds stack reached
    else tree.sweep rounds (tree.children host ++ stack) (host :: reached)

/-- The hosts that can be reached from the root, by going down from each host that was found. -/
def reached (tree : RoutingTree) : List String := tree.sweep (tree.size + 1) [tree.root] []

/-- The first host that the root does not reach; it sits on a cycle or below one. -/
def firstUnreached? (tree : RoutingTree) : Option String :=
  let reached := tree.reached
  tree.hosts.find? (· ∉ reached)

/-- The links that a list of hosts describes, in its order and with nothing checked. -/
def linksOf (hosts : List Host) : List Link :=
  hosts.map fun host => ⟨host.name, host.connectTo⟩

/-- The tree that a list of hosts describes, if it describes one. The cycle is looked for last, when
all that could hide it was excluded. -/
def ofHosts (hosts : List Host) : Except Failure RoutingTree :=
  if hosts.isEmpty then .error .emptyTopology
  else do
    checkAddresses [] hosts
    checkNames [] hosts
    match ← findRoot hosts none hosts with
    | none => throw .noRoot
    | some root =>
      let tree : RoutingTree := ⟨linksOf hosts, root⟩
      match tree.firstUnreached? with
      | some host => throw (.connectionCycle host)
      | none => return tree

end RoutingTree

end RelayTree
