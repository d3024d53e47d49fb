import RelayTree.Failure

/-!
# Hosts

A host may accept connections at an address, and may itself connect to another
host. A roster is an ordered set of hosts with distinct names. Across a reload
the names and the division into servers and clients must stay; addresses and
the connections between hosts may change.
-/
namespace RelayTree

/-- One participant of a deployment. Whether it is a server, a client or both follows from what it
has. -/
structure Host where
  name : String
  /-- Where the host accepts connections; a pure client has no such address. -/
  serverAddress : Option String
  /-- The host this one connects to; only the root has none. -/
  connectTo : Option String
deriving DecidableEq, Repr, Inhabited

/-- Empty text counts as absent, for addresses and for the names of servers alike. -/
def nonEmpty (text : String) : Option String := if text.isEmpty then none else some text

namespace Host

/-- A server that nothing is above. With an empty address it is no server either. -/
def root (name serverAddress : String) : Host := ⟨name, nonEmpty serverAddress, none⟩

/-- A server that connects upwards itself, so that messages pass through it. -/
def server (name serverAddress connectTo : String) : Host :=
  ⟨name, nonEmpty serverAddress, nonEmpty connectTo⟩

/-- A host that only connects upwards, and that nobody can connect to. -/
def client (name connectTo : String) : Host := ⟨name, none, nonEmpty connectTo⟩

/-- Whether the host accepts connections: it has an address for them. -/
def isServer (host : Host) : Bool := host.serverAddress.isSome

/-- Whether the host connects to nobody. A tree has exactly one host of which this is so. -/
def isRoot (host : Host) : Bool := host.connectTo.isNone

/-- What the host is, in the words of reload diagnostics, with addresses and servers by name. -/
def role (host : Host) : String :=
  match host.serverAddress, host.connectTo with
  | some address, some up => "server at " ++ address ++ " connected to " ++ up
  | some address, none => "root server at " ++ address
  | none, some up => "client of " ++ up
  | none, none => "unconnected client"

end Host

/-- Hosts in the order of their insertion, with distinct names. The names are distinct by proof, so
that a host can be spoken of by its name. -/
structure Roster where
  hosts : List Host
  distinct : (hosts.map Host.name).Nodup
deriving DecidableEq

namespace Roster

/-- The roster without hosts, which is no topology yet. -/
def empty : Roster := ⟨[], .nil⟩

/-- A roster that is read before there is one has no hosts. -/
instance : Inhabited Roster := ⟨empty⟩

/-- The host with a name, of which there is at most one. -/
def get? (roster : Roster) (name : String) : Option Host :=
  roster.hosts.find? (·.name = name)

/-- Whether a host has the name, and so is part of the deployment. -/
def contains (roster : Roster) (name : String) : Bool := name ∈ roster.hosts.map Host.name

/-- A new name keeps the names distinct, which is what lets a roster grow. -/
theorem distinct_append {hosts : List Host} {host : Host}
    (distinct : (hosts.map Host.name).Nodup) (fresh : host.name ∉ hosts.map Host.name) :
    ((hosts ++ [host]).map Host.name).Nodup := by
  rw [List.map_append, List.map_singleton, List.nodup_append]
  refine ⟨distinct, List.pairwise_singleton _ _, fun name member other here same => fresh ?_⟩
  rw [List.mem_singleton] at here
  rw [← here, ← same]
  exact member

/-- Add a host at the end. A name may appear only once, and the failure names it. -/
def insert (roster : Roster) (host : Host) : Except Failure Roster :=
  if taken : host.name ∈ roster.hosts.map Host.name then .error (.duplicateHost host.name)
  else .ok ⟨roster.hosts ++ [host], distinct_append roster.distinct taken⟩

/-- Add hosts one after the other, up to the first name that is taken. -/
def insertAll (roster : Roster) : List Host → Except Failure Roster
  | [] => .ok roster
  | host :: rest =>
    match roster.insert host with
    | .ok roster => roster.insertAll rest
    | .error failure => .error failure

/-- The roster of a list of hosts with distinct names. The first name that is repeated is the
failure. -/
def ofList (hosts : List Host) : Except Failure Roster := empty.insertAll hosts

/-- The first host of `before` that `after` lacks or has in the other role. -/
def firstChange (after : Roster) : List Host → Except Failure Unit
  | [] => .ok ()
  | host :: rest =>
    match after.get? host.name with
    | none => .error (.topologyChanged host.name host.role "removed")
    | some changed =>
      if changed.isServer = host.isServer then firstChange after rest
      else .error (.topologyChanged host.name host.role changed.role)

/-- Hosts may not come, go, or turn from server to client or back. What is gone or
turned is reported before what is new. -/
def ensureSameTopology (before after : Roster) : Except Failure Unit :=
  match firstChange after before.hosts with
  | .error failure => .error failure
  | .ok () =>
    match after.hosts.find? (fun host => !before.contains host.name) with
    | some added => .error (.topologyChanged added.name "absent" added.role)
    | none => .ok ()

end Roster

end RelayTree
