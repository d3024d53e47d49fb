import RelayTree.Deployment.Host
import RelayTree.SortedMap

/-!
# Deployments

Every host of a deployment reads the same description of all hosts and modules. A module runs on
one host and binds channels: each local channel name stands for a connection that it shares with
every other party on that channel.
-/
namespace RelayTree

/-- A module with its class, its host, and the channels it binds. Nothing says that the host exists
or that a channel has one direction only. -/
structure ModuleSpec where
  id : String
  className : String
  host : String
  properties : SortedMap String String
  /-- Channels the module subscribes to, with their connections. -/
  inputs : SortedMap String String
  /-- Channels the module publishes on, with their connections. -/
  outputs : SortedMap String String
deriving DecidableEq, Inhabited

namespace ModuleSpec

/-- A module without properties and channels, to which both can be added. -/
def plain (id className host : String) : ModuleSpec :=
  ⟨id, className, host, .empty, .empty, .empty⟩

/-- Subscribe to a connection under a local channel name, instead of what the name stood for as an
input. -/
def subscribe (spec : ModuleSpec) (channel connection : String) : ModuleSpec :=
  { spec with inputs := spec.inputs.insert channel connection }

/-- Publish on a connection under a local channel name, instead of what the name stood for as an
output. -/
def publish (spec : ModuleSpec) (channel connection : String) : ModuleSpec :=
  { spec with outputs := spec.outputs.insert channel connection }

end ModuleSpec

/-- All hosts and all modules, of which each host picks its own. -/
structure Deployment where
  hosts : Roster
  modules : List ModuleSpec
deriving DecidableEq, Inhabited

/-- The modules that run on a host, in the order of the description. -/
def Deployment.modulesOn (deployment : Deployment) (host : String) : List ModuleSpec :=
  deployment.modules.filter (·.host = host)

end RelayTree
