import RelayTree.Json.Problem
import RelayTree.Counters

/-!
# Failures

Every failure is a cause with the hosts, modules or channels it is about, so
that a discarded message can be explained from one line. Callers branch on the
coarse kind of a failure, people read its message.
-/
namespace RelayTree

/-- What can be started and stopped, and is therefore refused when it is in that state already. -/
inductive Component where
  | forwarder
  | merger
  | dispatcher
deriving DecidableEq, Repr

/-- The name of a component in diagnostics, with its article left to the sentence. -/
def Component.name : Component → String
  | .forwarder => "queue forwarder"
  | .merger => "queue merger"
  | .dispatcher => "master router"

/-- Why a file has no text. The first three are told apart because their sentences are known. -/
inductive FileFault where
  | missing
  | directory
  | notText
  /-- Anything else that keeps a file from being read. -/
  | other (reason : String)
deriving DecidableEq, Repr

/-- The sentence shown for a file fault, which is that of the system where it is the one to say
so. -/
def FileFault.message : FileFault → String
  | .missing => "No such file or directory (os error 2)"
  | .directory => "Is a directory (os error 21)"
  | .notText => "stream did not contain valid UTF-8"
  | .other reason => reason

/-- Everything that can go wrong, each with the names that make it plain. -/
inductive Failure where
  -- Addressing.
  | invalidAddress (address : String)
  | missingTargetHost (messageId : String)
  | unreachable (strategy : Strategy) (source target : String)
  | ambiguousNextHop (host : String) (instances : Nat)
  -- Topology.
  | emptyTopology
  | invalidHost (host reason : String)
  | selfConnection (host : String)
  | duplicateHost (host : String)
  | duplicateServerAddress (address first second : String)
  | multipleRoots (first second : String)
  | noRoot
  | unknownConnectTarget (host target : String)
  | connectTargetNotServer (host target : String)
  | connectionCycle (host : String)
  | topologyChanged (host before after : String)
  -- Look-ups.
  | unknownHost (host : String)
  | unknownModule (module : String)
  | unknownChannel (module channel : String)
  | hostNotConnected (host : String)
  | userNotConnected (host userToken : String)
  -- Registration.
  | duplicateModule (module : String)
  | channelConflict (module channel existing requested : String)
  | channelTypeMismatch (connection module expected found : String)
  | notAPublisher (module channel : String)
  | invalidChannelSample (module reason : String)
  | userAlreadyConnected (host userToken : String)
  -- Lifecycle.
  | queueClosed
  | alreadyStarted (component : Component)
  | notStarted (component : Component)
  | routingTableNotBuilt
  -- Deployment files.
  | unreadableFile (path : String) (fault : FileFault)
  | unparsableDeployment (problem : Json.Problem)
deriving DecidableEq, Repr

/-- The coarse classes of failures, for callers that only have to decide what to do next. -/
inductive FailureKind where
  | invalidArgument
  | alreadyExists
  | notFound
  | unavailable
deriving DecidableEq, Repr

/-- A name between double quotes, so that an empty one can be seen as well. -/
def named (name : String) : String := "\"" ++ name ++ "\""

namespace Failure

/-- The class of a failure. Closed queues and misuse of a lifecycle are
unavailability; an unknown name is never an invalid argument. -/
def kind : Failure → FailureKind
  | invalidAddress _ | missingTargetHost _ | unreachable .. | ambiguousNextHop ..
  | emptyTopology | invalidHost .. | selfConnection _ | multipleRoots .. | noRoot
  | connectTargetNotServer .. | connectionCycle _ | topologyChanged ..
  | channelTypeMismatch .. | notAPublisher .. | invalidChannelSample ..
  | unparsableDeployment _ => .invalidArgument
  | duplicateHost _ | duplicateServerAddress .. | duplicateModule _ | channelConflict ..
  | userAlreadyConnected .. | alreadyStarted _ => .alreadyExists
  | unknownConnectTarget .. | unknownHost _ | unknownModule _ | unknownChannel ..
  | hostNotConnected _ | userNotConnected .. | unreadableFile .. => .notFound
  | queueClosed | notStarted _ | routingTableNotBuilt => .unavailable

/-- The sentence shown for a failure. It names what the failure is about, so that it can be read
without the state it arose in. -/
def message : Failure → String
  | invalidAddress address =>
    "invalid address " ++ named address ++ ": expected exactly one ':' between host and module"
  | missingTargetHost messageId => "message " ++ messageId ++ " has no target host"
  | unreachable strategy source target =>
    "no route from host " ++ named source ++ " to host " ++ named target ++ " via the "
      ++ strategy.name ++ " router"
  | ambiguousNextHop host instances =>
    "next hop " ++ named host ++ " is ambiguous: " ++ instances.repr
      ++ " connected instances, expected exactly one"
  | emptyTopology => "no hosts were specified"
  | invalidHost host reason => "invalid host description " ++ named host ++ ": " ++ reason
  | selfConnection host => "host " ++ named host ++ " is configured to connect to itself"
  | duplicateHost host => "host " ++ named host ++ " was specified more than once"
  | duplicateServerAddress address first second =>
    "server address " ++ named address ++ " is declared by both " ++ named first ++ " and "
      ++ named second
  | multipleRoots first second =>
    "host " ++ named second ++ " does not connect to any host, but " ++ named first
      ++ " was already chosen as routing tree root"
  | noRoot => "no root host: every host connects to another host"
  | unknownConnectTarget host target =>
    "host " ++ named host ++ " connects to " ++ named target ++ ", which is not a known host"
  | connectTargetNotServer host target =>
    "host " ++ named host ++ " connects to " ++ named target ++ ", which is not a server"
  | connectionCycle host =>
    "host " ++ named host ++ " is not reachable from the routing tree root (connection cycle)"
  | topologyChanged host before after =>
    "host " ++ named host ++ " cannot change from " ++ before ++ " to " ++ after
      ++ " during a reload"
  | unknownHost host => "unknown host " ++ named host
  | unknownModule module => "unknown module " ++ named module
  | unknownChannel module channel =>
    "module " ++ named module ++ " has no channel " ++ named channel
  | hostNotConnected host => "no connected instance of host " ++ named host
  | userNotConnected host userToken =>
    "user " ++ named userToken ++ " of host " ++ named host ++ " is not connected"
  | duplicateModule module => "module " ++ named module ++ " was registered more than once"
  | channelConflict module channel existing requested =>
    "module " ++ named module ++ " already maps channel " ++ named channel ++ " to connection "
      ++ named existing ++ ", cannot remap it to " ++ named requested
  | channelTypeMismatch connection module expected found =>
    "connection " ++ named connection ++ " carries " ++ expected ++ " payloads, module "
      ++ named module ++ " presented " ++ found
  | notAPublisher module channel =>
    "module " ++ named module ++ " does not publish on channel " ++ named channel
  | invalidChannelSample module reason =>
    "invalid channel sample for module " ++ named module ++ ": " ++ reason
  | userAlreadyConnected host userToken =>
    "user " ++ named userToken ++ " of host " ++ named host ++ " is already connected"
  | queueClosed => "queue is closed"
  | alreadyStarted component => component.name ++ " was already started"
  | notStarted component => component.name ++ " is not running"
  | routingTableNotBuilt => "routing table has not been built"
  | unreadableFile path fault =>
    "failed to read configuration " ++ path ++ ": " ++ fault.message
  | unparsableDeployment problem => "failed to parse configuration: " ++ problem.message

/-- The message of what caused a failure, where that is a failure of its own. -/
def cause? : Failure → Option String
  | unreadableFile _ fault => some fault.message
  | unparsableDeployment problem => some problem.message
  | _ => none

end Failure

end RelayTree
