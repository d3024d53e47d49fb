import RelayTree.CommandLine.Report
import RelayTree.Deployment.Json

/-!
# Answering an invocation

A check puts the deployment in place on every host, each as at its first start, and
collects what goes wrong.
-/
namespace RelayTree.CommandLine

/-- What a run writes, and the code it ends with. All that can be seen of a run is in it. -/
structure Answer where
  exitCode : Nat
  output : String
  errors : String
deriving DecidableEq, Repr

namespace Answer

/-- The answer of a run that succeeded, with nothing written as an error. -/
def success (output : String) : Answer := ⟨0, output, ""⟩

/-- The answer of a run that failed without output, which is what failures are but for a check. -/
def failure (trouble : Trouble) : Answer := ⟨1, "", trouble.text⟩

/-- The answer for a value or a failure, each written in the way that is given for it. -/
def ofResult {α : Type} (write : α → String) (explain : Failure → Trouble) :
    Except Failure α → Answer
  | .ok value => success (write value)
  | .error reason => failure (explain reason)

end Answer

/-- The modules of a deployment that run on no host of it, with a sentence about each. -/
def strayModules (deployment : Deployment) : List String :=
  (deployment.modules.filter fun spec => !deployment.hosts.contains spec.host).map fun spec =>
    "module " ++ spec.id ++ " runs on unknown host " ++ spec.host

/-- What goes wrong when a host puts a deployment in place for the first time. -/
def startProblem (deployment : Deployment) (host : Host) : Option String :=
  match ((Station.create host.name).reconfigure deployment).result with
  | .ok () => none
  | .error reason => some (host.name ++ ": " ++ reason.message)

/-- Check the hosts, then the modules, then every host's start. Without a tree there is
nothing more to check. -/
def checkDeployment (deployment : Deployment) : CheckReport :=
  let hosts := deployment.hosts.hosts
  match RoutingTree.ofHosts hosts with
  | .error reason =>
    ⟨hosts.length, deployment.modules.length, "", ["topology: " ++ reason.message]⟩
  | .ok tree =>
    ⟨hosts.length, deployment.modules.length, tree.root,
      strayModules deployment ++ hosts.filterMap (startProblem deployment)⟩

/-- The answer for a check: a report, and a failure where there are problems. -/
def checkAnswer (report : CheckReport) (format : Format) : Answer :=
  if report.problems.isEmpty then .success (report.text format)
  else
    ⟨1, report.text format,
      Trouble.text ⟨report.problems.length.repr ++ " problem(s) found", []⟩⟩

/-- The table of a host, which is built there as it would be at its start. -/
def tableOf (deployment : Deployment) (host : String) :
    Except Failure (SortedMap String Strategy) :=
  let built := (Station.create host).build deployment.hosts
  built.result.map fun _ => built.state.dispatcher.table

/-- The route between two hosts. That the hosts are a tree is a condition for any route. -/
def routeOf (deployment : Deployment) (source target : String) : Except Failure Route := do
  (← RoutingTree.ofHosts deployment.hosts.hosts).routeBetween source target

/-- The answer for a command on a deployment that was read. -/
def Command.answer (deployment : Deployment) (format : Format) : Command → Answer
  | .tree =>
    .ofResult (treeReport · format) Trouble.ofFailure
      (RoutingTree.ofHosts deployment.hosts.hosts)
  | .route source target =>
    .ofResult (routeReport source target · format) Trouble.ofFailure
      (routeOf deployment source target)
  | .table host =>
    .ofResult (tableReport host · format) (Trouble.during ("building routing table of " ++ host))
      (tableOf deployment host)
  | .check => checkAnswer (checkDeployment deployment) format

/-- The answer for an invocation, given the content of its file. Without a deployment nothing is
asked of it. -/
def Invocation.answer (invocation : Invocation) (content : Deployment.FileContent) : Answer :=
  match Deployment.ofFile invocation.path content with
  | .ok deployment => invocation.command.answer deployment invocation.format
  | .error reason => .failure (Trouble.during ("loading " ++ invocation.path) reason)

end RelayTree.CommandLine
