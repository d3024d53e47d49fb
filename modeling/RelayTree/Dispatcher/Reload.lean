import RelayTree.Deployment.Basic
import RelayTree.Dispatcher.Lifecycle
import RelayTree.Exchange.Basic

/-!
# Building the table and reloading a deployment

From the tree each host gets its strategy: the host itself is delivered to, the
hosts below it lie downward, all others upward. A reload checks the hosts before it
touches anything, stops a running dispatcher for the change, and starts it again
afterwards. A module that cannot be registered ends the reload halfway, with the
new table in place and the dispatcher stopped.
-/
namespace RelayTree

/-- The strategy for a host, given the hosts below the current one. The host itself is asked for
first. -/
def classify (current : String) (below : List String) (host : String) : Strategy :=
  if host = current then .onHost else if host ∈ below then .downward else .upward

/-- The table of a tree, seen from a host. It has an entry for every host of the tree and for no
other. -/
def strategyTable (tree : RoutingTree) (current : String) (below : List String) :
    SortedMap String Strategy :=
  .ofList (tree.hosts.map fun host => (host, classify current below host))

namespace Station

/-- Install a tree with its table and forget the remembered paths, which were those of another
tree. -/
def install (station : Station) (roster : Roster) (tree : RoutingTree) (below : List String) :
    Station :=
  { station with
    dispatcher :=
      { station.dispatcher with
        book := (station.dispatcher.book.install tree).forget
        table := strategyTable tree station.desk.host below
        roster := some roster } }

/-- Build the table from hosts. On failure everything stays as it was, the remembered paths
included. -/
def build (station : Station) (roster : Roster) : Outcome Station Unit :=
  (parseTree station roster.hosts).andThen fun station tree =>
    match tree.descendantsOf station.desk.host with
    | .error failure => .fail station failure
    | .ok below =>
      (Outcome.ok (station.install roster tree below) ()).after
        [.treeBuilt tree.render station.desk.host tree.size]

/-- The hosts of a reload must be those of the last build, in their roles. -/
def checkReload (station : Station) (roster : Roster) : Except Failure Unit :=
  match station.dispatcher.roster with
  | none => .ok ()
  | some current => current.ensureSameTopology roster

/-- Stop the dispatcher if it runs; if it does not, there is nothing to do and no failure. -/
def pause (station : Station) : Outcome Station Unit :=
  if station.dispatcher.isRunning then station.stop else .ok station ()

/-- Change the switchboard and leave users, link and host as they are. -/
def withBoard (station : Station) (board : Switchboard) : Station :=
  { station with desk := { station.desk with board := board } }

/-- Replace the modules of the host by those of a deployment. A module that is refused leaves those
before it registered. -/
def replaceModules (station : Station) (deployment : Deployment) : Outcome Station Unit :=
  (station.desk.board.clear.registerAll (deployment.modulesOn station.desk.host)).within
    station.withBoard

/-- Log that a deployment is in place, with the number of modules that are registered now. -/
def announce (station : Station) : Outcome Station Unit :=
  (Outcome.ok station ()).after
    [.deploymentApplied station.desk.host station.desk.board.registry.ids.length]

/-- Start the dispatcher again if it ran before, which was asked before it was stopped. -/
def resume (station : Station) (wasRunning : Bool) : Outcome Station Unit :=
  if wasRunning then station.start else .ok station ()

/-- Put a deployment in place. The checks come first; from the stop on, a failure leaves the host
halfway between the two deployments. -/
def reconfigure (station : Station) (deployment : Deployment) : Outcome Station Unit :=
  let wasRunning := station.dispatcher.isRunning
  (Outcome.check station (station.checkReload deployment.hosts)).andThen fun station _ =>
  (parseTree station deployment.hosts.hosts).andThen fun station _ =>
  station.pause.andThen fun station _ =>
  (station.build deployment.hosts).andThen fun station _ =>
  (station.replaceModules deployment).andThen fun station _ =>
  station.announce.andThen fun station _ =>
  station.resume wasRunning

end Station

end RelayTree
