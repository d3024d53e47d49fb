import RelayTree.Proofs.Deployment.Parties
import RelayTree.Proofs.Dispatcher.Coherence
import RelayTree.Proofs.Registration

/-!
# Reloads that fail

A reload first checks the hosts, and a failure there leaves no trace. From then on it
works on live state: it stops the dispatcher, installs the tree and registers the
modules one after the other. Of these steps only the registration can fail, namely on
modules that are not `Registrable`, and nothing takes back what was done before it.
`failed_reload` says so for every state that a station can get into: a failed reload
changed nothing, or it ended halfway, with the dispatcher stopped, the new tree in
place, and some of the modules registered.
-/

namespace RelayTree

namespace Outcome

variable {σ α β : Type} {outcome : Outcome σ α} {next : σ → α → Outcome σ β}

/-- After a success the rest decides about result and state, and the events of both are logged. -/
theorem andThen_of_ok {value : α} (succeeded : outcome.result = .ok value) :
    (outcome.andThen next).result = (next outcome.state value).result ∧
      (outcome.andThen next).state = (next outcome.state value).state := by
  simp [andThen, succeeded, after]

/-- A failure is the end: the rest is not begun, and the state is the one that the failure left. -/
theorem andThen_of_error {failure : Failure} (failed : outcome.result = .error failure) :
    (outcome.andThen next).result = .error failure ∧
      (outcome.andThen next).state = outcome.state := by
  simp [andThen, failed]

end Outcome

/-! ## Starting and stopping -/

/-- A merger that was not started starts, with every forwarder about to look whether it shall go
on. -/
theorem Merger.into_starts (inputs : List QueueId) (output : QueueId) :
    (Merger.into inputs output).start =
      .ok ⟨inputs.map fun input => ⟨input, output, true, .ready⟩, true⟩ := by
  have each : startAll (inputs.map (Forwarder.between · output)) =
      .ok (inputs.map fun input => ⟨input, output, true, .ready⟩) := by
    induction inputs with
    | nil => rfl
    | cons input rest inductionHypothesis =>
      have first : (Forwarder.between input output).start =
          .ok ⟨input, output, true, .ready⟩ := rfl
      rw [List.map_cons, startAll, first, inductionHypothesis]
      rfl
  simp [start, into, each, Except.map]

namespace Station

/-- Routing has nothing to do with the workers, which are in the same stages afterwards. -/
theorem route_workers (station : Station) (message : Message) :
    (station.route message).state.dispatcher.workers = station.dispatcher.workers := by
  unfold route
  split <;> rfl

/-- Routing several messages has nothing to do with them either, by induction on the messages. -/
theorem route_each_workers (station : Station) (messages : List Message) :
    (station.routeEach messages).dispatcher.workers = station.dispatcher.workers := by
  induction messages generalizing station with
  | nil => rfl
  | cons message rest inductionHypothesis =>
    exact (inductionHypothesis _).trans (route_workers station message)

/-- When the loop has come to its end there are no workers, whatever it had to route until then. -/
theorem finish_workers (station : Station) (loop : LoopStage) :
    (station.finishLoop loop).dispatcher.workers = none := by
  cases loop with
  | done => rfl
  | waiting => exact route_each_workers ..
  | holding message => exact route_each_workers ..

/-- A running dispatcher can always be stopped, and then does not run. One that does not run is left
as it is. -/
theorem pause_stops (station : Station) :
    station.pause.result = .ok () ∧ station.pause.state.dispatcher.workers = none := by
  unfold pause
  cases running : station.dispatcher.workers with
  | none => simp [Dispatcher.isRunning, running, Outcome.ok]
  | some workers =>
    simp only [Dispatcher.isRunning, running, Option.isSome_some, if_true, stop]
    exact ⟨trivial, finish_workers ..⟩

/-- A dispatcher that does not run and has a tree can always be started. -/
theorem start_succeeds {station : Station} (stopped : station.dispatcher.workers = none)
    (built : station.dispatcher.book.tree.isSome = true) : station.start.result = .ok () := by
  obtain ⟨tree, installed⟩ := Option.isSome_iff_exists.mp built
  simp [start, Dispatcher.isRunning, stopped, installed, newMerger, Merger.into_starts,
    Outcome.ok, Outcome.after]

end Station

/-! ## Which reloads get through the checks -/

namespace Station

/-- The hosts of a deployment pass all that a reload checks about them. -/
structure Admits (station : Station) (deployment : Deployment) (tree : RoutingTree) : Prop where
  unchanged : station.checkReload deployment.hosts = .ok ()
  accepted : RoutingTree.ofHosts deployment.hosts.hosts = .ok tree
  described : station.desk.host ∈ tree.hosts

/-- A running dispatcher need not look whether its host is still described: it was when
the dispatcher was built, and the names have not changed. -/
theorem running_described {station : Station} {deployment : Deployment} {tree : RoutingTree}
    (steady : station.Steady) (running : station.dispatcher.isRunning = true)
    (unchanged : station.checkReload deployment.hosts = .ok ())
    (accepted : RoutingTree.ofHosts deployment.hosts.hosts = .ok tree) :
    station.desk.host ∈ tree.hosts := by
  obtain ⟨known, installed⟩ := Option.isSome_iff_exists.mp (steady.built running)
  rcases steady.coherent with ⟨free, _⟩ | ⟨roster, earlier, built⟩
  · simp [free] at installed
  · have described := built.described
    rw [RoutingTree.accepted_hosts built.accepted] at described
    rw [checkReload, built.remembered] at unchanged
    have same := Roster.same_topology_iff.mp unchanged
    rw [RoutingTree.accepted_hosts accepted]
    exact (same.names _).mp described

/-- Where a reload ends that could not register a module: the dispatcher is stopped, the
tree and its table are in place, and the modules before the refused one are registered. -/
def halfway (station : Station) (deployment : Deployment) (tree : RoutingTree) : Station :=
  ((station.pause.state.install deployment.hosts tree
    (tree.descendants station.desk.host)).replaceModules deployment).state

/-- A reload that ended halfway leaves the dispatcher stopped, whether it ran before or not. -/
theorem halfway_stopped (station : Station) (deployment : Deployment) (tree : RoutingTree) :
    (station.halfway deployment tree).dispatcher.workers = none := (pause_stops station).2

/-! ## The three ends of a reload -/

variable {station : Station} {deployment : Deployment} {tree : RoutingTree}

/-- A list that is refused is refused in the same way by every state. -/
theorem parse_refused {σ : Type} (state : σ) {hosts : List Host} {failure : Failure}
    (refused : RoutingTree.ofHosts hosts = .error failure) :
    (parseTree state hosts).result = .error failure ∧ (parseTree state hosts).state = state := by
  simp [parseTree, refused, Outcome.fail]

/-- Making a tree of hosts that are one succeeds and changes nothing but the log. -/
theorem parse_accepted {σ : Type} (state : σ) {hosts : List Host}
    (accepted : RoutingTree.ofHosts hosts = .ok tree) :
    (parseTree state hosts).result = .ok tree ∧ (parseTree state hosts).state = state := by
  simp [parseTree, accepted, Outcome.ok, Outcome.after]

/-- What a reload does after the checks, to a station that is stopped. -/
def proceed (station : Station) (deployment : Deployment) (wasRunning : Bool) :
    Outcome Station Unit :=
  (station.build deployment.hosts).andThen fun station _ =>
  (station.replaceModules deployment).andThen fun station _ =>
  station.announce.andThen fun station _ =>
  station.resume wasRunning

/-- A reload that passes the checks stops the dispatcher and proceeds from there. The tree is made
twice on the way, both times from the same hosts. -/
theorem reconfigure_checked (unchanged : station.checkReload deployment.hosts = .ok ())
    (accepted : RoutingTree.ofHosts deployment.hosts.hosts = .ok tree) :
    let rest := station.pause.state.proceed deployment station.dispatcher.isRunning
    (station.reconfigure deployment).result = rest.result ∧
      (station.reconfigure deployment).state = rest.state := by
  have checked : (Outcome.check station (station.checkReload deployment.hosts)).result = .ok () :=
    unchanged
  obtain ⟨parsed, same⟩ := parse_accepted station accepted
  have paused := (pause_stops station).1
  unfold reconfigure
  constructor
  · refine (Outcome.andThen_of_ok checked).1.trans ((Outcome.andThen_of_ok parsed).1.trans ?_)
    rw [same]
    exact (Outcome.andThen_of_ok paused).1
  · refine (Outcome.andThen_of_ok checked).2.trans ((Outcome.andThen_of_ok parsed).2.trans ?_)
    rw [same]
    exact (Outcome.andThen_of_ok paused).2

/-- A reload that does not pass the checks changes nothing. The check that comes last,
whether the host itself is described, is made after the stop; but where it can fail
nothing was running. -/
theorem reload_refused (steady : station.Steady)
    (inadmissible : ∀ tree, ¬ station.Admits deployment tree) :
    (station.reconfigure deployment).state = station := by
  cases check : station.checkReload deployment.hosts with
  | error failure =>
    have refused : (Outcome.check station (station.checkReload deployment.hosts)).result =
        .error failure := check
    exact (Outcome.andThen_of_error refused).2
  | ok =>
    have checked : (Outcome.check station (station.checkReload deployment.hosts)).result =
        .ok () := check
    cases parse : RoutingTree.ofHosts deployment.hosts.hosts with
    | error failure =>
      obtain ⟨refused, same⟩ := parse_refused station parse
      exact (Outcome.andThen_of_ok checked).2.trans
        ((Outcome.andThen_of_error refused).2.trans same)
    | ok tree =>
      have missing : station.desk.host ∉ tree.hosts := fun described =>
        inadmissible tree ⟨check, parse, described⟩
      have idle : station.dispatcher.isRunning = false := by
        rw [← Bool.not_eq_true]
        exact fun running => missing (running_described steady running check parse)
      have paused : station.pause.state = station := by simp [pause, idle, Outcome.ok]
      have failed : ∃ failure, (station.build deployment.hosts).result = .error failure := by
        cases outcome : (station.build deployment.hosts).result with
        | error failure => exact ⟨failure, rfl⟩
        | ok =>
          obtain ⟨known, accepted, described, _⟩ := build_succeeded outcome
          cases parse.symm.trans accepted
          exact absurd described missing
      obtain ⟨failure, failed⟩ := failed
      rw [(reconfigure_checked check parse).2, paused, proceed,
        (Outcome.andThen_of_error failed).2, build_failed failed]

/-- After the checks the tree is installed, and then everything depends on the modules. The build,
which comes between the two, cannot fail any more, as it asks for what was checked. -/
theorem proceed_installed (admits : station.Admits deployment tree) :
    let installed := station.pause.state.install deployment.hosts tree
      (tree.descendants station.desk.host)
    let rest := (installed.replaceModules deployment).andThen fun later _ =>
      later.announce.andThen fun later _ => later.resume station.dispatcher.isRunning
    (station.reconfigure deployment).result = rest.result ∧
      (station.reconfigure deployment).state = rest.state := by
  have host : station.pause.state.desk.host = station.desk.host := (keeps_pause station).host
  have built : (station.pause.state.build deployment.hosts).result = .ok () ∧
      (station.pause.state.build deployment.hosts).state =
        station.pause.state.install deployment.hosts tree
          (tree.descendants station.desk.host) := by
    simp [build, parseTree, admits.accepted, RoutingTree.descendantsOf, RoutingTree.contains,
      host, admits.described, Outcome.ok, Outcome.after, Outcome.andThen]
  obtain ⟨result, state⟩ := reconfigure_checked admits.unchanged admits.accepted
  rw [result, state, proceed, (Outcome.andThen_of_ok built.1).1,
    (Outcome.andThen_of_ok built.1).2, built.2]
  exact ⟨rfl, rfl⟩

/-- The modules of the host are replaced exactly if they are registrable. What was registered before
makes no difference, since it is forgotten first. -/
theorem replace_succeeds_iff (station : Station) (deployment : Deployment) :
    (station.replaceModules deployment).result = .ok () ↔
      Switchboard.Registrable (deployment.modulesOn station.desk.host) :=
  Switchboard.register_cleared_iff station.desk.board _

/-- A reload that passes the checks succeeds with registrable modules. The start at its end cannot
fail, as the dispatcher was stopped and has a tree. -/
theorem reload_applied (admits : station.Admits deployment tree)
    (registrable : Switchboard.Registrable (deployment.modulesOn station.desk.host)) :
    (station.reconfigure deployment).result = .ok () := by
  rw [(proceed_installed admits).1]
  generalize place : station.pause.state.install deployment.hosts tree
    (tree.descendants station.desk.host) = installed
  have host : installed.desk.host = station.desk.host := by
    rw [← place]
    exact (keeps_pause station).host
  have replaced : (installed.replaceModules deployment).result = .ok () := by
    rw [replace_succeeds_iff, host]
    exact registrable
  rw [(Outcome.andThen_of_ok replaced).1]
  have announced : (installed.replaceModules deployment).state.announce.result = .ok () := rfl
  rw [(Outcome.andThen_of_ok announced).1, resume]
  split
  · apply start_succeeds
    · rw [← place]
      exact (pause_stops station).2
    · rw [← place]
      rfl
  · rfl

/-- A reload that passes the checks ends halfway with modules that are not registrable. It has then
done what was to be done before, and the steps behind the registration are not reached. -/
theorem reload_halfway (admits : station.Admits deployment tree)
    (unregistrable : ¬ Switchboard.Registrable (deployment.modulesOn station.desk.host)) :
    (station.reconfigure deployment).state = station.halfway deployment tree := by
  rw [(proceed_installed admits).2, halfway]
  generalize place : station.pause.state.install deployment.hosts tree
    (tree.descendants station.desk.host) = installed
  have host : installed.desk.host = station.desk.host := by
    rw [← place]
    exact (keeps_pause station).host
  cases replaced : (installed.replaceModules deployment).result with
  | error failure => exact (Outcome.andThen_of_error replaced).2
  | ok =>
    rw [replace_succeeds_iff, host] at replaced
    exact absurd replaced unregistrable

/-- A failed reload changed nothing if the hosts were refused. Otherwise the modules
were not registrable, and it ended halfway: stopped, with the new tree.

Proof: either some tree is admitted or none is. If none is, the reload is refused; one of the checks
comes after the stop, but it cannot fail at a dispatcher that runs, because that was built from a
list with the same hosts. If one is admitted, all steps before the registration of the modules
succeed, and the reload would have been applied if they were registrable. The two cases exclude each
other by what they say of the deployment, so a failure tells which of them has occurred. -/
theorem failed_reload (host : String) (calls : List Call) (deployment : Deployment)
    (failure : Failure)
    (failed : ((after host calls).reconfigure deployment).result = .error failure) :
    let station := after host calls
    let ended := (station.reconfigure deployment).state
    ended = station ∧ (∀ tree, ¬ station.Admits deployment tree) ∨
      ∃ tree, station.Admits deployment tree ∧
        ¬ Switchboard.Registrable (deployment.modulesOn station.desk.host) ∧
        ended = station.halfway deployment tree ∧ ended.dispatcher.isRunning = false := by
  by_cases possible : ∃ tree, (after host calls).Admits deployment tree
  · obtain ⟨tree, admits⟩ := possible
    have unregistrable :
        ¬ Switchboard.Registrable (deployment.modulesOn (after host calls).desk.host) := by
      intro registrable
      rw [reload_applied admits registrable] at failed
      cases failed
    have ended := reload_halfway admits unregistrable
    refine .inr ⟨tree, admits, unregistrable, ended, ?_⟩
    rw [ended, Dispatcher.isRunning, halfway_stopped]
    rfl
  · have inadmissible : ∀ tree, ¬ (after host calls).Admits deployment tree :=
      fun tree admits => possible ⟨tree, admits⟩
    exact .inl ⟨reload_refused (after_steady host calls) inadmissible, inadmissible⟩

/-- A single host, with modules of the given names and without channels. -/
def aloneWith (names : List String) : Deployment :=
  ⟨⟨[.root "S" "tcp://s:1"], by decide⟩, names.map (ModuleSpec.plain · "class" "S")⟩

/-- The station of that host, which runs with one module when the reload is tried. -/
def runningAlone : Station := after "S" [.reconfigure (aloneWith ["A"]), .start]

/-- A running dispatcher is given a module twice: the reload fails, the dispatcher does
not run any more, and its earlier module has been replaced. -/
theorem doubled_module_ends_halfway :
    (runningAlone.reconfigure (aloneWith ["B", "B"])).result = .error (.duplicateModule "B") ∧
      (∃ tree, runningAlone.Admits (aloneWith ["B", "B"]) tree ∧
        ¬ Switchboard.Registrable ((aloneWith ["B", "B"]).modulesOn runningAlone.desk.host) ∧
        (runningAlone.reconfigure (aloneWith ["B", "B"])).state =
          runningAlone.halfway (aloneWith ["B", "B"]) tree ∧
        (runningAlone.reconfigure (aloneWith ["B", "B"])).state.dispatcher.isRunning = false) ∧
      runningAlone.dispatcher.isRunning = true ∧
      runningAlone.desk.board.registry.ids = ["A"] ∧
      (runningAlone.reconfigure (aloneWith ["B", "B"])).state.desk.board.registry.ids = ["B"] := by
  have failed : (runningAlone.reconfigure (aloneWith ["B", "B"])).result =
      .error (.duplicateModule "B") := rfl
  have running : runningAlone.dispatcher.isRunning = true := rfl
  refine ⟨failed, ?_, running, rfl, rfl⟩
  have ends := failed_reload "S" [.reconfigure (aloneWith ["A"]), .start] (aloneWith ["B", "B"])
    (.duplicateModule "B") failed
  rcases ends with ⟨same, _⟩ | halfway
  · have stopped : (runningAlone.reconfigure (aloneWith ["B", "B"])).state.dispatcher.isRunning =
        false := rfl
    have still : (runningAlone.reconfigure (aloneWith ["B", "B"])).state = runningAlone := same
    rw [still, running] at stopped
    cases stopped
  · exact halfway

/-- A reload is therefore not all or nothing: the one of the example fails, and the module that was
there is gone. -/
theorem reload_not_atomic :
    ¬ ∀ (host : String) (calls : List Call) (deployment : Deployment) (failure : Failure),
      ((after host calls).reconfigure deployment).result = .error failure →
        ((after host calls).reconfigure deployment).state = after host calls := by
  intro atomic
  have same := atomic "S" [.reconfigure (aloneWith ["A"]), .start] (aloneWith ["B", "B"])
    (.duplicateModule "B") rfl
  have modules := congrArg (fun station => station.desk.board.registry.ids) same
  have before : (after "S" [.reconfigure (aloneWith ["A"]), .start]).desk.board.registry.ids =
    ["A"] := rfl
  have later : ((after "S" [.reconfigure (aloneWith ["A"]), .start]).reconfigure
    (aloneWith ["B", "B"])).state.desk.board.registry.ids = ["B"] := rfl
  rw [before, later] at modules
  simp at modules

end Station

end RelayTree
