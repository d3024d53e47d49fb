import RelayTree.CommandLine.Run
import RelayTree.Proofs.Dispatcher.FreshStart

/-!
# What a check finds out

A check starts every host of a deployment and reports what fails. So it says something about
starting and nothing about why; `Startable` describes the same deployments by their hosts and
modules alone. The hosts form a tree, every module runs on one of them, and on each host the
modules can be registered, which is to say that no two share a name and none uses a channel in both
directions. On a startable deployment every host starts with just its own modules, and with each of
their channels bound as declared.
-/

namespace RelayTree

/-- The hosts form a tree, and the modules can be registered on the hosts that they name. -/
structure Deployment.Startable (deployment : Deployment) : Prop where
  accepted : ∃ tree, RoutingTree.ofHosts deployment.hosts.hosts = .ok tree
  housed : ∀ spec ∈ deployment.modules, ∃ host ∈ deployment.hosts.hosts, host.name = spec.host
  registrable : ∀ host ∈ deployment.hosts.hosts,
    Switchboard.Registrable (deployment.modulesOn host.name)

namespace Station

variable {deployment : Deployment} {tree : RoutingTree} {host : String}

/-- A described host of an accepted deployment has nothing to refuse it on its first start. -/
theorem create_admits (accepted : RoutingTree.ofHosts deployment.hosts.hosts = .ok tree)
    (described : host ∈ deployment.hosts.hosts.map Host.name) :
    (create host).Admits deployment tree := by
  refine ⟨rfl, accepted, ?_⟩
  rw [RoutingTree.accepted_hosts accepted]
  exact described

/-- A host that was just created starts exactly with modules that can be registered, provided that
the hosts are a tree that has it. -/
theorem create_starts_iff (admits : (create host).Admits deployment tree) :
    ((create host).reconfigure deployment).result = .ok () ↔
      Switchboard.Registrable (deployment.modulesOn host) :=
  ⟨fun started => (reload_ends admits started).1, reload_applied admits⟩

/-- And then it has its modules, and their channels as they are declared. The board of a new station
is bare once it was cleared, so that what is there comes from the registrations alone. -/
theorem create_modules (admits : (create host).Admits deployment tree)
    (registrable : Switchboard.Registrable (deployment.modulesOn host)) :
    let board := ((create host).reconfigure deployment).state.desk.board
    (∀ module, board.registry.contains module = true ↔
        ∃ spec ∈ deployment.modulesOn host, module = spec.id) ∧
      ∀ endpoint binding, board.channels.resolve? endpoint = some binding ↔
        ∃ spec ∈ deployment.modulesOn host,
          endpoint.module = spec.id ∧ spec.Declares endpoint.channel binding := by
  have started := (reload_ends admits (reload_applied admits registrable)).2
  have board : ((create host).reconfigure deployment).state.desk.board =
      ((create host).desk.board.clear.registerAll (deployment.modulesOn host)).state := by
    rw [started]
    rfl
  obtain ⟨owned, untaken, unbound⟩ := Switchboard.cleared_bare (create host).desk.board
  have placed := Switchboard.register_all_accepted _ _ owned registrable
    fun spec _ => untaken spec.id
  simpa [board, untaken, unbound] using placed

end Station

namespace CommandLine

variable {deployment : Deployment} {tree : RoutingTree}

/-- A module is astray if no host has the name of its host. -/
theorem stray_nil_iff (deployment : Deployment) :
    strayModules deployment = [] ↔
      ∀ spec ∈ deployment.modules, ∃ host ∈ deployment.hosts.hosts, host.name = spec.host := by
  simp [strayModules, Roster.contains]

/-- A host has no problem if it starts, and its problem otherwise is the failure to start. -/
theorem start_problem_none_iff (deployment : Deployment) (host : Host) :
    startProblem deployment host = none ↔
      ((Station.create host.name).reconfigure deployment).result = .ok () := by
  unfold startProblem
  split <;> rename_i ended <;> simp [ended]

/-- Nothing is reported exactly of startable deployments. If the hosts form a tree, the problems are
the stray modules and the failed starts, and there are none of either kind just if every module has
a host and every host can register its modules. If they form no tree, this is the problem. -/
theorem no_problems_iff (deployment : Deployment) :
    (checkDeployment deployment).problems = [] ↔ deployment.Startable := by
  cases parsed : RoutingTree.ofHosts deployment.hosts.hosts with
  | error reason =>
    have refused : (checkDeployment deployment).problems ≠ [] := by
      simp [checkDeployment, parsed]
    refine iff_of_false refused fun startable => ?_
    obtain ⟨tree, accepted⟩ := startable.accepted
    cases parsed.symm.trans accepted
  | ok tree =>
    have listed : (checkDeployment deployment).problems = strayModules deployment ++
        deployment.hosts.hosts.filterMap (startProblem deployment) := by
      simp [checkDeployment, parsed]
    have starts : ∀ host ∈ deployment.hosts.hosts, startProblem deployment host = none ↔
        Switchboard.Registrable (deployment.modulesOn host.name) := by
      intro host member
      rw [start_problem_none_iff]
      exact Station.create_starts_iff
        (Station.create_admits parsed (List.mem_map.mpr ⟨host, member, rfl⟩))
    rw [listed, List.append_eq_nil_iff, stray_nil_iff, List.filterMap_eq_nil_iff]
    constructor
    · rintro ⟨housed, clean⟩
      exact ⟨⟨tree, parsed⟩, housed, fun host member => (starts host member).mp (clean host member)⟩
    · intro startable
      exact ⟨startable.housed,
        fun host member => (starts host member).mpr (startable.registrable host member)⟩

/-- A check reports no problem exactly for startable deployments. Then every described host, when
it is given the deployment first, accepts it; it has its own modules and no others, and a channel
is bound there exactly if its module declares it, to the declared connection in the declared
role.

Proof: the problems are those modules that are on no host, and the failure of each host that does
not start. A station that was just created admits every accepted list that has its host. So it
starts exactly if its modules can be registered. What it has afterwards is what the registrations
leave one after the other (`create_modules`). If the hosts form no tree this is reported as the only
problem, and nothing is started. -/
theorem check_decides_start (deployment : Deployment) :
    ((checkDeployment deployment).problems = [] ↔ deployment.Startable) ∧
      ((checkDeployment deployment).problems = [] → ∀ host ∈ deployment.hosts.hosts,
        let started := (Station.create host.name).reconfigure deployment
        started.result = .ok () ∧
          (∀ module, started.state.desk.board.registry.contains module = true ↔
            ∃ spec ∈ deployment.modulesOn host.name, module = spec.id) ∧
          ∀ endpoint binding,
            started.state.desk.board.channels.resolve? endpoint = some binding ↔
              ∃ spec ∈ deployment.modulesOn host.name,
                endpoint.module = spec.id ∧ spec.Declares endpoint.channel binding) := by
  refine ⟨no_problems_iff deployment, fun clean host listed => ?_⟩
  have startable := (no_problems_iff deployment).mp clean
  obtain ⟨tree, accepted⟩ := startable.accepted
  have admits : (Station.create host.name).Admits deployment tree :=
    Station.create_admits accepted (List.mem_map.mpr ⟨host, listed, rfl⟩)
  have registrable := startable.registrable host listed
  exact ⟨Station.reload_applied admits registrable, Station.create_modules admits registrable⟩

/-- Two hosts, the modules of which share names, connections and channel names across the hosts. -/
def relayed : Deployment where
  hosts := ⟨[.root "S" "tcp://s:1", .client "C" "S"], by decide⟩
  modules :=
    [ (ModuleSpec.plain "A" "class" "S").publish "data" "c",
      (ModuleSpec.plain "B" "class" "S").subscribe "data" "c",
      (ModuleSpec.plain "A" "class" "C").subscribe "data" "c" ]

/-- Nothing is wrong with it, and the host at the root publishes where the other one subscribes. -/
theorem relayed_starts :
    (checkDeployment relayed).problems = [] ∧
      (let started := (Station.create "S").reconfigure relayed
       started.result = .ok () ∧
        started.state.desk.board.channels.resolve? ⟨"A", "data"⟩ = some ⟨"c", .publisher⟩) ∧
      let started := (Station.create "C").reconfigure relayed
      started.result = .ok () ∧
        started.state.desk.board.channels.resolve? ⟨"A", "data"⟩ = some ⟨"c", .subscriber⟩ := by
  have clean : (checkDeployment relayed).problems = [] := by rfl
  obtain ⟨first, _, bound⟩ := (check_decides_start relayed).2 clean (.root "S" "tcp://s:1") (by decide)
  obtain ⟨second, _, boundThen⟩ := (check_decides_start relayed).2 clean (.client "C" "S") (by decide)
  refine ⟨clean, ⟨first, (bound _ _).mpr ?_⟩, second, (boundThen _ _).mpr ?_⟩
  · exact ⟨(ModuleSpec.plain "A" "class" "S").publish "data" "c", by decide, rfl, rfl⟩
  · exact ⟨(ModuleSpec.plain "A" "class" "C").subscribe "data" "c", by decide, rfl, rfl⟩

end CommandLine

end RelayTree
