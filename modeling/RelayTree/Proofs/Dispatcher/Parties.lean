import RelayTree.Proofs.Dispatcher.HalfReload
import RelayTree.Proofs.Tree.WellFormed

/-!
# What reloads cannot change

Reloads may change addresses and connections, but not who takes part in a deployment and in which
role. A reload compares its hosts with those of the last build only. That this suffices for a whole
run has two reasons. The comparison is an equivalence, so what it accepts passes from one reload to
the next. And no list of hosts is remembered that was not compared first, wherever a reload fails.

What a dispatcher knows of the hosts stands in three places. As they always belong together, it is
enough to follow the hosts that it remembers.
-/

namespace RelayTree

namespace Dispatcher

/-- Whether the host with a name is a server, as far as the dispatcher remembers. -/
def serves? (dispatcher : Dispatcher) (name : String) : Option Bool :=
  dispatcher.roster.bind (·.serves? name)

/-- The tree is installed, and the table and the roles are about the names in it. So all three
places in which a dispatcher has hosts are about the same ones. -/
structure Applied (dispatcher : Dispatcher) (tree : RoutingTree) : Prop where
  installed : dispatcher.book.tree = some tree
  table : ∀ name, (dispatcher.strategy? name).isSome ↔ name ∈ tree.hosts
  roles : ∀ name, (dispatcher.serves? name).isSome ↔ name ∈ tree.hosts

variable {dispatcher : Dispatcher} {host : String} {roster : Roster} {tree : RoutingTree}

/-- What was built from hosts has their roles, under the names they had when it was built. -/
theorem built_serves (built : dispatcher.BuiltFrom host roster tree) (name : String) :
    dispatcher.serves? name = roster.serves? name := by
  rw [serves?, built.remembered, Option.bind_some]

/-- A dispatcher that was built from hosts has applied their tree: it is installed, and the table
has just its hosts. -/
theorem built_applied (built : dispatcher.BuiltFrom host roster tree) :
    dispatcher.Applied tree where
  installed := built.installed
  table := fun name => by
    rw [strategy?, built.classified]
    by_cases member : name ∈ tree.hosts <;> simp [member]
  roles := fun name => by
    rw [built_serves built, Roster.serves_iff, RoutingTree.accepted_hosts built.accepted]

end Dispatcher

namespace Station

/-- A reload that fails may have put its hosts in place, but it never does so without comparing
them. -/
theorem reconfigure_roster (station : Station) (deployment : Deployment) :
    (station.reconfigure deployment).state.dispatcher.roster = station.dispatcher.roster ∨
      (station.checkReload deployment.hosts = .ok () ∧
        (station.reconfigure deployment).state.dispatcher.roster = some deployment.hosts) := by
  cases check : station.checkReload deployment.hosts with
  | error failure =>
    have refused : (Outcome.check station (station.checkReload deployment.hosts)).result =
        .error failure := check
    exact .inl (congrArg (·.dispatcher.roster) (Outcome.andThen_of_error refused).2)
  | ok =>
    let placed (later : Station) : Prop := later.dispatcher.roster = station.dispatcher.roster ∨
      later.dispatcher.roster = some deployment.hosts
    suffices ended : placed (station.reconfigure deployment).state from
      ended.imp id fun applied => ⟨rfl, applied⟩
    have kept {before later : Station} (keeps : before.Keeps later)
        (earlier : placed before) : placed later := by
      unfold placed
      rw [keeps.roster]
      exact earlier
    unfold reconfigure
    refine Outcome.andThen_keeps placed (.inl rfl) fun later _ reached => ?_
    refine Outcome.andThen_keeps placed ?_ fun later _ reached => ?_
    · unfold parseTree
      split <;> exact reached
    refine Outcome.andThen_keeps placed (kept (keeps_pause later) reached) fun later _ reached => ?_
    refine Outcome.andThen_keeps placed ?_ fun later _ reached => ?_
    · cases outcome : (later.build deployment.hosts).result with
      | error failure =>
        rw [build_failed outcome]
        exact reached
      | ok =>
        obtain ⟨tree, _, _, state⟩ := build_succeeded outcome
        rw [state]
        exact .inr rfl
    refine Outcome.andThen_keeps placed reached fun later _ reached => ?_
    refine Outcome.andThen_keeps placed reached fun later _ reached => ?_
    unfold resume
    split
    · exact kept (keeps_start later) reached
    · exact reached

/-- A call that is not a build changes the remembered hosts to the same parties at most. Only a
reload changes them at all, and it has compared its hosts with those that are remembered. -/
theorem perform_parties {station : Station} {call : Call} {roster : Roster}
    (checked : ∀ hosts, call ≠ .build hosts)
    (remembered : station.dispatcher.roster = some roster) :
    ∃ later, (station.perform call).dispatcher.roster = some later ∧ roster.SameParties later := by
  have same : roster.SameParties roster := Roster.same_parties_iff.mpr fun _ => rfl
  have kept {later : Station} (keeps : station.Keeps later) :
      ∃ roster', later.dispatcher.roster = some roster' ∧ roster.SameParties roster' :=
    ⟨roster, keeps.roster.trans remembered, same⟩
  cases call with
  | build hosts => exact absurd rfl (checked hosts)
  | reconfigure deployment =>
    rcases reconfigure_roster station deployment with unchanged | ⟨passed, applied⟩
    · exact ⟨roster, unchanged.trans remembered, same⟩
    · rw [checkReload, remembered] at passed
      exact ⟨deployment.hosts, applied, Roster.same_topology_iff.mp passed⟩
  | start => exact kept (keeps_start station)
  | stop => exact kept (keeps_stop station)
  | route message => exact kept (keeps_route station message)
  | canReach host => exact kept (keeps_reach station host)
  | loopStep => exact kept (keeps_loop station)
  | mergeStep index => exact kept (keeps_merge station index)
  | elsewhere board users queues => exact ⟨roster, remembered, same⟩

/-- So do any number of calls without a build, by induction on them: what is remembered at the end
has the same parties as at the beginning. -/
theorem run_parties {calls : List Call} {station : Station} {roster : Roster}
    (checked : ∀ hosts, Call.build hosts ∉ calls)
    (remembered : station.dispatcher.roster = some roster) :
    ∃ later, (calls.foldl perform station).dispatcher.roster = some later ∧
      roster.SameParties later := by
  induction calls generalizing station roster with
  | nil => exact ⟨roster, remembered, Roster.same_parties_iff.mpr fun _ => rfl⟩
  | cons call rest inductionHypothesis =>
    have first (hosts : Roster) : call ≠ .build hosts :=
      fun same => checked hosts (same ▸ List.mem_cons_self)
    obtain ⟨middle, known, same⟩ := perform_parties first remembered
    obtain ⟨later, ended, also⟩ := inductionHypothesis
      (fun hosts member => checked hosts (List.mem_cons_of_mem _ member)) known
    refine ⟨later, ended, Roster.same_parties_iff.mpr fun name => ?_⟩
    exact (Roster.same_parties_iff.mp same name).trans (Roster.same_parties_iff.mp also name)

/-- A dispatcher with a tree was built from hosts, since a tree comes only with its table and its
hosts. -/
theorem built_of_tree {station : Station} (steady : station.Steady) {tree : RoutingTree}
    (installed : station.dispatcher.book.tree = some tree) :
    ∃ roster, station.dispatcher.BuiltFrom station.desk.host roster tree := by
  rcases steady.coherent with ⟨free, _⟩ | ⟨roster, known, built⟩
  · cases free.symm.trans installed
  · obtain rfl : known = tree := Option.some.inj (built.installed.symm.trans installed)
    exact ⟨roster, built⟩

/-- The hosts of a reload are accepted exactly if they are those of the last build, servers under
the same names; this is an equivalence. So in any run, from the time when a tree was first
installed, and as long as hosts come by reloads, accepted or rejected, the names in the tree and in
the table and the roles of the hosts stay.

Proof: two lists have the same parties if every name serves alike in both, a condition on single
names, from which the first two statements follow. For the last one the remembered hosts keep their
parties along the later calls, by induction on these. A dispatcher with a tree was built from the
hosts that it remembers, so names and roles are compared in the two lists and carried over to tree
and table. Rejected and failed reloads are among the later calls. -/
theorem only_wiring_changes :
    (∀ before after : Roster,
      before.ensureSameTopology after = .ok () ↔ before.SameParties after) ∧
    (Equivalence fun before after : Roster => before.ensureSameTopology after = .ok ()) ∧
    ∀ (host : String) (calls later : List Call), (∀ hosts, Call.build hosts ∉ later) →
      ∀ tree, (after host calls).dispatcher.book.tree = some tree →
        (after host calls).dispatcher.Applied tree ∧
        ∃ laterTree, (after host (calls ++ later)).dispatcher.Applied laterTree ∧
          (∀ name, name ∈ laterTree.hosts ↔ name ∈ tree.hosts) ∧
          ∀ name, (after host (calls ++ later)).dispatcher.serves? name =
            (after host calls).dispatcher.serves? name := by
  refine ⟨fun _ _ => Roster.same_topology_iff, Roster.same_topology_equivalence, ?_⟩
  intro host calls later checked tree installed
  obtain ⟨roster, built⟩ := built_of_tree (after_steady host calls) installed
  obtain ⟨laterRoster, remembered, same⟩ := run_parties checked built.remembered
  have continued : later.foldl perform (after host calls) = after host (calls ++ later) :=
    List.foldl_append.symm
  rw [continued] at remembered
  rcases (after_steady host (calls ++ later)).coherent with
    ⟨_, _, none, _⟩ | ⟨last, laterTree, ends⟩
  · cases none.symm.trans remembered
  · obtain rfl : last = laterRoster := Option.some.inj (ends.remembered.symm.trans remembered)
    refine ⟨Dispatcher.built_applied built, laterTree, Dispatcher.built_applied ends, ?_, ?_⟩
    · intro name
      rw [RoutingTree.accepted_hosts ends.accepted, RoutingTree.accepted_hosts built.accepted]
      exact (same.names name).symm
    · intro name
      rw [Dispatcher.built_serves ends, Dispatcher.built_serves built,
        Roster.same_parties_iff.mp same]

/-- The hosts of the quartet, with the clients exchanged and one server at another address. -/
def rewired : Roster :=
  ⟨[.root "Server1" "s1:1", .server "Server2" "s2:7" "Server1", .client "Client1" "Server2",
    .client "Client2" "Server1"], by decide⟩

/-- Hosts without one of the clients, which a reload must therefore refuse. -/
def lacking : Roster := ⟨[.root "Server1" "s1:1", .client "Client1" "Server1"], by decide⟩

/-- A station is started, refuses to go on without some of its hosts, is wired anew and stopped.
The clients are connected elsewhere now, and they are still the clients. -/
theorem rewired_clients_stay :
    let wired : List Call :=
      [.reconfigure ⟨⟨RoutingTree.quartet, RoutingTree.quartet_distinct⟩, []⟩]
    let later : List Call := [.start, .reconfigure ⟨lacking, []⟩, .reconfigure ⟨rewired, []⟩, .stop]
    ∃ tree laterTree, (after "Server1" wired).dispatcher.book.tree = some tree ∧
      (after "Server1" (wired ++ later)).dispatcher.book.tree = some laterTree ∧
      (tree.parent? "Client2" = some "Server2" ∧ laterTree.parent? "Client2" = some "Server1") ∧
      (∀ name, name ∈ laterTree.hosts ↔ name ∈ tree.hosts) ∧
      ∀ name, (after "Server1" (wired ++ later)).dispatcher.serves? name =
        (after "Server1" wired).dispatcher.serves? name := by
  intro wired later
  have unbuilt : ∀ hosts, Call.build hosts ∉ later := fun hosts member => by
    simp [later] at member
  have installed : (after "Server1" wired).dispatcher.book.tree =
      some ⟨RoutingTree.linksOf RoutingTree.quartet, "Server1"⟩ := rfl
  obtain ⟨_, laterTree, applied, names, roles⟩ :=
    only_wiring_changes.2.2 "Server1" wired later unbuilt _ installed
  have moved : (after "Server1" (wired ++ later)).dispatcher.book.tree =
      some ⟨RoutingTree.linksOf rewired.hosts, "Server1"⟩ := rfl
  obtain rfl : _ = laterTree := Option.some.inj (moved.symm.trans applied.installed)
  exact ⟨_, _, installed, moved, ⟨rfl, rfl⟩, names, roles⟩

end Station

end RelayTree
