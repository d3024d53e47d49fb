import RelayTree.Proofs.Dispatcher.Coherence
import RelayTree.Proofs.Tree.Reordering

/-!
# Hosts in another order

A dispatcher whose hosts are described in another order decides in the same way. Its table has the
same strategy for every name, although it is filled by going over the hosts in the order of the
description and by a walk over the hosts below, which comes by them in another order as well. It
does not matter how the dispatchers came to be built from their lists.
-/

namespace RelayTree

namespace RoutingTree

/-- All that is asked of a tree to find routes has the same answer for both. Listings have the same
members in another order, which is why they are compared as permutations. -/
structure RoutesAlike (first second : RoutingTree) : Prop where
  root : first.root = second.root
  contains : ∀ name, first.contains name = second.contains name
  parents : ∀ name, first.parent? name = second.parent? name
  below : ∀ name top, first.liesBelow name top = second.liesBelow name top
  descendants : ∀ top, first.contains top = true →
    (first.descendants top).Perm (second.descendants top)
  routes : ∀ source target, first.routeBetween source target = second.routeBetween source target

variable {first second : RoutingTree}

/-- The trees of a list in two orders give the same routes: the same hosts, the same links, and the
same positions below each other. -/
theorem reordered_alike (reordered : first.Reordered second) (sound : first.Sound)
    (also : second.Sound) : first.RoutesAlike second where
  root := reordered.root
  contains := contains_reordered reordered
  parents := reordered.parents
  below := lies_below_reordered reordered
  descendants := fun _ known => descendants_reordered reordered sound also (of_decide_eq_true known)
  routes := route_reordered reordered

end RoutingTree

namespace Station

/-- Of two rosters either the dispatcher of a host can be built from both, or it is refused by both
for the same reason; and dispatchers of one host that were last built from the one and from the
other have the same table. -/
structure TablesAlike (first second : Roster) : Prop where
  built : ∀ station : Station, (station.build first).result = .ok () ↔
    station.desk.host ∈ first.hosts.map (·.name)
  results : ∀ station other : Station, station.desk.host = other.desk.host →
    (station.build first).result = (other.build second).result
  tables : ∀ station other : Station, station.desk.host = other.desk.host →
    (station.build first).result = .ok () →
    (station.build first).state.dispatcher.table = (other.build second).state.dispatcher.table
  lasting : ∀ host calls others, (after host calls).dispatcher.roster = some first →
    (after host others).dispatcher.roster = some second →
    (after host calls).dispatcher.table = (after host others).dispatcher.table

variable {first second : Roster} {tree other : RoutingTree}

/-- From an accepted list the dispatcher of each of its hosts can be built. -/
theorem build_result (accepted : RoutingTree.ofHosts first.hosts = .ok tree) (station : Station) :
    (station.build first).result =
      if station.desk.host ∈ tree.hosts then .ok ()
      else .error (.unknownHost station.desk.host) := by
  by_cases known : station.desk.host ∈ tree.hosts <;>
    simp [build, parseTree, accepted, RoutingTree.descendantsOf, RoutingTree.contains, known,
      Outcome.ok, Outcome.fail, Outcome.after, Outcome.andThen]

/-- A dispatcher that remembers a list was built from it, however many other lists it was built from
before. -/
theorem built_of_remembered {host : String} {calls : List Call}
    (accepted : RoutingTree.ofHosts first.hosts = .ok tree)
    (remembered : (after host calls).dispatcher.roster = some first) :
    (after host calls).dispatcher.BuiltFrom host first tree := by
  rcases (after_steady host calls).coherent with ⟨_, _, none, _⟩ | ⟨last, known, built⟩
  · cases remembered.symm.trans none
  · obtain rfl : last = first := Option.some.inj (built.remembered.symm.trans remembered)
    obtain rfl : known = tree := Except.ok.inj (built.accepted.symm.trans accepted)
    rwa [after_host] at built

/-- Two dispatchers of a host that were built from the same hosts have the same table. -/
theorem table_reordered {host : String} {dispatcher also : Dispatcher}
    (reordered : tree.Reordered other) (built : dispatcher.BuiltFrom host first tree)
    (beside : also.BuiltFrom host second other) : dispatcher.table = also.table := by
  apply SortedMap.ext_get?
  intro name
  have lower : name ∈ tree.descendants host ↔ name ∈ other.descendants host :=
    RoutingTree.mem_descendants_reordered reordered (RoutingTree.accepted_sound built.accepted)
      (RoutingTree.accepted_sound beside.accepted) built.described
  rw [built.classified, beside.classified]
  simp only [reordered.listed.mem_iff, classify, lower]

/-- The dispatchers that are built from a list in two orders have the same tables. They are compared
right after a build, and at any later time at which the list is the last one that they were built
from. -/
theorem reordered_tables (reordered : first.hosts.Perm second.hosts)
    (accepted : RoutingTree.ofHosts first.hosts = .ok tree)
    (also : RoutingTree.ofHosts second.hosts = .ok other) : TablesAlike first second := by
  have alike := RoutingTree.tree_reordered reordered accepted also
  have results (station beside : Station) (named : station.desk.host = beside.desk.host) :
      (station.build first).result = (beside.build second).result := by
    simp only [build_result accepted, build_result also, named, alike.listed.mem_iff]
  refine ⟨fun station => ?_, results, fun station beside named succeeded => ?_, ?_⟩
  · rw [build_result accepted, ← RoutingTree.accepted_hosts accepted]
    split <;> simp [*]
  · obtain ⟨own, fromFirst, described, state⟩ := build_succeeded succeeded
    obtain ⟨their, fromSecond, present, later⟩ :=
      build_succeeded ((results station beside named).symm.trans succeeded)
    have built := install_built fromFirst described
    rw [state, later]
    rw [named] at built ⊢
    exact table_reordered (RoutingTree.tree_reordered reordered fromFirst fromSecond) built
      (install_built fromSecond present)
  · intro host calls others remembered rememberedToo
    exact table_reordered alike (built_of_remembered accepted remembered)
      (built_of_remembered also rememberedToo)

/-- The order in which hosts are described makes no difference to routing. Both orders are accepted
or none is, and if they are, the trees have the same links and the same routes, and the dispatchers
built from them have the same table at every host.

Proof: what makes a list well-formed does not mention its order, so both lists are accepted or none
is. Parents are looked up by name, and names are distinct, so the trees have the same chains, and
everything that routes are made of is computed from these. Tables are compared name by name, each
strategy being decided by the position of the name in the tree. Listings do depend on the order and
are not compared. -/
theorem order_immaterial {hosts others : List Host} (reordered : hosts.Perm others) :
    ((∃ tree, RoutingTree.ofHosts hosts = .ok tree) ↔
        ∃ tree, RoutingTree.ofHosts others = .ok tree) ∧
      ∀ tree other, RoutingTree.ofHosts hosts = .ok tree → RoutingTree.ofHosts others = .ok other →
        tree.RoutesAlike other ∧
        ∃ distinct distinctToo, TablesAlike ⟨hosts, distinct⟩ ⟨others, distinctToo⟩ := by
  refine ⟨RoutingTree.accepted_reordered reordered, fun tree other accepted also => ⟨?_, ?_⟩⟩
  · exact RoutingTree.reordered_alike (RoutingTree.tree_reordered reordered accepted also)
      (RoutingTree.accepted_sound accepted) (RoutingTree.accepted_sound also)
  · exact ⟨(RoutingTree.well_formed_of_accepted accepted).distinct,
      (RoutingTree.well_formed_of_accepted also).distinct, reordered_tables reordered accepted also⟩

/-- With the clients before their servers the four hosts make a tree with the same routes, although
their listings differ. -/
theorem quartet_reversed :
    let tree : RoutingTree := ⟨RoutingTree.linksOf RoutingTree.quartet, "Server1"⟩
    let other : RoutingTree := ⟨RoutingTree.linksOf RoutingTree.quartet.reverse, "Server1"⟩
    RoutingTree.quartet.Perm RoutingTree.quartet.reverse ∧
      RoutingTree.ofHosts RoutingTree.quartet = .ok tree ∧
      RoutingTree.ofHosts RoutingTree.quartet.reverse = .ok other ∧
      tree.RoutesAlike other ∧
      (∃ distinct distinctToo,
        TablesAlike ⟨RoutingTree.quartet, distinct⟩ ⟨RoutingTree.quartet.reverse, distinctToo⟩) ∧
      tree.descendants "Server1" ≠ other.descendants "Server1" := by
  intro tree other
  have reordered : RoutingTree.quartet.Perm RoutingTree.quartet.reverse :=
    (List.reverse_perm _).symm
  have accepted : RoutingTree.ofHosts RoutingTree.quartet = .ok tree := rfl
  have also : RoutingTree.ofHosts RoutingTree.quartet.reverse = .ok other := rfl
  obtain ⟨alike, tables⟩ := (order_immaterial reordered).2 tree other accepted also
  exact ⟨reordered, accepted, also, alike, tables, by decide⟩

end Station

end RelayTree
