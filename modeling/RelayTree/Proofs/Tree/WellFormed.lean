import RelayTree.Proofs.Keyed
import RelayTree.Proofs.Tree.Acceptance

/-!
# Well-formed lists of hosts

What makes a list of hosts a tree can be said without the parser: names and addresses
are distinct, one host connects to nobody, all others connect to servers of the list,
and following the connections from any host comes to an end. The parser accepts exactly
these lists.

One direction is left to show. Three passes check what the predicate says; the last one
asks instead whether a sweep over the children meets every host. `Sweeping` is the
invariant of that sweep: it holds on any links with distinct names, cycles included,
because a host that was not met yet waits on the stack at most once, put there by the
host it connects to. So the sweep ends within its rounds and has met all children of
all hosts it met, and with them every host whose connections lead to the root.
-/

namespace RelayTree.RoutingTree

/-- Following the connections from a host comes to one that connects to nobody. It is said with the
list alone, so that a circle shows as a host that does not ascend. -/
inductive Ascends (hosts : List Host) : Host → Prop where
  | top {host : Host} (free : host.connectTo = none) : Ascends hosts host
  | up {host server : Host} (connects : host.connectTo = some server.name)
      (member : server ∈ hosts) (rest : Ascends hosts server) : Ascends hosts host

/-- The list describes a tree. Each part can be checked by a look at the list, but for the last one,
which follows the connections. -/
structure WellFormed (hosts : List Host) : Prop where
  inhabited : hosts ≠ []
  named : ∀ host ∈ hosts, host.name ≠ ""
  distinct : (hosts.map (·.name)).Nodup
  addressed : (hosts.filterMap (·.serverAddress)).Nodup
  rooted : ∃ root, hosts.filter Host.isRoot = [root]
  served : ∀ host ∈ hosts, ∀ target, host.connectTo = some target →
    ∃ server ∈ hosts, server.name = target ∧ server.name ≠ host.name ∧ server.isServer = true
  ascending : ∀ host ∈ hosts, Ascends hosts host

/-- The tree has the hosts of the list, in its order and with its connections. Its root is the one
host of the list that connects to nobody. -/
structure Mirrors (tree : RoutingTree) (hosts : List Host) : Prop where
  listed : tree.hosts = hosts.map (·.name)
  rooted : ∃ root ∈ hosts, root.connectTo = none ∧ tree.root = root.name
  parents : ∀ host ∈ hosts, tree.parent? host.name = host.connectTo
  children : ∀ name, tree.children name =
    (hosts.filter (·.connectTo = some name)).map (·.name)

/-! ## The sweep -/

/-- While the sweep goes on no host is noted twice, on the stack or as met; each was put
there by the host it connects to, which has been met, and the root by nobody; all
children of a host that was met are noted; and there are rounds left for the others. -/
structure Sweeping (tree : RoutingTree) (rounds : Nat) (stack met : List String) : Prop where
  once : (stack ++ met).Nodup
  described : ∀ host ∈ stack ++ met, host ∈ tree.hosts
  origin : ∀ host ∈ stack ++ met, host = tree.root ∨ ∃ up ∈ met, tree.parent? host = some up
  followed : ∀ host ∈ met, ∀ child ∈ tree.children host, child ∈ stack ++ met
  enough : tree.size < rounds + met.length

variable {tree : RoutingTree} {hosts : List Host}

/-- The children of a host are hosts, each once, in the order of the description. -/
theorem children_sublist (tree : RoutingTree) (host : String) :
    (tree.children host).Sublist tree.hosts := List.filter_sublist.map _

/-- A round that meets a host replaces it on the stack by its children. None of them is
noted yet: its only server has just been met, and it is not the root. -/
theorem sweeping_step (distinct : tree.hosts.Nodup) (free : tree.parent? tree.root = none)
    {rounds : Nat} {host : String} {stack met : List String}
    (sweeping : tree.Sweeping (rounds + 1) (host :: stack) met) :
    tree.Sweeping rounds (tree.children host ++ stack) (host :: met) := by
  have apart := List.nodup_cons.mp sweeping.once
  have unmet : host ∉ met := fun early => apart.1 (List.mem_append_right _ early)
  have fresh : ∀ child ∈ tree.children host, child ∉ host :: stack ++ met := by
    intro child below noted
    have connects := (mem_children distinct).mp below
    rcases sweeping.origin child noted with rfl | ⟨up, early, known⟩
    · simp [free] at connects
    · obtain rfl : host = up := Option.some.inj (connects.symm.trans known)
      exact unmet early
  have same : ∀ other, other ∈ tree.children host ++ stack ++ host :: met ↔
      other ∈ tree.children host ∨ other ∈ host :: stack ++ met := by
    intro other
    simp only [List.mem_append, List.mem_cons]
    tauto
  refine ⟨?_, ?_, ?_, ?_, ?_⟩
  · have moved : (stack ++ host :: met).Perm (host :: stack ++ met) := List.perm_middle
    rw [List.append_assoc, List.nodup_append]
    refine ⟨(children_sublist tree host).nodup distinct, moved.nodup_iff.mpr sweeping.once, ?_⟩
    rintro child below _ noted rfl
    exact fresh child below (moved.mem_iff.mp noted)
  · intro other noted
    rcases (same other).mp noted with below | before
    · exact (children_sublist tree host).subset below
    · exact sweeping.described other before
  · intro other noted
    rcases (same other).mp noted with below | before
    · exact .inr ⟨host, List.mem_cons_self, (mem_children distinct).mp below⟩
    · rcases sweeping.origin other before with root | ⟨up, early, connects⟩
      · exact .inl root
      · exact .inr ⟨up, List.mem_cons_of_mem _ early, connects⟩
  · intro other early child below
    rcases List.mem_cons.mp early with rfl | early
    · exact (same child).mpr (.inl below)
    · exact (same child).mpr (.inr (sweeping.followed other early child below))
  · have enough := sweeping.enough
    rw [List.length_cons]
    omega

/-- At its end the sweep has met what it had noted, and with each host its children. It cannot run
out of rounds before, as it would have met more hosts than there are. -/
theorem sweep_complete (distinct : tree.hosts.Nodup) (free : tree.parent? tree.root = none)
    (rounds : Nat) (stack met : List String) (sweeping : tree.Sweeping rounds stack met) :
    (∀ host ∈ stack ++ met, host ∈ tree.sweep rounds stack met) ∧
      ∀ host ∈ tree.sweep rounds stack met, ∀ child ∈ tree.children host,
        child ∈ tree.sweep rounds stack met := by
  induction rounds generalizing stack met with
  | zero =>
    -- More hosts would have been met than there are.
    have bounded := (sweeping.once.subperm sweeping.described).length_le
    have enough := sweeping.enough
    simp only [List.length_append, RoutingTree.hosts, List.length_map] at bounded
    rw [size] at enough
    omega
  | succ rounds inductionHypothesis =>
    cases stack with
    | nil =>
      have followed := sweeping.followed
      simp only [List.nil_append] at followed
      simpa [sweep] using followed
    | cons host stack =>
      have unmet : host ∉ met := fun early =>
        (List.nodup_cons.mp sweeping.once).1 (List.mem_append_right _ early)
      obtain ⟨reaches, closed⟩ :=
        inductionHypothesis _ _ (sweeping_step distinct free sweeping)
      rw [sweep, if_neg unmet]
      refine ⟨fun other noted => reaches other ?_, closed⟩
      simp only [List.mem_append, List.mem_cons] at noted ⊢
      tauto

/-- The hosts met from the root include it and the children of all of them. -/
theorem reached_complete (distinct : tree.hosts.Nodup) (described : tree.root ∈ tree.hosts)
    (free : tree.parent? tree.root = none) :
    tree.root ∈ tree.reached ∧
      ∀ host ∈ tree.reached, ∀ child ∈ tree.children host, child ∈ tree.reached := by
  have sweeping : tree.Sweeping (tree.size + 1) [tree.root] [] :=
    ⟨by simp, by simpa using described, by simp, by simp, by simp⟩
  obtain ⟨noted, closed⟩ := sweep_complete distinct free _ _ _ sweeping
  exact ⟨noted tree.root (by simp), closed⟩

/-! ## The passes on a well-formed list -/

/-- With distinct names a host is found under its own, wherever it stands in the list. -/
theorem find_host (distinct : (hosts.map (·.name)).Nodup) {host : Host} (member : host ∈ hosts) :
    hosts.find? (·.name = host.name) = some host :=
  (find_by_key distinct).mpr ⟨member, rfl⟩

/-- The third pass finds the root of a well-formed list, after it has found all targets to be
servers. -/
theorem well_formed_root (formed : WellFormed hosts) {root : Host}
    (alone : hosts.filter Host.isRoot = [root]) :
    findRoot hosts none hosts = .ok (some root.name) := by
  refine (root_found_iff hosts hosts none _).mpr ⟨fun host member target connects => ?_, ?_⟩
  · obtain ⟨server, present, rfl, other, serves⟩ := formed.served host member target connects
    exact target_checked_iff.mpr ⟨other, server, find_host formed.distinct present, serves⟩
  · simp [alone]

/-- On a well-formed list the sweep leaves no host out: whoever connects to a host that was
met is among the children of that host. -/
theorem well_formed_reached (formed : WellFormed hosts) {root : Host}
    (alone : hosts.filter Host.isRoot = [root]) :
    (⟨linksOf hosts, root.name⟩ : RoutingTree).firstUnreached? = none := by
  generalize described : (⟨linksOf hosts, root.name⟩ : RoutingTree) = tree
  have links : tree.links = linksOf hosts := described ▸ rfl
  have top : tree.root = root.name := described ▸ rfl
  have listed : tree.hosts = hosts.map (·.name) := by simp [RoutingTree.hosts, links, linksOf]
  have distinct : tree.hosts.Nodup := listed ▸ formed.distinct
  obtain ⟨present, unconnected⟩ := List.mem_filter.mp (alone ▸ List.mem_singleton_self root)
  have free : tree.parent? tree.root = none := by
    rw [top, parent_of_host links distinct present]
    simpa [Host.isRoot] using unconnected
  have rootListed : tree.root ∈ tree.hosts := by
    rw [top, listed]
    exact List.mem_map.mpr ⟨root, present, rfl⟩
  obtain ⟨begins, closed⟩ := reached_complete distinct rootListed free
  have met : ∀ host, Ascends hosts host → host ∈ hosts → host.name ∈ tree.reached := by
    intro host ascends
    induction ascends with
    | @top host unconnected =>
      intro member
      have selected : host ∈ hosts.filter Host.isRoot :=
        List.mem_filter.mpr ⟨member, by simp [Host.isRoot, unconnected]⟩
      rw [alone, List.mem_singleton] at selected
      rw [selected, ← top]
      exact begins
    | @up host server connects serverListed _ inductionHypothesis =>
      intro member
      refine closed server.name (inductionHypothesis serverListed) host.name ?_
      rw [mem_children distinct, parent_of_host links distinct member, connects]
  refine List.find?_eq_none.mpr fun name member => ?_
  rw [listed] at member
  obtain ⟨host, present, rfl⟩ := List.mem_map.mp member
  simpa using met host (formed.ascending host present) present

/-- A well-formed list is accepted: each of the four passes finds what it looks for. -/
theorem accepted_of_well_formed (formed : WellFormed hosts) :
    ∃ tree, ofHosts hosts = .ok tree := by
  obtain ⟨root, alone⟩ := formed.rooted
  refine ⟨⟨linksOf hosts, root.name⟩, accepted_iff_passes.mpr ⟨?_, ?_, ?_, rfl, ?_⟩⟩
  · exact (addresses_checked_iff [] hosts .nil).mpr ⟨formed.named, formed.addressed⟩
  · exact (names_checked_iff [] hosts .nil).mpr formed.distinct
  · exact well_formed_root formed alone
  · exact well_formed_reached formed alone

/-! ## What an accepted list is like -/

/-- A host of an accepted list ascends along its lineage in the tree. Each link of the lineage is
the connection of a host in the list, to a host that is in the list too. -/
theorem ascends_of_lineage (accepted : ofHosts hosts = .ok tree) {name : String}
    {chain : List String} (lineage : tree.Lineage name chain) :
    ∀ host ∈ hosts, host.name = name → Ascends hosts host := by
  induction lineage with
  | top free =>
    rintro host member rfl
    exact .top (accepted_parent accepted member ▸ free)
  | @above name up chain connects _ inductionHypothesis =>
    rintro host member rfl
    have described : up ∈ tree.hosts := (accepted_sound accepted).closed connects
    rw [accepted_hosts accepted] at described
    obtain ⟨server, present, rfl⟩ := List.mem_map.mp described
    rw [accepted_parent accepted member] at connects
    exact .up connects present (inductionHypothesis server present rfl)

/-- An accepted list is well-formed. That following its connections comes to an end is inferred from
the last pass. -/
theorem well_formed_of_accepted (accepted : ofHosts hosts = .ok tree) : WellFormed hosts := by
  obtain ⟨addresses, _, roots, _, _⟩ := accepted_iff_passes.mp accepted
  obtain ⟨named, addressed⟩ := (addresses_checked_iff [] hosts .nil).mp addresses
  have alone := accepted_root accepted
  have listed := accepted_hosts accepted
  refine ⟨?_, named, listed ▸ accepted_distinct accepted, addressed, ?_, ?_, ?_⟩
  · rintro rfl
    cases alone
  · obtain ⟨root, only, _⟩ := List.map_eq_singleton_iff.mp alone
    exact ⟨root, only⟩
  · intro host member target connects
    have passed := ((root_found_iff hosts hosts none _).mp roots).1 host member target connects
    obtain ⟨other, server, found, serves⟩ := target_checked_iff.mp passed
    have named : server.name = target := by simpa using List.find?_some found
    exact ⟨server, List.mem_of_find?_eq_some found, named, named ▸ other, serves⟩
  · intro host member
    have described : host.name ∈ tree.hosts := listed ▸ List.mem_map.mpr ⟨host, member, rfl⟩
    obtain ⟨chain, lineage⟩ := (accepted_sound accepted).ending described
    exact ascends_of_lineage accepted lineage host member rfl

/-- An accepted tree mirrors its list: the same hosts in the same order, the same connections, and
the root. -/
theorem accepted_mirrors (accepted : ofHosts hosts = .ok tree) : Mirrors tree hosts where
  listed := accepted_hosts accepted
  rooted := by
    obtain ⟨root, only, named⟩ := List.map_eq_singleton_iff.mp (accepted_root accepted)
    obtain ⟨member, free⟩ := List.mem_filter.mp (only ▸ List.mem_singleton_self root)
    exact ⟨root, member, by simpa [Host.isRoot] using free, named.symm⟩
  parents := fun _ member => accepted_parent accepted member
  children := by
    obtain ⟨_, _, _, links, _⟩ := accepted_iff_passes.mp accepted
    intro name
    simp [RoutingTree.children, links, linksOf, List.filter_map, Function.comp_def]

/-- The parser accepts exactly the well-formed lists, and the tree it makes of one has the
hosts of the list in its order, the unconnected one as its root, and their connections.

Proof: three of the passes check what the predicate says, each by itself. The last one sweeps the
children from the root. It meets every host whose connections lead to the root, because a host that
was met has all its children met (`reached_complete`), and on a well-formed list these are all
hosts. In the other direction an accepted host ascends along its lineage. That the tree mirrors the
list is read off the links that are made of it. -/
theorem accepted_iff_well_formed (hosts : List Host) :
    ((∃ tree, ofHosts hosts = .ok tree) ↔ WellFormed hosts) ∧
      ∀ tree, ofHosts hosts = .ok tree → Mirrors tree hosts :=
  ⟨⟨fun ⟨_, accepted⟩ => well_formed_of_accepted accepted, accepted_of_well_formed⟩,
    fun _ accepted => accepted_mirrors accepted⟩

/-- A root server with a client, and with another server that has a client of its own. -/
def quartet : List Host :=
  [.root "Server1" "s1:1", .server "Server2" "s2:1" "Server1", .client "Client1" "Server1",
    .client "Client2" "Server2"]

/-- The four hosts of the example have four names. -/
theorem quartet_distinct : (quartet.map (·.name)).Nodup := by decide

/-- This list is well-formed, and its tree mirrors it, as the theorem says of any list. -/
theorem quartet_mirrored :
    WellFormed quartet ∧ ∃ tree, ofHosts quartet = .ok tree ∧ Mirrors tree quartet := by
  obtain ⟨formed, mirrors⟩ := accepted_iff_well_formed quartet
  have accepted : ofHosts quartet = .ok ⟨linksOf quartet, "Server1"⟩ := rfl
  exact ⟨formed.mp ⟨_, accepted⟩, _, accepted, mirrors _ accepted⟩

/-- A client of a server on a cycle is connected to a server and still never reaches the
root; the first host that the root does not reach is reported. -/
example : ofHosts [.root "R" "r:1", .client "C" "A", .server "A" "a:1" "B", .server "B" "b:1" "A"] =
    .error (.connectionCycle "C") := rfl

end RelayTree.RoutingTree
