import Mathlib.Data.List.Perm.Subperm
import RelayTree.Tree.Basic

/-!
# Lineages

A lineage lists a host and the hosts above it, each followed by the one it connects
to, and ends at a host that connects to nobody. A host on a cycle has none. Where
every host has a lineage no host occurs in one twice, so that a climb of as many
steps as there are hosts always comes to its end: `ancestorChain` is the lineage,
and the number of steps it was given does not show any more.

`Sound` collects what a tree needs for this. It speaks about links only; which lists
of hosts give such trees is the parser's business.
-/

namespace RelayTree.RoutingTree

/-- The way up from a host. The list decides neither where it ends nor that it ends:
both come from the links. -/
inductive Lineage (tree : RoutingTree) : String → List String → Prop where
  | top {host : String} (free : tree.parent? host = none) : Lineage tree host [host]
  | above {host up : String} {chain : List String} (connects : tree.parent? host = some up)
      (rest : Lineage tree up chain) : Lineage tree host (host :: chain)

/-- Names are distinct, links lead to hosts of the tree, the root alone has no link,
and the way up from every host ends. -/
structure Sound (tree : RoutingTree) : Prop where
  distinct : tree.hosts.Nodup
  closed : ∀ {host up : String}, tree.parent? host = some up → up ∈ tree.hosts
  root_described : tree.root ∈ tree.hosts
  root_free : tree.parent? tree.root = none
  sole_root : ∀ {host : String}, host ∈ tree.hosts → tree.parent? host = none → host = tree.root
  ending : ∀ {host : String}, host ∈ tree.hosts → ∃ chain, tree.Lineage host chain

variable {tree : RoutingTree}

/-! ## Lineages by themselves -/

/-- A lineage starts with its host, so it is never empty. -/
theorem lineage_head {host : String} {chain : List String} (lineage : tree.Lineage host chain) :
    ∃ rest, chain = host :: rest := by
  cases lineage with
  | top free => exact ⟨[], rfl⟩
  | above connects rest => exact ⟨_, rfl⟩

/-- The links leave no choice on the way up, so a host has one lineage at most. No soundness is
needed for that, only that a look-up has one answer. -/
theorem lineage_unique {host : String} {chain other : List String}
    (left : tree.Lineage host chain) (right : tree.Lineage host other) : chain = other := by
  induction left generalizing other with
  | top free =>
    cases right with
    | top _ => rfl
    | above connects _ => simp [free] at connects
  | above connects rest inductionHypothesis =>
    cases right with
    | top free => simp [free] at connects
    | above otherwise otherRest =>
      obtain rfl : _ = _ := Option.some.inj (connects.symm.trans otherwise)
      rw [inductionHypothesis otherRest]

/-- What follows a member of a lineage is that member's own lineage. The induction is on what stands
before the member, which is taken off step by step. -/
theorem lineage_from {host member : String} {before after : List String}
    (lineage : tree.Lineage host (before ++ member :: after)) :
    tree.Lineage member (member :: after) := by
  induction before generalizing host with
  | nil =>
    obtain ⟨rest, same⟩ := lineage_head lineage
    obtain ⟨rfl, rfl⟩ := List.cons.inj same
    exact lineage
  | cons first before inductionHypothesis =>
    generalize whole : first :: before ++ member :: after = chain at lineage
    cases lineage with
    | top free => simp at whole
    | above connects rest =>
      obtain ⟨_, tail⟩ := List.cons.inj whole
      exact inductionHypothesis (tail ▸ rest)

/-- Neighbours in a lineage are connected, the earlier one to the later one. -/
theorem lineage_step {host lower upper : String} {before after : List String}
    (lineage : tree.Lineage host (before ++ lower :: upper :: after)) :
    tree.parent? lower = some upper := by
  have suffix := lineage_from lineage
  cases suffix with
  | above connects rest =>
    obtain ⟨_, same⟩ := lineage_head rest
    exact (List.cons.inj same).1 ▸ connects

/-- No host occurs twice. A second occurrence would start the same lineage again,
which would then be longer than itself. -/
theorem lineage_nodup {host : String} {chain : List String}
    (lineage : tree.Lineage host chain) : chain.Nodup := by
  induction lineage with
  | top free => exact List.pairwise_singleton _ _
  | @above host up chain connects rest inductionHypothesis =>
    refine List.nodup_cons.mpr ⟨fun again => ?_, inductionHypothesis⟩
    obtain ⟨before, after, split⟩ := List.append_of_mem again
    have shorter : tree.Lineage host (host :: after) := lineage_from (split ▸ rest)
    have same : host :: chain = host :: after :=
      lineage_unique (.above connects rest) shorter
    have lengths := congrArg List.length (List.cons.inj same).2
    rw [split] at lengths
    simp only [List.length_append, List.length_cons] at lengths
    omega

/-- A climb with enough steps walks the whole lineage, and further steps make no difference. A host
has a lineage as long as there are hosts at most, so the size of the tree is enough. -/
theorem climb_lineage {host : String} {chain : List String} (lineage : tree.Lineage host chain)
    (steps : Nat) (enough : chain.length ≤ steps + 1) : tree.climb steps host = chain := by
  induction lineage generalizing steps with
  | top free => cases steps <;> simp [climb, free]
  | above connects rest inductionHypothesis =>
    cases steps with
    | zero =>
      obtain ⟨_, same⟩ := lineage_head rest
      simp [same] at enough
    | succ steps =>
      have fewer := inductionHypothesis steps (by simpa using enough)
      simp [climb, connects, fewer]

/-! ## Links of a tree -/

/-- A host with a server is a host of the tree, as its link was found under its name. -/
theorem described_of_parent {host up : String} (connects : tree.parent? host = some up) :
    host ∈ tree.hosts := by
  simp only [parent?, Option.bind_eq_some_iff] at connects
  obtain ⟨link, found, _⟩ := connects
  have named : link.name = host := by simpa using List.find?_some found
  exact List.mem_map.mpr ⟨link, List.mem_of_find?_eq_some found, named⟩

/-- With distinct names a host's own link is the one that is found. The search stops at the first
link with the name, and the links before this one have other names. -/
theorem parent_of_link (distinct : tree.hosts.Nodup) {link : Link} (member : link ∈ tree.links) :
    tree.parent? link.name = link.parent := by
  obtain ⟨before, after, split⟩ := List.append_of_mem member
  have apart : ∀ other ∈ before, ¬ other.name = link.name := by
    intro other earlier same
    rw [hosts, split, List.map_append, List.nodup_append] at distinct
    exact distinct.2.2 _ (List.mem_map.mpr ⟨other, earlier, rfl⟩) _
      (List.mem_map.mpr ⟨link, List.mem_cons_self, rfl⟩) same
  have skipped : before.find? (fun other => decide (other.name = link.name)) = none :=
    List.find?_eq_none.mpr fun other earlier => by simpa using apart other earlier
  simp [parent?, split, List.find?_append, skipped]

/-- The children of a host are the hosts that connect to it. Names must be distinct for this, since
a host is looked up by the first link with its name. -/
theorem mem_children (distinct : tree.hosts.Nodup) {child host : String} :
    child ∈ tree.children host ↔ tree.parent? child = some host := by
  constructor
  · intro member
    obtain ⟨link, selected, rfl⟩ := List.mem_map.mp member
    obtain ⟨present, parent⟩ := List.mem_filter.mp selected
    rw [parent_of_link distinct present]
    simpa using parent
  · intro connects
    obtain ⟨link, present, rfl⟩ := List.mem_map.mp (described_of_parent connects)
    rw [parent_of_link distinct present] at connects
    exact List.mem_map.mpr ⟨link, List.mem_filter.mpr ⟨present, by simpa using connects⟩, rfl⟩

/-! ## Chains of a sound tree -/

variable (sound : tree.Sound)

include sound

/-- All of a host's lineage lies in the tree, as every link leads to a host of it. -/
theorem lineage_described {host : String} {chain : List String} (present : host ∈ tree.hosts)
    (lineage : tree.Lineage host chain) : ∀ member ∈ chain, member ∈ tree.hosts := by
  induction lineage with
  | top free => simpa using present
  | above connects rest inductionHypothesis =>
    intro member here
    rcases List.mem_cons.mp here with rfl | further
    · exact present
    · exact inductionHypothesis (sound.closed connects) member further

/-- The climb that the tree prescribes is long enough: a lineage has distinct members,
all of them hosts. -/
theorem chain_lineage {host : String} (present : host ∈ tree.hosts) :
    tree.Lineage host (tree.ancestorChain host) := by
  obtain ⟨chain, lineage⟩ := sound.ending present
  have bounded : chain.length ≤ tree.hosts.length :=
    ((lineage_nodup lineage).subperm (lineage_described sound present lineage)).length_le
  have whole : tree.ancestorChain host = chain := by
    refine climb_lineage lineage tree.size ?_
    simp only [hosts, List.length_map] at bounded
    exact Nat.le_succ_of_le bounded
  exact whole ▸ lineage

/-- The chain of a connected host goes on with its server's chain, which is how most inductions over
a tree go. -/
theorem chain_of_parent {host up : String} (connects : tree.parent? host = some up) :
    tree.ancestorChain host = host :: tree.ancestorChain up :=
  lineage_unique (chain_lineage sound (described_of_parent connects))
    (.above connects (chain_lineage sound (sound.closed connects)))

/-- A host is on its own chain, at the head of it. -/
theorem self_mem_chain {host : String} (present : host ∈ tree.hosts) :
    host ∈ tree.ancestorChain host := by
  obtain ⟨rest, same⟩ := lineage_head (chain_lineage sound present)
  rw [same]
  exact List.mem_cons_self

/-- Every chain leads to the root, as no other host connects to nobody. -/
theorem root_mem_chain {host : String} (present : host ∈ tree.hosts) :
    tree.root ∈ tree.ancestorChain host := by
  have lineage := chain_lineage sound present
  generalize tree.ancestorChain host = chain at lineage
  induction lineage with
  | top free => exact List.mem_singleton.mpr (sound.sole_root present free).symm
  | above connects rest inductionHypothesis =>
    exact List.mem_cons_of_mem _ (inductionHypothesis (sound.closed connects))

/-- A chain splits at each of its members, and goes on from there with that member's
own chain. -/
theorem chain_split {host member : String} (present : host ∈ tree.hosts)
    (above : member ∈ tree.ancestorChain host) :
    ∃ before, tree.ancestorChain host = before ++ tree.ancestorChain member ∧ member ∉ before := by
  have lineage := chain_lineage sound present
  obtain ⟨before, after, split⟩ := List.append_of_mem above
  rw [split] at lineage
  have known : member ∈ tree.hosts := lineage_described sound present lineage member (by simp)
  have rest : tree.ancestorChain member = member :: after :=
    lineage_unique (chain_lineage sound known) (lineage_from lineage)
  have distinct := lineage_nodup lineage
  rw [List.nodup_append] at distinct
  refine ⟨before, split.trans (by rw [rest]), fun earlier => ?_⟩
  exact distinct.2.2 member earlier member List.mem_cons_self rfl

end RelayTree.RoutingTree
