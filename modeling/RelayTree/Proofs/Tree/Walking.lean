import RelayTree.Proofs.Tree.Searching

/-!
# Walks without bounds

Apart from the sweep no walk over the nodes notes where it has been, and none is given a number of
steps. That they end rests on what the sweep has found: it reaches every node from the root, so the
way up from each node ends there, no node is on its own way up, and every server has just the
clients that hang below it. A climb then follows a lineage, a search for a host above another one
follows a part of it, and a walk with a stack follows the preorder below a node. None of them comes
to a node twice.
-/

namespace RelayTree

/-- A client is one level deeper than its server, as its chain is one longer. -/
theorem RoutingTree.level_below {tree : RoutingTree} (sound : tree.Sound) {child host : String}
    (below : child ∈ tree.children host) :
    (tree.ancestorChain child).tail.length = (tree.ancestorChain host).tail.length + 1 := by
  have connects := (mem_children sound.distinct).mp below
  obtain ⟨rest, own⟩ := chain_cons sound (sound.closed connects)
  rw [chain_of_parent sound connects, own]
  rfl

/-- The outline lists the root and all hosts below it in preorder, each with its level. -/
theorem RoutingTree.outline_preorder {tree : RoutingTree} (sound : tree.Sound) : ∃ names,
    names.Perm tree.hosts ∧ Preorder tree.children [tree.root] names ∧
      tree.outline = names.map fun name => ((tree.ancestorChain name).tail.length, name) := by
  have whole : Preorder tree.children [tree.root]
      (tree.root :: tree.descendants tree.root ++ []) :=
    .cons (descendants_preorder sound tree.root) .nil
  rw [List.append_nil] at whole
  exact ⟨_, root_descendants sound, whole, outline_descendants sound⟩

namespace Arena

variable {arena : Arena} {hosts : List Host} {root name : String} {chain : List String}

/-- A node has another one for its server, as the lower one says itself. -/
def Hangs (arena : Arena) (lower upper : Nat) : Prop :=
  ∃ node, arena.nodes[lower]? = some node ∧ node.parent = some upper

/-- The links lead from nodes to nodes, those up and those down match, and there is no endless way
up. -/
structure Threaded (arena : Arena) : Prop where
  root_inside : arena.root < arena.size
  up_inside : ∀ {lower upper}, arena.Hangs lower upper → upper < arena.size
  down_inside : ∀ {upper lower}, arena.Leads upper lower → lower < arena.size
  matching : ∀ {upper lower}, arena.Leads upper lower ↔ arena.Hangs lower upper
  once : ∀ node ∈ arena.nodes, node.children.Nodup
  founded : WellFounded fun upper lower => arena.Hangs lower upper

/-- A walk that comes to an end, visits nodes only, and none of them twice. So it is not longer than
there are nodes. -/
structure Tours {σ ν β : Type} (arena : Arena) (round : σ → Round σ ν β) (node : ν → Nat)
    (start : σ) (trail : List ν) (result : β) : Prop where
  finishes : Finishes round start trail result
  inside : ∀ visited ∈ trail, node visited < arena.size
  once : (trail.map node).Nodup
  bounded : trail.length ≤ arena.size

/-- All walks over the nodes end, and find what the tree has by names. Each of them comes with the
trail of places that it visits, and none is visited twice. -/
structure Walkable (arena : Arena) (tree : RoutingTree) : Prop where
  climbs : ∀ index < arena.size, ∃ trail,
    arena.Tours arena.climb id (some index) trail () ∧
      trail.map arena.nameAt = tree.ancestorChain (arena.nameAt index)
  seeks : ∀ index < arena.size, ∀ name, ∃ trail,
    arena.Tours (arena.seek index) id (arena.sought name) trail
      (tree.liesBelow name (arena.nameAt index))
  lists : ∀ {index node}, arena.nodes[index]? = some node → ∃ trail,
    arena.Tours (unstackOne arena.below?) id node.children trail () ∧
      trail.map arena.nameAt = tree.descendants (arena.nameAt index)
  renders : ∃ trail, arena.Tours (unstackOne arena.indented?) Prod.snd [(0, arena.root)] trail () ∧
    trail.map (fun entry => (entry.1, arena.nameAt entry.2)) = tree.outline

/-- Visiting no node twice bounds a walk by the number of nodes. -/
theorem tours_once {σ ν β : Type} {round : σ → Round σ ν β} {node : ν → Nat} {start : σ}
    {trail : List ν} {result : β} (finishes : Finishes round start trail result)
    (inside : ∀ visited ∈ trail, node visited < arena.size) (once : (trail.map node).Nodup) :
    arena.Tours round node start trail result where
  finishes := finishes
  inside := inside
  once := once
  bounded := by
    have listed : ∀ place ∈ trail.map node, place ∈ List.range arena.size := by
      intro place member
      obtain ⟨visited, here, rfl⟩ := List.mem_map.mp member
      exact List.mem_range.mpr (inside visited here)
    have bounded := (once.subperm listed).length_le
    rwa [List.length_map, List.length_range] at bounded

/-- A walk with a stack lists what the same walk lists in a number of rounds, if these are more than
enough and everything on the list has something known below it. -/
theorem finishes_unstack {α : Type} {children : α → List α} {below? : α → Option (List α)}
    (rounds : Nat) (stack : List α) (enough : (unstack children rounds stack).length < rounds)
    (known : ∀ item ∈ unstack children rounds stack, below? item = some (children item)) :
    Finishes (unstackOne below?) stack (unstack children rounds stack) () := by
  induction rounds generalizing stack with
  | zero => exact absurd enough (Nat.not_lt_zero _)
  | succ rounds inductionHypothesis =>
    cases stack with
    | nil => exact .ended rfl
    | cons item stack =>
      rw [unstack] at enough known ⊢
      have here : below? item = some (children item) := known item List.mem_cons_self
      have further := inductionHypothesis (children item ++ stack) (Nat.lt_of_succ_lt_succ enough)
        fun other member => known other (List.mem_cons_of_mem _ member)
      refine .onward ?_ further
      rw [unstackOne, here]

/-- So it follows the preorder, which needs one round for each item and one more to find the stack
empty. -/
theorem unstack_ends {α : Type} {children : α → List α} {below? : α → Option (List α)}
    {first listing : List α} (ordered : Preorder children first listing)
    (known : ∀ item ∈ listing, below? item = some (children item)) :
    Finishes (unstackOne below?) first listing () := by
  have listed := unstack_preorder (listing.length + 1) ordered (Nat.le_succ _)
  have enough : (unstack children (listing.length + 1) first).length < listing.length + 1 := by
    rw [listed]
    exact Nat.lt_succ_self _
  rw [← listed] at known
  have finishes := finishes_unstack (listing.length + 1) first enough known
  rwa [listed] at finishes

/-- The level of a host and its place, as the walk for the rendering has them on its stack. -/
def levelled (hosts : List Host) (root name : String) : Nat × Nat :=
  (((described hosts root).ancestorChain name).tail.length, place hosts name)

namespace Shows

variable (shows : arena.Shows hosts root)

include shows

/-! ## Up -/

/-- Links up by place are links up by name, seen from the node below. -/
theorem hangs_iff (present : name ∈ hosts.map (·.name)) {upper : Nat} :
    arena.Hangs (Arena.place hosts name) upper ↔
      ∃ up, (described hosts root).parent? name = some up ∧ Arena.place hosts up = upper := by
  rw [Hangs, shows.node_at present]
  simp

/-- A link up by place is one between two names of the list. -/
theorem hangs_named {lower upper : Nat} (hangs : arena.Hangs lower upper) :
    ∃ name ∈ hosts.map (·.name), ∃ up, (described hosts root).parent? name = some up ∧
      Arena.place hosts name = lower ∧ Arena.place hosts up = upper := by
  obtain ⟨node, found, _⟩ := id hangs
  obtain ⟨name, present, rfl⟩ := shows.name_at_place (List.getElem?_eq_some_iff.mp found).1
  obtain ⟨up, connects, same⟩ := (shows.hangs_iff present).mp hangs
  exact ⟨name, present, up, connects, rfl, same⟩

/-- One round of a climb, told in names. -/
theorem climb_at (present : name ∈ hosts.map (·.name)) :
    arena.climb (some (Arena.place hosts name)) = .onward (Arena.place hosts name)
      (((described hosts root).parent? name).map (Arena.place hosts)) := by
  rw [climb, shows.node_at present]

/-- A climb follows the lineage of a host, by induction on it, and so it ends at the root. -/
theorem climb_finishes (lineage : (described hosts root).Lineage name chain)
    (present : name ∈ hosts.map (·.name)) :
    Finishes arena.climb (some (Arena.place hosts name)) (chain.map (Arena.place hosts)) () := by
  induction lineage with
  | top free =>
    have last := shows.climb_at present
    rw [free] at last
    exact .onward last (.ended rfl)
  | above connects rest inductionHypothesis =>
    have next := shows.climb_at present
    rw [connects] at next
    exact .onward next (inductionHypothesis (shows.up_listed connects))

/-- One round of a search for a host above, told in names. -/
theorem seek_at (present : name ∈ hosts.map (·.name)) (top : Nat) :
    arena.seek top (.inl (Arena.place hosts name)) = .onward (Arena.place hosts name)
      (match (described hosts root).parent? name with
      | none => .inr false
      | some up =>
        if Arena.place hosts up = top then .inr true else .inl (Arena.place hosts up)) := by
  rw [seek, shows.node_at present]
  cases (described hosts root).parent? name <;> rfl

/-- A search for a host above another one follows the lineage until it finds it. It visits the
beginning of the lineage only, and ends with the root if the host is not above. -/
theorem seek_finishes {top : String} (lineage : (described hosts root).Lineage name chain)
    (present : name ∈ hosts.map (·.name)) (known : top ∈ hosts.map (·.name)) :
    ∃ trail, trail <+: chain.map (Arena.place hosts) ∧
      Finishes (arena.seek (Arena.place hosts top)) (.inl (Arena.place hosts name)) trail
        (decide (top ∈ chain.tail)) := by
  induction lineage with
  | @top host free =>
    have last := shows.seek_at present (Arena.place hosts top)
    rw [free] at last
    exact ⟨_, List.prefix_rfl, .onward last (.ended rfl)⟩
  | @above host up chain connects rest inductionHypothesis =>
    have listed := shows.up_listed connects
    have next := shows.seek_at present (Arena.place hosts top)
    obtain ⟨others, rfl⟩ := RoutingTree.lineage_head rest
    rw [connects] at next
    by_cases same : up = top
    · subst same
      have found : decide (up ∈ (host :: up :: others).tail) = true := by simp
      rw [found]
      simp only [if_true] at next
      exact ⟨[Arena.place hosts host], by simp, .onward next (.ended rfl)⟩
    · obtain ⟨trail, begins, finishes⟩ := inductionHypothesis listed
      have apart : Arena.place hosts up ≠ Arena.place hosts top := fun placed =>
        same (shows.place_injective listed known placed)
      have result : decide (top ∈ (host :: up :: others).tail) =
          decide (top ∈ (up :: others).tail) :=
        decide_eq_decide.mpr (by simp [Ne.symm same])
      simp only [if_neg apart] at next
      rw [result]
      refine ⟨Arena.place hosts host :: trail, ?_, .onward next finishes⟩
      rw [List.map_cons]
      exact (List.prefix_cons_inj _).mpr begins

/-! ## Down -/

/-- What hangs below the place of a name, told in names. -/
theorem below_at (present : name ∈ hosts.map (·.name)) : arena.below? (Arena.place hosts name) =
    some (((described hosts root).children name).map (Arena.place hosts)) := by
  rw [below?, shows.node_at present]
  rfl

/-- Nothing hangs below a name that is not in the list, and nothing below a place without a node. -/
theorem below_absent (absent : name ∉ hosts.map (·.name)) :
    (described hosts root).children name = [] ∧ arena.below? (Arena.place hosts name) = none := by
  constructor
  · apply List.eq_nil_iff_forall_not_mem.mpr
    intro child below
    have distinct : (described hosts root).hosts.Nodup := hosts_described ▸ shows.distinct
    exact absent (shows.up_listed ((RoutingTree.mem_children distinct).mp below))
  · have outside : Arena.place hosts name = arena.nodes.length := by
      rw [Arena.place, List.idxOf_eq_length absent, List.length_map]
      exact shows.size_eq.symm
    rw [below?, outside, List.getElem?_eq_none (Nat.le_refl _)]
    rfl

/-- What hangs below a place, by names. Below a name that is not on the list there is nothing. -/
theorem below_names (name : String) : (arena.below? (Arena.place hosts name)).getD [] =
    ((described hosts root).children name).map (Arena.place hosts) := by
  by_cases present : name ∈ hosts.map (·.name)
  · rw [shows.below_at present]
    rfl
  · obtain ⟨nothing, outside⟩ := shows.below_absent present
    rw [nothing, outside]
    rfl

/-! ## Walks of an accepted tree -/

/-- A walk over the places of names, each of them once, is one that visits no node twice. -/
theorem tours_places {σ β : Type} {round : σ → Round σ Nat β} {start : σ} {names : List String}
    {result : β} (finishes : Finishes round start (names.map (Arena.place hosts)) result)
    (listed : ∀ name ∈ names, name ∈ hosts.map (·.name)) (once : names.Nodup) :
    arena.Tours round id start (names.map (Arena.place hosts)) result ∧
      (names.map (Arena.place hosts)).map arena.nameAt = names := by
  constructor
  · refine tours_once finishes ?_ ?_
    · intro place member
      obtain ⟨name, here, rfl⟩ := List.mem_map.mp member
      exact shows.place_inside (listed name here)
    · rw [List.map_id]
      exact once.map_on fun one here two there same =>
        shows.place_injective (listed one here) (listed two there) same
  · rw [List.map_map]
    exact (List.map_congr_left fun name here => shows.place_named (listed name here)).trans
      (List.map_id names)

section Sound

variable (sound : (described hosts root).Sound)

include sound

/-- From every node the climb ends, and visits the chain of its host. -/
theorem climbs {index : Nat} (inside : index < arena.size) : ∃ trail,
    arena.Tours arena.climb id (some index) trail () ∧
      trail.map arena.nameAt = (described hosts root).ancestorChain (arena.nameAt index) := by
  obtain ⟨name, present, rfl⟩ := shows.name_at_place inside
  rw [shows.place_named present]
  have known : name ∈ (described hosts root).hosts := hosts_described ▸ present
  have lineage := RoutingTree.chain_lineage sound known
  refine ⟨_, shows.tours_places (shows.climb_finishes lineage present) ?_
    (RoutingTree.lineage_nodup lineage)⟩
  exact fun member above => hosts_described ▸ RoutingTree.chain_described sound known above

/-- A search for a host above a node ends for every name, and answers as the tree does. -/
theorem seeks {index : Nat} (inside : index < arena.size) (name : String) : ∃ trail,
    arena.Tours (arena.seek index) id (arena.sought name) trail
      ((described hosts root).liesBelow name (arena.nameAt index)) := by
  obtain ⟨top, present, rfl⟩ := shows.name_at_place inside
  rw [shows.place_named present]
  have names : arena.nodes.map (·.name) = hosts.map (·.name) := by
    rw [shows.nodes, linked, List.map_map]
    rfl
  by_cases listed : name ∈ hosts.map (·.name)
  · have known : name ∈ (described hosts root).hosts := hosts_described ▸ listed
    have lineage := RoutingTree.chain_lineage sound known
    obtain ⟨trail, begins, finishes⟩ := shows.seek_finishes lineage listed present
    obtain ⟨tours, _⟩ := shows.tours_places (shows.climb_finishes lineage listed)
      (fun member above => hosts_described ▸ RoutingTree.chain_described sound known above)
      (RoutingTree.lineage_nodup lineage)
    rw [sought, names, place_found listed]
    refine ⟨trail, tours_once finishes ?_ ?_⟩
    · exact fun place member => tours.inside place (begins.subset member)
    · exact (begins.sublist.map id).nodup tours.once
  · -- The name is not looked for at all.
    have absent : (hosts.map (·.name)).idxOf? name = none := List.idxOf?_eq_none_iff.mpr listed
    have free : (described hosts root).parent? name = none :=
      Option.eq_none_iff_forall_ne_some.mpr fun up connects =>
        listed (hosts_described ▸ RoutingTree.described_of_parent connects)
    have alone : (described hosts root).ancestorChain name = [name] :=
      RoutingTree.climb_lineage (.top free) _ (by simp)
    have nowhere : (described hosts root).liesBelow name top = false := by
      rw [RoutingTree.liesBelow, alone]
      rfl
    rw [sought, names, absent, nowhere]
    exact ⟨[], tours_once (.ended rfl) (fun _ none => absurd none List.not_mem_nil) .nil⟩

/-- The walk below every node ends, and visits the descendants of its host in their order. The stack
holds places, and read by name it is the stack of the walk that lists descendants. -/
theorem lists {index : Nat} {node : TreeNode} (found : arena.nodes[index]? = some node) :
    ∃ trail, arena.Tours (unstackOne arena.below?) id node.children trail () ∧
      trail.map arena.nameAt = (described hosts root).descendants (arena.nameAt index) := by
  obtain ⟨name, present, rfl⟩ := shows.name_at_place (List.getElem?_eq_some_iff.mp found).1
  rw [shows.place_named present]
  cases (shows.node_at present).symm.trans found
  have listed : ∀ host ∈ (described hosts root).descendants name, host ∈ hosts.map (·.name) :=
    fun host lower => hosts_described ▸ RoutingTree.below_described sound _ lower
  have ordered : Preorder (fun place => (arena.below? place).getD []) _ _ :=
    preorder_map (Arena.place hosts) shows.below_names
      (RoutingTree.descendants_preorder sound name)
  refine ⟨_, shows.tours_places (unstack_ends ordered ?_) listed
    (RoutingTree.below_nodup sound _ name)⟩
  intro place member
  obtain ⟨host, here, rfl⟩ := List.mem_map.mp member
  rw [shows.below_names, shows.below_at (listed host here)]

/-- What hangs below a place, with its level, by names. The levels of the children are one more than
that of the node, in the tree of names as well. -/
theorem indented_names (name : String) : (arena.indented? (levelled hosts root name)).getD [] =
    ((described hosts root).children name).map (levelled hosts root) := by
  have lower : ((described hosts root).children name).map (levelled hosts root) =
      (((described hosts root).children name).map (Arena.place hosts)).map
        (((described hosts root).ancestorChain name).tail.length + 1, ·) := by
    rw [List.map_map]
    refine List.map_congr_left fun child below => ?_
    rw [levelled, RoutingTree.level_below sound below]
    rfl
  rw [lower, ← shows.below_names, indented?, levelled]
  cases arena.below? (Arena.place hosts name) <;> rfl

/-- The walk that renders the tree starts with the root and goes on with all others, each with its
level. -/
theorem renders : ∃ trail,
    arena.Tours (unstackOne arena.indented?) Prod.snd [(0, arena.root)] trail () ∧
      trail.map (fun entry => (entry.1, arena.nameAt entry.2)) =
        (described hosts root).outline := by
  obtain ⟨names, members, whole, outline⟩ := RoutingTree.outline_preorder sound
  have top : [root].map (levelled hosts root) = [(0, arena.root)] := by
    have alone : (described hosts root).ancestorChain root = [root] := RoutingTree.root_chain sound
    rw [List.map_singleton, levelled, alone, shows.place]
    rfl
  have listed : ∀ name ∈ names, name ∈ hosts.map (·.name) := fun name here =>
    hosts_described ▸ members.mem_iff.mp here
  have ordered : Preorder (fun entry => (arena.indented? entry).getD []) _ _ :=
    preorder_map (levelled hosts root) (shows.indented_names sound) whole
  change Preorder _ ([root].map (levelled hosts root)) _ at ordered
  rw [top] at ordered
  refine ⟨names.map (levelled hosts root), tours_once (unstack_ends ordered ?_) ?_ ?_, ?_⟩
  · intro entry member
    obtain ⟨name, here, rfl⟩ := List.mem_map.mp member
    rw [indented?, levelled, shows.below_at (listed name here)]
    rfl
  · intro entry member
    obtain ⟨name, here, rfl⟩ := List.mem_map.mp member
    exact shows.place_inside (listed name here)
  · rw [List.map_map]
    exact (members.nodup_iff.mpr sound.distinct).map_on fun one here two there same =>
      shows.place_injective (listed one here) (listed two there) same
  · rw [outline, List.map_map]
    refine List.map_congr_left fun name here => ?_
    rw [Function.comp, levelled, shows.place_named (listed name here)]

/-- Every link down has its link up, and the other way round, as both were written together. -/
theorem links_match {upper lower : Nat} : arena.Leads upper lower ↔ arena.Hangs lower upper := by
  constructor
  · intro leads
    obtain ⟨name, _, child, below, rfl, rfl⟩ := shows.leads_named leads
    have connects := (RoutingTree.mem_children sound.distinct).mp below
    exact (shows.hangs_iff (child_listed below)).mpr ⟨name, connects, rfl⟩
  · intro hangs
    obtain ⟨name, _, up, connects, rfl, rfl⟩ := shows.hangs_named hangs
    have below := (RoutingTree.mem_children sound.distinct).mpr connects
    exact (shows.leads_iff (shows.up_listed connects)).mpr ⟨name, below, rfl⟩

/-- The way up from a node is the lineage of its host, and ends where that does. So the links cannot
lead in a circle upwards, and this is what lets walks without a bound end. -/
theorem ascent_founded : WellFounded fun upper lower => arena.Hangs lower upper := by
  have founded : ∀ {name : String} {chain : List String},
      (described hosts root).Lineage name chain → name ∈ hosts.map (·.name) →
        Acc (fun upper lower => arena.Hangs lower upper) (Arena.place hosts name) := by
    intro name chain lineage present
    induction lineage with
    | top free =>
      refine .intro _ fun upper hangs => ?_
      obtain ⟨up, connects, _⟩ := (shows.hangs_iff present).mp hangs
      cases free.symm.trans connects
    | above connects _ inductionHypothesis =>
      refine .intro _ fun upper hangs => ?_
      obtain ⟨up, also, rfl⟩ := (shows.hangs_iff present).mp hangs
      cases connects.symm.trans also
      exact inductionHypothesis (shows.up_listed connects)
  -- A place without a node has no way up.
  refine ⟨fun index => .intro _ fun upper hangs => ?_⟩
  obtain ⟨name, _, up, connects, rfl, rfl⟩ := shows.hangs_named hangs
  have listed := shows.up_listed connects
  obtain ⟨chain, lineage⟩ := sound.ending (hosts_described.symm ▸ listed)
  exact founded lineage listed

/-- The links of an accepted list are those of a tree: they lead to nodes, match each other, and no
node is on its own way up. -/
theorem threaded : arena.Threaded where
  root_inside := shows.place ▸ shows.place_inside shows.root_listed.1
  up_inside := by
    intro lower upper hangs
    obtain ⟨_, _, up, connects, _, rfl⟩ := shows.hangs_named hangs
    exact shows.place_inside (shows.up_listed connects)
  down_inside := shows.leads_inside
  matching := shows.links_match sound
  once := by
    intro node member
    obtain ⟨index, there, rfl⟩ := List.getElem_of_mem member
    obtain ⟨name, present, rfl⟩ := shows.name_at_place there
    have found := shows.node_at present
    rw [List.getElem?_eq_getElem there, Option.some.injEq] at found
    rw [found]
    have distinct := (RoutingTree.children_sublist (described hosts root) name).nodup sound.distinct
    exact distinct.map_on fun one here two below same =>
      shows.place_injective (child_listed here) (child_listed below) same
  founded := shows.ascent_founded sound

end Sound

end Shows

/-- The parser comes to an end for every list of hosts: the sweep ends on all links, in a circle or
not, and has noted the nodes that the root leads to. What the parser finds is what the passes over
the names find. If it accepts the list, the links lead from nodes to nodes, match each other and go
up to an end, and all walks over them end, with no node visited twice, and find the same as those
over names.

Proof: the sweep notes where it has been, so what it has not noted gets less with every round,
whatever the links are. Which nodes it notes is settled by an invariant, and from then on nothing
about its order is used. On an accepted list the arena shows the tree of names, place by place. Each
walk is then followed along the structure of that tree which it traces, a lineage for climbs and a
preorder for stacks. A loop ends in one way only, so it is enough to show one. -/
theorem parser_and_walks_end (hosts : List Host) :
    (∀ arena, ofHosts hosts = .ok arena → ∃ trail reached,
      Finishes arena.sweep arena.unswept trail reached ∧
        ∀ place : Nat, reached[place]? = some true ↔
          Relation.ReflTransGen arena.Leads arena.root place) ∧
    (∃ result, Parses hosts result ∧ RoutingTree.ofHosts hosts = result.map tree) ∧
    ∀ arena, Parses hosts (.ok arena) → arena.Threaded ∧ arena.Walkable arena.tree := by
  refine ⟨fun arena linked => ?_, ?_, fun arena parses => ?_⟩
  · obtain ⟨root, shows⟩ := shows_of_linked linked
    obtain ⟨trail, reached, finishes, swept⟩ := shows.sweep_ends
    exact ⟨trail, reached, finishes, fun _ => swept_iff_leads swept⟩
  · obtain ⟨result, parses⟩ := parses_ends hosts
    exact ⟨result, parses, parses_tree parses⟩
  · have accepted : RoutingTree.ofHosts hosts = .ok arena.tree := parses_tree parses
    have sound := RoutingTree.accepted_sound accepted
    obtain ⟨root, shows⟩ : ∃ root, arena.Shows hosts root := by
      cases parses with
      | accepted linked _ _ => exact shows_of_linked linked
    rw [shows.tree_described] at sound ⊢
    exact ⟨shows.threaded sound, fun _ => shows.climbs sound, fun _ => shows.seeks sound,
      shows.lists sound, shows.renders sound⟩

/-- Two servers that are connected to each other, with a client of one of them, and a root. -/
def whirl : List Host :=
  [.root "R" "r:1", .client "C" "A", .server "A" "a:1" "B", .server "B" "b:1" "A"]

/-- Four hosts are accepted and their tree can be walked. Around the circle the sweep ends as well,
and the host that it has not met is reported. -/
theorem quartet_walkable_whirl_swept :
    (∃ arena, Parses RoutingTree.quartet (.ok arena) ∧ arena.Threaded ∧
      arena.Walkable arena.tree) ∧
    ∃ arena, ofHosts whirl = .ok arena ∧ arena.Leads 2 3 ∧ arena.Leads 3 2 ∧
      (∃ trail reached, Finishes arena.sweep arena.unswept trail reached) ∧
      Parses whirl (.error (.connectionCycle "C")) := by
  constructor
  · obtain ⟨_, ⟨result, parses, same⟩, walks⟩ := parser_and_walks_end RoutingTree.quartet
    have accepted : RoutingTree.ofHosts RoutingTree.quartet =
        .ok ⟨RoutingTree.linksOf RoutingTree.quartet, "Server1"⟩ := rfl
    cases result with
    | error failure => cases accepted.symm.trans same
    | ok arena => exact ⟨arena, parses, walks arena parses⟩
  · obtain ⟨sweeps, ⟨result, parses, same⟩, _⟩ := parser_and_walks_end whirl
    have linked : ofHosts whirl = .ok ⟨[⟨"R", none, []⟩, ⟨"C", some 2, []⟩, ⟨"A", some 3, [1, 3]⟩,
        ⟨"B", some 2, [2]⟩], 0⟩ := rfl
    have refused : RoutingTree.ofHosts whirl = .error (.connectionCycle "C") := rfl
    obtain ⟨trail, reached, finishes, _⟩ := sweeps _ linked
    refine ⟨_, linked, ⟨_, rfl, by decide⟩, ⟨_, rfl, by decide⟩, ⟨trail, reached, finishes⟩, ?_⟩
    cases result with
    | error failure =>
      cases refused.symm.trans same
      exact parses
    | ok arena => cases refused.symm.trans same

end Arena

end RelayTree
