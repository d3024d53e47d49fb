import RelayTree.Proofs.Tree.Preorder
import RelayTree.Tree.Arena

/-!
# Linked nodes

Nodes are linked one after the other, each to a server that may stand before or after it in the
list. At any moment the nodes have the links of the hosts that were passed, and no others: `linked`
gives them at once, without a loop. In the end that is what the list describes, whether its links
lead in a circle or not, and the passes up to here fail on the same lists as those over names.
-/

namespace RelayTree.Arena

variable {hosts rest : List Host} {host : Host} {name target : String}

/-- The place of a name in a list of hosts, counted from zero. A name that is not there has a place
beyond the end. -/
def place (hosts : List Host) (name : String) : Nat := (hosts.map (·.name)).idxOf name

/-- The node of a host when the hosts that were passed are linked. Its server is noted when the host
itself is passed, and its clients as they are passed, in this order. -/
def linkedNode (hosts passed : List Host) (host : Host) : TreeNode where
  name := host.name
  parent := if host.name ∈ passed.map (·.name) then host.connectTo.map (place hosts) else none
  children := (RoutingTree.clientsOf passed host.name).map (place hosts)

/-- All nodes when the hosts that were passed are linked, whatever order they were passed in. -/
def linked (hosts passed : List Host) : List TreeNode := hosts.map (linkedNode hosts passed)

/-! ## Places and names -/

/-- A name of the list is found at its place by the search for it. -/
theorem place_found (present : name ∈ hosts.map (·.name)) :
    (hosts.map (·.name)).idxOf? name = some (place hosts name) := by
  obtain ⟨index, found⟩ := Option.isSome_iff_exists.mp (List.isSome_idxOf?.mpr present)
  rw [place, List.idxOf_eq_getD_idxOf?, found]
  rfl

section Places

variable (distinct : (hosts.map (·.name)).Nodup)

include distinct

/-- At a place stands the name that has it, since names are distinct. So whoever looks a name up by
going through the list comes to the same place as the index of names. -/
theorem place_eq_iff {index : Nat} (found : hosts[index]? = some host) :
    place hosts name = index ↔ host.name = name := by
  obtain ⟨there, rfl⟩ := List.getElem?_eq_some_iff.mp found
  have inside : index < (hosts.map (·.name)).length := by simpa using there
  constructor
  · rintro rfl
    have named : (hosts.map (·.name))[place hosts name] = name := List.getElem_idxOf inside
    rwa [List.getElem_map] at named
  · rintro rfl
    have placed := distinct.idxOf_getElem index inside
    rwa [List.getElem_map] at placed

/-- A change of the node at the place of a name is a change of the node of that name. -/
theorem modify_placed (nodes : Host → TreeNode) (change : TreeNode → TreeNode) (name : String) :
    (hosts.map nodes).modify (place hosts name) change =
      hosts.map fun host => if host.name = name then change (nodes host) else nodes host := by
  refine List.ext_getElem? fun index => ?_
  rw [List.getElem?_modify, List.getElem?_map, List.getElem?_map]
  cases found : hosts[index]? with
  | none => rfl
  | some host =>
    simp only [Option.map_some, place_eq_iff distinct found]
    split <;> rfl

/-- A host of the list with the name of another one is that one. -/
theorem same_host {other : Host} (member : host ∈ hosts) (listed : other ∈ hosts)
    (same : other.name = host.name) : other = host :=
  List.inj_on_of_nodup_map distinct listed member same

/-- The links of a node when one more host is passed: it may be that host, or the server of it, or
neither. -/
theorem linked_node_next {passed : List Host} {other : Host} (member : host ∈ hosts)
    (listed : other ∈ hosts) (connects : host.connectTo = some target) :
    linkedNode hosts (passed ++ [host]) other =
      ⟨other.name,
        if other.name = host.name then some (place hosts target)
        else (linkedNode hosts passed other).parent,
        (linkedNode hosts passed other).children ++
          if other.name = target then [place hosts host.name] else []⟩ := by
  rw [linkedNode, TreeNode.mk.injEq]
  refine ⟨rfl, ?_, ?_⟩
  · by_cases same : other.name = host.name
    · rw [same_host distinct member listed same, if_pos (by simp), if_pos rfl, connects]
      rfl
    · simp [linkedNode, same]
  · simp only [linkedNode, RoutingTree.clientsOf, List.filter_append, List.map_append]
    by_cases same : other.name = target
    · simp [connects, same]
    · simp [connects, Ne.symm same, same]

/-- To link one more node is to pass one more host, which is the step of the loop that links
them. -/
theorem attach_linked {passed : List Host} (member : host ∈ hosts)
    (connects : host.connectTo = some target) :
    attach (linked hosts passed) (place hosts host.name) (place hosts target) =
      linked hosts (passed ++ [host]) := by
  rw [attach, linked, modify_placed distinct, modify_placed distinct, linked]
  refine List.map_congr_left fun other listed => ?_
  rw [linked_node_next distinct member listed connects]
  have named : (linkedNode hosts passed other).name = other.name := rfl
  generalize linkedNode hosts passed other = node at named
  by_cases own : other.name = host.name
  · rw [if_pos own, if_pos own]
    split <;> simp [named]
  · rw [if_neg own, if_neg own]
    split <;> simp [← named]

/-- A host that connects to nobody changes no links when it is passed. -/
theorem linked_free {passed : List Host} (member : host ∈ hosts) (free : host.connectTo = none) :
    linked hosts (passed ++ [host]) = linked hosts passed := by
  refine List.map_congr_left fun other listed => ?_
  rw [linkedNode, linkedNode, TreeNode.mk.injEq]
  refine ⟨rfl, ?_, ?_⟩
  · by_cases same : other.name = host.name
    · simp [same_host distinct member listed same, free]
    · simp [same]
  · simp [RoutingTree.clientsOf, free]

/-- The names of the nodes are those of the hosts, each at its place. -/
theorem name_placed {passed : List Host} (present : name ∈ hosts.map (·.name)) :
    nameIn (linked hosts passed) (place hosts name) = name := by
  obtain ⟨host, member, rfl⟩ := List.mem_map.mp present
  obtain ⟨index, there, rfl⟩ := List.getElem_of_mem member
  have placed := (place_eq_iff distinct (List.getElem?_eq_getElem there)).mpr rfl
  simp [nameIn, linked, placed, there, linkedNode]

/-- Linking the rest of the hosts fails where the pass over their names does, and otherwise finds
the same root and has linked all hosts. -/
theorem link_found (passed rest : List Host) (root : Option String) (whole : hosts = passed ++ rest)
    (known : ∀ name, root = some name → name ∈ hosts.map (·.name)) :
    link hosts (root.map (place hosts)) (linked hosts passed) passed.length rest =
      (RoutingTree.findRoot hosts root rest).map fun found =>
        (found.map (place hosts), linked hosts hosts) := by
  induction rest generalizing passed root with
  | nil =>
    rw [List.append_nil] at whole
    rw [← whole]
    rfl
  | cons host rest inductionHypothesis =>
    have member : host ∈ hosts := by simp [whole]
    have here : hosts[passed.length]? = some host := by simp [whole]
    have placed : place hosts host.name = passed.length := (place_eq_iff distinct here).mpr rfl
    have next := inductionHypothesis (passed ++ [host])
    rw [List.length_append, List.length_singleton] at next
    have further : hosts = passed ++ [host] ++ rest := by simp [whole]
    unfold link RoutingTree.findRoot
    cases connects : host.connectTo with
    | none =>
      cases root with
      | some first =>
        simp only [Option.map_some, name_placed distinct (known first rfl)]
        rfl
      | none =>
        have rooted := next (some host.name) further fun name same => by
          cases same
          exact List.mem_map.mpr ⟨host, member, rfl⟩
        rw [linked_free distinct member connects, Option.map_some, placed] at rooted
        exact rooted
    | some target =>
      cases passes : RoutingTree.checkTarget hosts host target with
      | error failure => simp only [passes]; rfl
      | ok =>
        obtain ⟨_, server, found, _⟩ := RoutingTree.target_checked_iff.mp passes
        have listed : target ∈ hosts.map (·.name) :=
          List.mem_map.mpr ⟨server, List.mem_of_find?_eq_some found, by
            simpa using List.find?_some found⟩
        have present := place_found listed
        simp only [passes, present]
        rw [← placed, attach_linked distinct member connects, placed]
        exact next root further known

end Places

/-! ## What the list describes -/

/-- The tree that a list of hosts describes, if it is one. It is what the arena is compared with
throughout. -/
def described (hosts : List Host) (root : String) : RoutingTree := ⟨RoutingTree.linksOf hosts, root⟩

/-- An arena in which all hosts of a list are linked, with the root that the third pass has
found. -/
structure Shows (arena : Arena) (hosts : List Host) (root : String) : Prop where
  distinct : (hosts.map (·.name)).Nodup
  rooted : RoutingTree.findRoot hosts none hosts = .ok (some root)
  nodes : arena.nodes = linked hosts hosts
  place : arena.root = place hosts root

/-- Where the nodes cannot be linked, the passes over the names fail alike. Otherwise all hosts are
linked, and only the last pass is left. -/
theorem of_hosts_shows (hosts : List Host) :
    (∃ failure, ofHosts hosts = .error failure ∧ RoutingTree.ofHosts hosts = .error failure) ∨
      ∃ arena root, ofHosts hosts = .ok arena ∧ arena.Shows hosts root ∧
        RoutingTree.ofHosts hosts =
          match (described hosts root).firstUnreached? with
          | some host => .error (.connectionCycle host)
          | none => .ok (described hosts root) := by
  rw [ofHosts, RoutingTree.ofHosts]
  cases empty : hosts.isEmpty with
  | true => exact .inl ⟨_, rfl, rfl⟩
  | false =>
    simp only [Bool.false_eq_true, if_false]
    cases addresses : RoutingTree.checkAddresses [] hosts with
    | error failure => exact .inl ⟨failure, rfl, rfl⟩
    | ok =>
      cases names : RoutingTree.checkNames [] hosts with
      | error failure => exact .inl ⟨failure, rfl, rfl⟩
      | ok =>
        have distinct : (hosts.map (·.name)).Nodup :=
          (RoutingTree.names_checked_iff [] hosts .nil).mp names
        have found := link_found distinct [] hosts none rfl nofun
        change link hosts none (unlinked hosts) 0 hosts = _ at found
        rw [found]
        cases rooted : RoutingTree.findRoot hosts none hosts with
        | error failure => exact .inl ⟨failure, rfl, rfl⟩
        | ok root =>
          cases root with
          | none => exact .inl ⟨.noRoot, rfl, rfl⟩
          | some root =>
            refine .inr ⟨⟨linked hosts hosts, place hosts root⟩, root, rfl, ?_, ?_⟩
            · exact ⟨distinct, rooted, rfl, rfl⟩
            · simp only [described]
              rfl

/-- An arena that was linked from hosts shows them, with some root. -/
theorem shows_of_linked {arena : Arena} (linked : ofHosts hosts = .ok arena) :
    ∃ root, arena.Shows hosts root := by
  rcases of_hosts_shows hosts with ⟨failure, refused, _⟩ | ⟨shown, root, same, shows, _⟩
  · cases refused.symm.trans linked
  · cases same.symm.trans linked
    exact ⟨root, shows⟩

namespace Shows

variable {arena : Arena} {root : String} (shows : arena.Shows hosts root)

/-- The hosts of the tree that is described are those of the list, by their names. -/
theorem hosts_described : (described hosts root).hosts = hosts.map (·.name) := by
  simp [described, RoutingTree.hosts, RoutingTree.linksOf]

include shows

/-- The server of a host in the tree that is described is the one that the host names. -/
theorem parent_described {host : Host} (member : host ∈ hosts) :
    (described hosts root).parent? host.name = host.connectTo :=
  RoutingTree.parent_of_host rfl (hosts_described ▸ shows.distinct) member

/-- The root is a host that connects to nobody, and it is on the list. -/
theorem root_listed : root ∈ hosts.map (·.name) ∧ (described hosts root).parent? root = none := by
  have alone := ((RoutingTree.root_found_iff hosts hosts none _).mp shows.rooted).2
  have selected : root ∈ (hosts.filter Host.isRoot).map (·.name) := by
    rw [show (hosts.filter Host.isRoot).map (·.name) = [root] from alone]
    exact List.mem_singleton_self root
  obtain ⟨host, top, rfl⟩ := List.mem_map.mp selected
  obtain ⟨member, free⟩ := List.mem_filter.mp top
  refine ⟨List.mem_map.mpr ⟨host, member, rfl⟩, ?_⟩
  rw [shows.parent_described member]
  simpa [Host.isRoot] using free

/-- Links lead to hosts of the list, as the third pass has checked. -/
theorem up_listed {up : String} (connects : (described hosts root).parent? name = some up) :
    up ∈ hosts.map (·.name) := by
  have listed := hosts_described ▸ RoutingTree.described_of_parent connects
  obtain ⟨host, member, rfl⟩ := List.mem_map.mp listed
  rw [shows.parent_described member] at connects
  have targets := ((RoutingTree.root_found_iff hosts hosts none _).mp shows.rooted).1
  obtain ⟨_, server, found, _⟩ :=
    RoutingTree.target_checked_iff.mp (targets host member up connects)
  have named : server.name = up := by simpa using List.find?_some found
  exact List.mem_map.mpr ⟨server, List.mem_of_find?_eq_some found, named⟩

/-- At the place of a name stands its node, with the places of its server and its clients. -/
theorem node_at (present : name ∈ hosts.map (·.name)) :
    arena.nodes[Arena.place hosts name]? = some
      ⟨name, ((described hosts root).parent? name).map (Arena.place hosts),
        ((described hosts root).children name).map (Arena.place hosts)⟩ := by
  obtain ⟨host, member, rfl⟩ := List.mem_map.mp present
  obtain ⟨index, there, rfl⟩ := List.getElem_of_mem member
  have placed := (place_eq_iff shows.distinct (List.getElem?_eq_getElem there)).mpr rfl
  have clients : (described hosts root).children hosts[index].name =
      RoutingTree.clientsOf hosts hosts[index].name := by
    simp [described, RoutingTree.children, RoutingTree.linksOf, RoutingTree.clientsOf,
      List.filter_map, Function.comp_def]
  rw [placed, shows.nodes, linked, List.getElem?_map, List.getElem?_eq_getElem there,
    Option.map_some, shows.parent_described member, clients, linkedNode, if_pos present]

/-- There are as many nodes as hosts, since every host has its node. -/
theorem size_eq : arena.size = hosts.length := by
  rw [size, shows.nodes, linked, List.length_map]

/-- Each place is that of a name of the list. -/
theorem name_at_place {index : Nat} (inside : index < arena.size) :
    ∃ name ∈ hosts.map (·.name), Arena.place hosts name = index := by
  rw [shows.size_eq] at inside
  have placed := (place_eq_iff shows.distinct (List.getElem?_eq_getElem inside)).mpr rfl
  exact ⟨_, List.mem_map.mpr ⟨_, List.getElem_mem inside, rfl⟩, placed⟩

/-- The place of a name of the list is within the nodes. -/
theorem place_inside (present : name ∈ hosts.map (·.name)) :
    Arena.place hosts name < arena.size :=
  (List.getElem?_eq_some_iff.mp (shows.node_at present)).1

/-- The node at the place of a name has that name. -/
theorem place_named (present : name ∈ hosts.map (·.name)) :
    arena.nameAt (Arena.place hosts name) = name := by
  rw [nameAt, nameIn, shows.node_at present]
  rfl

/-- Two names of the list have two places, so a walk can be told in names. -/
theorem place_injective {other : String} (present : name ∈ hosts.map (·.name))
    (also : other ∈ hosts.map (·.name)) (same : Arena.place hosts name = Arena.place hosts other) :
    name = other := by
  rw [← shows.place_named present, same, shows.place_named also]

/-- Read by name, the links of the arena are those of the list. Places are turned back into the
names that stand there, for each host and for the one it connects to. -/
theorem tree_described : arena.tree = described hosts root := by
  have links : arena.nodes.map (fun node => (⟨node.name, node.parent.map arena.nameAt⟩ : Link)) =
      RoutingTree.linksOf hosts := by
    rw [shows.nodes, linked, List.map_map, RoutingTree.linksOf]
    refine List.map_congr_left fun host member => ?_
    have listed : host.name ∈ hosts.map (·.name) := List.mem_map.mpr ⟨host, member, rfl⟩
    simp only [Function.comp, linkedNode, if_pos listed]
    cases connects : host.connectTo with
    | none => rfl
    | some up =>
      have above := (shows.parent_described member).trans connects
      rw [Option.map_some, Option.map_some, shows.place_named (shows.up_listed above)]
  rw [tree, links, shows.place, shows.place_named shows.root_listed.1, described]

end Shows

end RelayTree.Arena
