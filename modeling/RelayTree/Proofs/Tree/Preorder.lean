import Mathlib.Data.List.Nodup
import RelayTree.Proofs.Tree.Ancestry
import RelayTree.Proofs.Tree.WellFormed

/-!
# Listing and rendering a tree

The hosts below a host are listed in preorder: each directly before those below itself, and the
clients of one server in the order of the description. `Preorder` says so without a walk, and
decides the listing. Two walks are shown to follow it. One descends from host to host, which is how
the tree lists its hosts; the other keeps a stack of what is still to be listed, and needs only as
many rounds as there are items. Every listed host is below the one it was listed for, and no host
is listed twice, because two clients of one server have nobody in common below them.

The rendering has a line for each host of such a listing, indented by its level. That the level is
the number of hosts above the one in the line ties it to the question whether a host lies below
another one, which is answered by climbing and not by listing.
-/

namespace RelayTree

section

variable {α β : Type}

/-- A listing of items, each directly before the listing of its children. Nothing is said of how it
is found. -/
inductive Preorder (children : α → List α) : List α → List α → Prop where
  | nil : Preorder children [] []
  | cons {item : α} {rest lower later : List α} (below : Preorder children (children item) lower)
      (beside : Preorder children rest later) :
      Preorder children (item :: rest) (item :: lower ++ later)

/-- List items from a stack. Each one is replaced by its children, the first of them on top. -/
def unstack (children : α → List α) : Nat → List α → List α
  | 0, _ => []
  | _ + 1, [] => []
  | rounds + 1, item :: stack => item :: unstack children rounds (children item ++ stack)

variable {children : α → List α} {first second listing other : List α}

/-- Listings of items side by side are the one behind the other. -/
theorem preorder_append (left : Preorder children first listing)
    (right : Preorder children second other) :
    Preorder children (first ++ second) (listing ++ other) := by
  induction left with
  | nil => exact right
  | cons below _ _ inductionHypothesis =>
    rw [List.append_assoc]
    exact .cons below inductionHypothesis

/-- The stack holds what is still to be listed. An item on top of it and its children in its place
are listed alike, but for the item itself. -/
theorem unstack_preorder (rounds : Nat) (ordered : Preorder children first listing)
    (enough : listing.length ≤ rounds) : unstack children rounds first = listing := by
  induction rounds generalizing first listing with
  | zero =>
    obtain rfl : listing = [] := List.length_eq_zero_iff.mp (Nat.le_zero.mp enough)
    rfl
  | succ rounds inductionHypothesis =>
    cases ordered with
    | nil => rfl
    | cons below beside =>
      rw [unstack, inductionHypothesis (preorder_append below beside)
        (Nat.le_of_succ_le_succ enough)]
      rfl

/-- A label that can be told from an item goes with it into its listing. -/
theorem preorder_map (label : α → β) {labelled : β → List β}
    (alike : ∀ item, labelled (label item) = (children item).map label)
    (ordered : Preorder children first listing) :
    Preorder labelled (first.map label) (listing.map label) := by
  induction ordered with
  | nil => exact .nil
  | cons _ _ lower later =>
    rw [List.map_append, List.map_cons, List.map_cons]
    exact .cons (alike _ ▸ lower) later

end

namespace RoutingTree

/-- The hosts of a list that connect to a server, in the order of the list. -/
def clientsOf (hosts : List Host) (server : String) : List String :=
  (hosts.filter (·.connectTo = some server)).map (·.name)

/-- A host one level deeper than its server, for each of those that connect to it. -/
def indented (tree : RoutingTree) (entry : Nat × String) : List (Nat × String) :=
  (tree.children entry.2).map (entry.1 + 1, ·)

/-- The number of hosts that a host lies below, which is how far its line is indented. -/
def ancestorCount (tree : RoutingTree) (host : String) : Nat :=
  tree.hosts.countP (tree.liesBelow host ·)

/-- The descendants of a host are the hosts below it, each once, in the preorder of the list. -/
structure Enumerates (tree : RoutingTree) (hosts : List Host) (top : String) : Prop where
  known : tree.descendantsOf top = .ok (tree.descendants top)
  preorder : Preorder (clientsOf hosts) (clientsOf hosts top) (tree.descendants top)
  once : (tree.descendants top).Nodup
  members : ∀ name, name ∈ tree.descendants top ↔ tree.liesBelow name top = true
  climbed : ∀ name, tree.liesBelow name top = true ↔ tree.Below name top
  unstacked : unstack tree.children tree.size (tree.children top) = tree.descendants top

/-- The rendering has a line for each host, in the order of the listing below the root. -/
structure Rendered (tree : RoutingTree) : Prop where
  text : tree.render = String.ofList ((tree.root :: tree.descendants tree.root).flatMap fun host =>
    List.replicate (tree.ancestorCount host) '\t' ++ host.toList ++ ['\n'])
  complete : (tree.root :: tree.descendants tree.root).Perm tree.hosts
  unstacked : unstack tree.indented tree.size [(0, tree.root)] = tree.outline

variable {tree : RoutingTree} {host server top : String}

section

variable (sound : tree.Sound)

include sound

/-! ## The listing -/

/-- A chain has members of the tree only, and none of them twice. -/
theorem chain_bounded (present : host ∈ tree.hosts) :
    (tree.ancestorChain host).length ≤ tree.size := by
  have distinct := lineage_nodup (chain_lineage sound present)
  have bounded := (distinct.subperm fun member => chain_described sound present).length_le
  rwa [hosts, List.length_map] at bounded

/-- The descent is deep enough: with every step down the chain gets longer, and it is never longer
than there are hosts. -/
theorem below_preorder (depth : Nat) (deep : tree.size ≤ depth + (tree.ancestorChain top).length) :
    Preorder tree.children (tree.children top) (tree.below depth top) := by
  induction depth generalizing top with
  | zero =>
    have childless : tree.children top = [] := by
      apply List.eq_nil_iff_forall_not_mem.mpr
      intro child lower
      have connects := (mem_children sound.distinct).mp lower
      have bounded := chain_bounded sound (described_of_parent connects)
      rw [chain_of_parent sound connects, List.length_cons] at bounded
      omega
    rw [childless]
    exact .nil
  | succ depth inductionHypothesis =>
    rw [below]
    have each : ∀ child ∈ tree.children top,
        Preorder tree.children (tree.children child) (tree.below depth child) := by
      intro child lower
      refine inductionHypothesis ?_
      rw [chain_of_parent sound ((mem_children sound.distinct).mp lower), List.length_cons]
      omega
    generalize tree.children top = clients at each
    induction clients with
    | nil => exact .nil
    | cons child clients later =>
      rw [List.flatMap_cons]
      exact .cons (each child List.mem_cons_self)
        (later fun other member => each other (List.mem_cons_of_mem _ member))

/-- The hosts below a host are listed in preorder by the walk from host to host. -/
theorem descendants_preorder (top : String) :
    Preorder tree.children (tree.children top) (tree.descendants top) :=
  below_preorder sound tree.size (Nat.le_add_right _ _)

/-- Two clients of one server with a host at or below both of them are the same: on the way up from
that host one of the two would come after the other, and so after its own server. -/
theorem same_client {client other : String} (connects : tree.ConnectsTo client server)
    (also : tree.ConnectsTo other server) (above : tree.AtOrAbove client host)
    (beside : tree.AtOrAbove other host) : client = other := by
  by_contra apart
  have functional : Relator.RightUnique tree.ConnectsTo := fun _ _ _ => connects_unique
  rcases Relation.ReflTransGen.total_of_right_unique functional above beside with up | up
  · exact not_above_server sound also (above_server connects up (Ne.symm apart))
  · exact not_above_server sound connects (above_server also up apart)

/-- What is found on the way down lies below, however deep the walk was allowed to go. Each step
down is one connection, and the steps are put together from the lower end. -/
theorem below_of_listed {depth : Nat} (listed : host ∈ tree.below depth top) :
    tree.Below host top := by
  induction depth generalizing top with
  | zero => simp [below] at listed
  | succ depth inductionHypothesis =>
    simp only [below, List.mem_flatMap, List.mem_cons] at listed
    obtain ⟨child, member, further⟩ := listed
    have connects : tree.ConnectsTo child top := (mem_children sound.distinct).mp member
    rcases further with rfl | further
    · exact .single connects
    · exact (inductionHypothesis further).tail connects

/-- No host is listed twice, neither below one client nor below two of them. Two clients of the same
server have nobody in common below them, and none of them is below itself. -/
theorem below_nodup (depth : Nat) (top : String) : (tree.below depth top).Nodup := by
  induction depth generalizing top with
  | zero => exact List.nodup_nil
  | succ depth inductionHypothesis =>
    have above {host client : String} (listed : host ∈ client :: tree.below depth client) :
        tree.AtOrAbove client host := by
      rcases List.mem_cons.mp listed with rfl | further
      · exact .refl
      · exact (below_of_listed sound further).to_reflTransGen
    rw [below, List.nodup_flatMap]
    constructor
    · intro client _
      refine List.nodup_cons.mpr ⟨fun again => ?_, inductionHypothesis client⟩
      exact ((below_iff_apart sound).mp (below_of_listed sound again)).1 rfl
    · have distinct := (children_sublist tree top).nodup sound.distinct
      refine distinct.imp_of_mem fun {first second} one other apart host listed also => apart ?_
      exact same_client sound ((mem_children sound.distinct).mp one)
        ((mem_children sound.distinct).mp other) (above listed) (above also)

/-- Climbing tells whether a host lies below another one, whatever the two names are. -/
theorem lies_below_iff_below : tree.liesBelow host top = true ↔ tree.Below host top := by
  rw [liesBelow, decide_eq_true_iff, below_iff]
  cases connects : tree.parent? host with
  | none =>
    have alone : tree.ancestorChain host = [host] :=
      climb_lineage (.top connects) tree.size (by simp)
    simp [alone, ConnectsTo, connects]
  | some up =>
    rw [chain_of_parent sound connects, List.tail_cons, mem_chain_iff sound (sound.closed connects)]
    simp [ConnectsTo, connects]

/-- A walk with a stack lists the same. It is given a number of rounds, and there are never more
hosts than that to be listed. -/
theorem descendants_unstack (top : String) :
    unstack tree.children tree.size (tree.children top) = tree.descendants top := by
  refine unstack_preorder tree.size (descendants_preorder sound top) ?_
  have distinct := below_nodup sound tree.size top
  have bounded := (distinct.subperm fun member => below_described sound tree.size).length_le
  rwa [hosts, List.length_map] at bounded

/-! ## The rendering -/

/-- A host lies below as many hosts as come after it on its chain. -/
theorem ancestor_count (present : host ∈ tree.hosts) :
    tree.ancestorCount host = (tree.ancestorChain host).tail.length := by
  rw [ancestorCount, List.countP_eq_length_filter]
  have distinct := (lineage_nodup (chain_lineage sound present)).tail
  refine ((List.perm_ext_iff_of_nodup (sound.distinct.filter _) distinct).mpr ?_).length_eq
  intro top
  rw [List.mem_filter, liesBelow, decide_eq_true_iff]
  exact and_iff_right_of_imp fun above =>
    chain_described sound present (List.mem_of_mem_tail above)

/-- The outline is the listing with a level for each host, one more than that of its server. -/
theorem outline_listed (depth : Nat) (host : String) :
    tree.outlineFrom depth (tree.ancestorChain host).tail.length host =
      (host :: tree.below depth host).map fun name =>
        ((tree.ancestorChain name).tail.length, name) := by
  induction depth generalizing host with
  | zero => rfl
  | succ depth inductionHypothesis =>
    rw [outlineFrom, below, List.map_cons, List.map_flatMap]
    congr 1
    refine List.flatMap_congr fun child member => ?_
    have connects := (mem_children sound.distinct).mp member
    obtain ⟨rest, own⟩ := chain_cons sound (sound.closed connects)
    rw [← inductionHypothesis, chain_of_parent sound connects, own]
    rfl

/-- Nobody is above the root, so its chain is the root alone. -/
theorem root_chain : tree.ancestorChain tree.root = [tree.root] :=
  climb_lineage (.top sound.root_free) tree.size (by simp)

/-- So the outline is the listing below the root, with the root before it. -/
theorem outline_descendants : tree.outline = (tree.root :: tree.descendants tree.root).map
    fun name => ((tree.ancestorChain name).tail.length, name) := by
  have listed := outline_listed sound tree.size tree.root
  rwa [root_chain sound] at listed

/-- All hosts but the root are below it, each listed once. Both lists are without repetition, so it
is enough that they have the same members. -/
theorem root_descendants : (tree.root :: tree.descendants tree.root).Perm tree.hosts := by
  have apart := mem_descendants sound sound.root_described sound.root_described
  have distinct : (tree.root :: tree.descendants tree.root).Nodup :=
    List.nodup_cons.mpr ⟨fun again => (apart.mp again).1 rfl, below_nodup sound tree.size tree.root⟩
  refine (List.perm_ext_iff_of_nodup distinct sound.distinct).mpr fun name => ?_
  rw [List.mem_cons]
  constructor
  · rintro (rfl | lower)
    · exact sound.root_described
    · exact below_described sound tree.size lower
  · intro present
    rw [mem_descendants sound present sound.root_described]
    by_cases same : name = tree.root
    · exact .inl same
    · exact .inr ⟨same, root_mem_chain sound present⟩

/-- A walk with a stack that keeps the levels gives the same outline. Levels are written beside the
names on the stack, one more than that of the server, and this is the number of hosts above. -/
theorem outline_unstack : unstack tree.indented tree.size [(0, tree.root)] = tree.outline := by
  have whole : Preorder tree.children [tree.root] (tree.root :: tree.descendants tree.root ++ []) :=
    .cons (descendants_preorder sound tree.root) .nil
  have levels : ∀ name, tree.indented ((tree.ancestorChain name).tail.length, name) =
      (tree.children name).map fun child => ((tree.ancestorChain child).tail.length, child) := by
    intro name
    refine List.map_congr_left fun child member => ?_
    have connects := (mem_children sound.distinct).mp member
    obtain ⟨rest, own⟩ := chain_cons sound (sound.closed connects)
    rw [chain_of_parent sound connects, own]
    rfl
  have labelled := preorder_map _ levels whole
  rw [List.append_nil, ← outline_descendants sound, List.map_singleton, root_chain sound]
    at labelled
  refine unstack_preorder tree.size labelled ?_
  rw [outline_descendants sound, List.length_map, (root_descendants sound).length_eq, hosts,
    List.length_map]
  exact Nat.le_refl _

/-- Each line is indented by as many tabs as there are hosts that its host lies below. -/
theorem render_lines : tree.render =
    String.ofList ((tree.root :: tree.descendants tree.root).flatMap fun host =>
      List.replicate (tree.ancestorCount host) '\t' ++ host.toList ++ ['\n']) := by
  rw [render, outline_descendants sound, List.flatMap_map]
  congr 1
  refine List.flatMap_congr fun host member => ?_
  rw [ancestor_count sound ((root_descendants sound).mem_iff.mp member)]
  rfl

end

/-- Listing, climbing and rendering an accepted tree show the same hosts below each other.

Proof: `descendants_preorder` follows the recursion of the listing and shows that it is the preorder
of the children. Two children of a host have nothing in common below them, so no host comes twice.
The walk with a stack follows the same preorder, by induction on how that is built up. For the
rendering each host is labelled by its level, which is the length of its chain and therefore the
number of hosts above it. -/
theorem listed_in_preorder {hosts : List Host} (accepted : ofHosts hosts = .ok tree) :
    (∀ top ∈ hosts.map (·.name), tree.Enumerates hosts top) ∧ tree.Rendered := by
  have sound := accepted_sound accepted
  have clients : tree.children = clientsOf hosts := funext (accepted_mirrors accepted).children
  constructor
  · intro top described
    have present : top ∈ tree.hosts := accepted_hosts accepted ▸ described
    constructor
    case known => exact if_pos (decide_eq_true present)
    case preorder => exact clients ▸ descendants_preorder sound top
    case once => exact below_nodup sound tree.size top
    case members => exact fun _ => (lies_below_iff sound present).symm
    case climbed => exact fun _ => lies_below_iff_below sound
    case unstacked => exact descendants_unstack sound top
  · exact ⟨render_lines sound, root_descendants sound, outline_unstack sound⟩

/-- The middle server of four hosts is listed before the client of the root, and its own client
before that. -/
theorem quartet_listed :
    let tree : RoutingTree := ⟨linksOf quartet, "Server1"⟩
    ofHosts quartet = .ok tree ∧ "Server1" ∈ quartet.map (·.name) ∧
      tree.Enumerates quartet "Server1" ∧ tree.Rendered ∧
      tree.descendants "Server1" = ["Server2", "Client2", "Client1"] ∧
      tree.render = "Server1\n\tServer2\n\t\tClient2\n\tClient1\n" := by
  intro tree
  have accepted : ofHosts quartet = .ok tree := rfl
  have described : "Server1" ∈ quartet.map (·.name) := by decide
  obtain ⟨enumerates, rendered⟩ := listed_in_preorder accepted
  exact ⟨accepted, described, enumerates _ described, rendered, by decide, by decide +kernel⟩

end RoutingTree

end RelayTree
