import RelayTree.Proofs.Tree.Preorder

/-!
# Descriptions in another order

The order of a description is that of its listings. Whether the hosts form a tree does not depend on
it, since what makes a list well-formed speaks of the hosts in it and of how often they occur. The
two trees have the same links, and everything that is found by climbing follows from the links
alone: chains of ancestors, what lies below what, and routes with their failures. Only what is
listed from the top down comes in another order.
-/

namespace RelayTree.RoutingTree

/-! ## Acceptance -/

variable {hosts others : List Host}

/-- A host ascends over the hosts of the list, in whatever order they stand. -/
theorem ascends_reordered (members : ∀ host, host ∈ hosts → host ∈ others) {host : Host}
    (ascends : Ascends hosts host) : Ascends others host := by
  induction ascends with
  | top free => exact .top free
  | up connects member _ inductionHypothesis =>
    exact .up connects (members _ member) inductionHypothesis

/-- A well-formed list stays so in another order, since each part of what makes it so speaks of the
hosts and not of their places. -/
theorem well_formed_reordered (reordered : hosts.Perm others) (formed : WellFormed hosts) :
    WellFormed others where
  inhabited := fun none => formed.inhabited (none ▸ reordered).eq_nil
  named := fun host member => formed.named host (reordered.mem_iff.mpr member)
  distinct := (reordered.map _).nodup_iff.mp formed.distinct
  addressed := (reordered.filterMap _).nodup_iff.mp formed.addressed
  rooted := by
    obtain ⟨root, alone⟩ := formed.rooted
    exact ⟨root, List.perm_singleton.mp (alone ▸ reordered.filter Host.isRoot).symm⟩
  served := by
    intro host member target connects
    obtain ⟨server, present, served⟩ :=
      formed.served host (reordered.mem_iff.mpr member) target connects
    exact ⟨server, reordered.mem_iff.mp present, served⟩
  ascending := fun host member => ascends_reordered (fun _ => reordered.mem_iff.mp)
    (formed.ascending host (reordered.mem_iff.mpr member))

/-- Both orders are accepted, or none is. The failure may be another one, as it names the first
offender. -/
theorem accepted_reordered (reordered : hosts.Perm others) :
    (∃ tree, ofHosts hosts = .ok tree) ↔ ∃ tree, ofHosts others = .ok tree := by
  constructor
  · rintro ⟨tree, accepted⟩
    exact accepted_of_well_formed
      (well_formed_reordered reordered (well_formed_of_accepted accepted))
  · rintro ⟨tree, accepted⟩
    exact accepted_of_well_formed
      (well_formed_reordered reordered.symm (well_formed_of_accepted accepted))

/-! ## The trees -/

/-- Two trees have the same hosts, maybe in another order, with the same links. -/
structure Reordered (first second : RoutingTree) : Prop where
  listed : first.hosts.Perm second.hosts
  root : first.root = second.root
  parents : ∀ name, first.parent? name = second.parent? name

variable {first second : RoutingTree}

/-- A host that is listed with its connection in one of the lists has it in both trees. -/
theorem parents_reordered (reordered : hosts.Perm others) (accepted : ofHosts hosts = .ok first)
    (also : ofHosts others = .ok second) {name up : String}
    (connects : first.parent? name = some up) : second.parent? name = some up := by
  have described := described_of_parent connects
  rw [accepted_hosts accepted] at described
  obtain ⟨host, member, rfl⟩ := List.mem_map.mp described
  rw [accepted_parent accepted member] at connects
  rw [accepted_parent also (reordered.mem_iff.mp member), connects]

/-- The trees of a list in two orders have the same links, and the same root. The root is the one
host without a server in either, and links are compared by look-ups of names. -/
theorem tree_reordered (reordered : hosts.Perm others) (accepted : ofHosts hosts = .ok first)
    (also : ofHosts others = .ok second) : first.Reordered second := by
  have listed : first.hosts.Perm second.hosts := by
    rw [accepted_hosts accepted, accepted_hosts also]
    exact reordered.map _
  have parents : ∀ name, first.parent? name = second.parent? name := by
    intro name
    apply Option.ext
    intro up
    exact ⟨parents_reordered reordered accepted also,
      parents_reordered reordered.symm also accepted⟩
  have sound := accepted_sound accepted
  refine ⟨listed, ?_, parents⟩
  exact (accepted_sound also).sole_root (listed.mem_iff.mp sound.root_described)
    (parents first.root ▸ sound.root_free)

variable (reordered : first.Reordered second)

include reordered

/-- Both trees have the same hosts, listed in two orders. -/
theorem contains_reordered (name : String) : first.contains name = second.contains name := by
  simp only [contains, reordered.listed.mem_iff]

/-- A climb only follows links, so it is the same in both trees. -/
theorem climb_reordered (steps : Nat) (host : String) :
    first.climb steps host = second.climb steps host := by
  induction steps generalizing host with
  | zero => rfl
  | succ steps inductionHypothesis =>
    rw [climb, climb, reordered.parents host]
    cases second.parent? host with
    | none => rfl
    | some up => exact congrArg (host :: ·) (inductionHypothesis up)

/-- Both trees have as many hosts, so both climb as far, and chains of ancestors are the same. -/
theorem chain_reordered (host : String) : first.ancestorChain host = second.ancestorChain host := by
  have sizes : first.size = second.size := by
    simpa [RoutingTree.hosts, size] using reordered.listed.length_eq
  rw [ancestorChain, ancestorChain, sizes]
  exact climb_reordered reordered second.size host

/-- What lies below what is the same, as it is told from the chains. -/
theorem lies_below_reordered (host top : String) :
    first.liesBelow host top = second.liesBelow host top := by
  rw [liesBelow, liesBelow, chain_reordered reordered]

/-- Routes are the same, and so are the failures to find one. -/
theorem route_reordered (source target : String) :
    first.routeBetween source target = second.routeBetween source target := by
  simp only [routeBetween, contains_reordered reordered, chain_reordered reordered]

variable (sound : first.Sound) (also : second.Sound)

include sound also

/-- The same hosts are found on the way down, though perhaps in another order. -/
theorem mem_descendants_reordered {host top : String} (known : top ∈ first.hosts) :
    host ∈ first.descendants top ↔ host ∈ second.descendants top := by
  rw [← lies_below_iff sound known, ← lies_below_iff also (reordered.listed.mem_iff.mp known),
    lies_below_reordered reordered]

/-- They come in another order, each of them once in either. -/
theorem descendants_reordered {top : String} (known : top ∈ first.hosts) :
    (first.descendants top).Perm (second.descendants top) :=
  (List.perm_ext_iff_of_nodup (below_nodup sound _ top) (below_nodup also _ top)).mpr fun _ =>
    mem_descendants_reordered reordered sound also known

end RelayTree.RoutingTree
