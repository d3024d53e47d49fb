import Mathlib.Data.List.Chain
import Mathlib.Logic.Relation
import RelayTree.Proofs.Tree.Waypoints

/-!
# Ancestry

Who is above whom, and how deep a host lies, said from single connections and without the
functions that climb them. In a sound tree the two agree: the chain of a host lists exactly the
hosts at or above it, and is one longer than the host is deep. No host is above its own server.

Two hosts are linked if one of them connects to the other. The hosts at or below a host are cut off
from all others by its server: of two linked hosts other than that server both lie there or none.
-/

namespace RelayTree.RoutingTree

/-- One host connects to the other, as its link says. All other relations between hosts are made of
this one, by putting connections together. -/
def ConnectsTo (tree : RoutingTree) (host server : String) : Prop :=
  tree.parent? host = some server

/-- One host is the other, or the connections from the other lead to it. There may be any number of
connections in between, none included. -/
def AtOrAbove (tree : RoutingTree) (top host : String) : Prop :=
  Relation.ReflTransGen tree.ConnectsTo host top

/-- The connections from one host lead to the other, which is not the same. In a sound tree it
cannot be the same, as no connections lead back to where they began. -/
def Below (tree : RoutingTree) (host top : String) : Prop :=
  Relation.TransGen tree.ConnectsTo host top

/-- How many connections lead from a host up to one that connects to nobody. -/
inductive Depth (tree : RoutingTree) : String → Nat → Prop where
  | top {host : String} (free : tree.parent? host = none) : Depth tree host 0
  | under {host server : String} {depth : Nat} (connects : tree.ConnectsTo host server)
      (rest : Depth tree server depth) : Depth tree host (depth + 1)

/-- Two hosts with a connection between them, whichever of the two has made it. -/
def Linked (tree : RoutingTree) (first second : String) : Prop :=
  tree.ConnectsTo first second ∨ tree.ConnectsTo second first

variable {tree : RoutingTree} {host server top : String}

/-- A host connects to one server at most, as there is one link under its name that counts. -/
theorem connects_unique {other : String} (connects : tree.ConnectsTo host server)
    (also : tree.ConnectsTo host other) : server = other :=
  Option.some.inj (connects.symm.trans also)

/-- A host has one depth at most, by induction on the way that one of the two was counted. -/
theorem depth_unique {depth other : Nat} (deep : tree.Depth host depth)
    (also : tree.Depth host other) : depth = other := by
  induction deep generalizing other with
  | top free =>
    cases also with
    | top _ => rfl
    | under connects _ => cases free.symm.trans connects
  | under connects _ inductionHypothesis =>
    cases also with
    | top free => cases free.symm.trans connects
    | under otherwise rest =>
      cases connects_unique connects otherwise
      rw [inductionHypothesis rest]

/-- The members of a lineage connect to one another in order, each to the one that follows. -/
theorem lineage_connected {chain : List String} (lineage : tree.Lineage host chain) :
    chain.IsChain tree.ConnectsTo := by
  induction lineage with
  | top free => exact .singleton _
  | above connects rest inductionHypothesis =>
    obtain ⟨_, same⟩ := lineage_head rest
    rw [same] at inductionHypothesis ⊢
    exact .cons_cons connects inductionHypothesis

/-- A lineage has a member for each connection on the way up, and the host itself. -/
theorem lineage_depth {chain : List String} (lineage : tree.Lineage host chain) :
    ∃ depth, tree.Depth host depth ∧ chain.length = depth + 1 := by
  induction lineage with
  | top free => exact ⟨0, .top free, rfl⟩
  | above connects _ inductionHypothesis =>
    obtain ⟨depth, deep, length⟩ := inductionHypothesis
    exact ⟨depth + 1, .under connects deep, congrArg (· + 1) length⟩

/-- The way up starts with the server: whatever is above a host is at or above its server. -/
theorem above_server (connects : tree.ConnectsTo host server) (above : tree.AtOrAbove top host)
    (other : top ≠ host) : tree.AtOrAbove top server := by
  rcases Relation.ReflTransGen.cases_head above with same | ⟨next, step, rest⟩
  · exact absurd same.symm other
  · exact connects_unique connects step ▸ rest

/-- A host that is above another one and not the same is above it. -/
theorem below_iff : tree.Below host top ↔
    ∃ server, tree.ConnectsTo host server ∧ tree.AtOrAbove top server :=
  Relation.TransGen.head'_iff

/-- Of two linked hosts both lie at or below a host, or none of them does, as long as neither is
that host's server. -/
theorem linked_alike {gate first second : String} (connects : tree.ConnectsTo gate server)
    (linked : tree.Linked first second) (apart : first ≠ server) (also : second ≠ server) :
    tree.AtOrAbove gate first ↔ tree.AtOrAbove gate second := by
  have alike {lower upper : String} (step : tree.ConnectsTo lower upper) (other : upper ≠ server) :
      tree.AtOrAbove gate lower ↔ tree.AtOrAbove gate upper := by
    constructor
    · intro above
      refine above_server step above ?_
      rintro rfl
      exact other (connects_unique step connects)
    · exact fun above => .head step above
  rcases linked with up | down
  · exact alike up also
  · exact (alike down apart).symm

/-- So a walk from host to host that avoids the server of a host stays below that host, or out of
its reach. -/
theorem walk_alike {gate first : String} {rest : List String}
    (connects : tree.ConnectsTo gate server) (linked : (first :: rest).IsChain tree.Linked)
    (avoids : server ∉ first :: rest) :
    ∀ host ∈ first :: rest, tree.AtOrAbove gate first ↔ tree.AtOrAbove gate host := by
  induction rest generalizing first with
  | nil =>
    intro host member
    rw [List.mem_singleton.mp member]
  | cons second rest inductionHypothesis =>
    obtain ⟨step, further⟩ := List.isChain_cons_cons.mp linked
    rw [List.mem_cons, not_or] at avoids
    have next : second ≠ server := fun same => avoids.2 (same ▸ List.mem_cons_self)
    intro host member
    rcases List.mem_cons.mp member with rfl | later
    · rfl
    · exact (linked_alike connects step (Ne.symm avoids.1) next).trans
        (inductionHypothesis further avoids.2 host later)

/-! ## In a sound tree -/

variable (sound : tree.Sound)

include sound

/-- The chain of a host holds what is at or above it, and nothing else. One direction follows the
lineage of the host, the other the single connections, each by its own induction. -/
theorem mem_chain_iff (present : host ∈ tree.hosts) :
    top ∈ tree.ancestorChain host ↔ tree.AtOrAbove top host := by
  constructor
  · intro member
    have lineage := chain_lineage sound present
    generalize tree.ancestorChain host = chain at lineage member
    induction lineage with
    | top free => exact List.mem_singleton.mp member ▸ .refl
    | above connects _ inductionHypothesis =>
      rcases List.mem_cons.mp member with rfl | further
      · exact .refl
      · exact .head connects (inductionHypothesis (sound.closed connects) further)
  · intro above
    induction above using Relation.ReflTransGen.head_induction_on with
    | refl => exact self_mem_chain sound present
    | head connects _ inductionHypothesis =>
      rw [chain_of_parent sound connects]
      exact List.mem_cons_of_mem _ (inductionHypothesis (sound.closed connects))

/-- No host is above its own server, as it would occur twice on its chain otherwise. -/
theorem not_above_server (connects : tree.ConnectsTo host server) :
    ¬ tree.AtOrAbove host server := by
  intro above
  have lineage := chain_lineage sound (described_of_parent connects)
  rw [chain_of_parent sound connects] at lineage
  have once := (List.nodup_cons.mp (lineage_nodup lineage)).1
  exact once ((mem_chain_iff sound (sound.closed connects)).mpr above)

/-- What is below a host is another host, and has that one above it. A host that is below itself
would be on a circle of connections, which a sound tree does not have. -/
theorem below_iff_apart : tree.Below host top ↔ host ≠ top ∧ tree.AtOrAbove top host := by
  constructor
  · intro lower
    obtain ⟨server, connects, above⟩ := below_iff.mp lower
    refine ⟨?_, .head connects above⟩
    rintro rfl
    exact not_above_server sound connects above
  · rintro ⟨apart, above⟩
    rcases Relation.ReflTransGen.cases_head above with same | ⟨server, connects, rest⟩
    · exact absurd same apart
    · exact below_iff.mpr ⟨server, connects, rest⟩

/-- Every host has a depth, and its chain tells it, being one longer. -/
theorem chain_depth (present : host ∈ tree.hosts) :
    ∃ depth, tree.Depth host depth ∧ (tree.ancestorChain host).length = depth + 1 :=
  lineage_depth (chain_lineage sound present)

end RelayTree.RoutingTree
