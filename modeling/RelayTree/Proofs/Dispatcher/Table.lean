import RelayTree.Dispatcher.Reload
import RelayTree.Proofs.Tree.Acceptance
import RelayTree.Proofs.Tree.Waypoints

/-!
# The table of a tree

A dispatcher never asks for a route before it picks a strategy; it only looks its
table up, which was filled from a walk over the hosts below. The table nevertheless
agrees with the routes: the strategy for another host is downward where the route
starts down, and upward where it starts up.
-/

namespace RelayTree

namespace SortedMap

variable {κ ν : Type} [Ord κ] [Std.TransOrd κ] [Std.LawfulEqOrd κ] [DecidableEq κ]

/-- Inserting computed values for some keys changes the lookups of these keys only. The value
depends on the key alone, so it does not matter how often or when a key is inserted. -/
theorem get?_foldl_insert (keys : List κ) (value : κ → ν) (map : SortedMap κ ν) (key : κ) :
    ((keys.map fun key => (key, value key)).foldl
        (fun map entry => map.insert entry.1 entry.2) map).get? key =
      if key ∈ keys then some (value key) else map.get? key := by
  induction keys generalizing map with
  | nil => simp
  | cons first keys inductionHypothesis =>
    rw [List.map_cons, List.foldl_cons, inductionHypothesis, get?_insert]
    by_cases here : key = first
    · subst here
      simp
    · simp [here]

/-- A map made from computed values has exactly the given keys, each with its value, whatever order
they come in. -/
theorem get?_ofList_map (keys : List κ) (value : κ → ν) (key : κ) :
    (ofList (keys.map fun key => (key, value key))).get? key =
      if key ∈ keys then some (value key) else none :=
  get?_foldl_insert keys value empty key

end SortedMap

/-- The table has an entry for every host of the tree and no other. -/
theorem strategy_table_lookup (tree : RoutingTree) (current : String) (below : List String)
    (host : String) :
    (strategyTable tree current below).get? host =
      if host ∈ tree.hosts then some (classify current below host) else none :=
  SortedMap.get?_ofList_map tree.hosts (classify current below) host

namespace RoutingTree

/-- The strategy that takes a message in a direction. There is one for each. -/
def strategyFor : Direction → Strategy
  | .up => .upward
  | .down => .downward
  | .here => .onHost

variable {tree : RoutingTree}

/-- The strategy for a host takes messages in the direction of the route to it. -/
theorem classify_onward (sound : tree.Sound) {source target hop : String}
    {direction : Direction} (present : source ∈ tree.hosts) (other : target ∈ tree.hosts)
    (apart : source ≠ target) (onward : tree.Onward source target direction hop) :
    classify source (tree.descendants source) target = strategyFor direction := by
  have lower := mem_descendants sound other present
  cases onward with
  | up aside connects =>
    have missing : target ∉ tree.descendants source := fun member => aside (lower.mp member).2
    simp [classify, apart.symm, missing, strategyFor]
  | down below connects =>
    have above : source ∈ tree.ancestorChain target := by
      obtain ⟨before, split, _⟩ := chain_split sound other below
      rw [split, chain_of_parent sound connects]
      simp [self_mem_chain sound present]
    have member : target ∈ tree.descendants source := lower.mpr ⟨apart.symm, above⟩
    simp [classify, apart.symm, member, strategyFor]

/-- The table of an accepted tree agrees with its routes, from every host of it to every other.
Neither of the two is computed from the other. -/
theorem classify_direction (sound : tree.Sound) {source target : String}
    (present : source ∈ tree.hosts) (other : target ∈ tree.hosts) :
    ∃ route, tree.routeBetween source target = .ok route ∧
      classify source (tree.descendants source) target = strategyFor route.direction := by
  by_cases same : source = target
  · subst same
    exact ⟨⟨[source], .here⟩, by simp [routeBetween, contains, present], by
      simp [classify, strategyFor]⟩
  · obtain ⟨direction, hop, onward⟩ := onward_exists sound present other same
    exact ⟨_, route_of_onward sound present other same onward,
      classify_onward sound present other same onward⟩

end RoutingTree

end RelayTree
