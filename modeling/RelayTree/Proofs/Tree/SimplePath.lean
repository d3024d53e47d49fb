import Mathlib.Data.List.Nodup
import RelayTree.Proofs.Tree.Ancestry
import RelayTree.Proofs.Tree.WellFormed

/-!
# Routes are simple paths

In a tree there is just one way from a host to another on which no host occurs twice, and that is
the route between them. Everything else about the shape of a route follows from the host at which
the chains of its ends meet: it climbs to that host and goes down from there, it is as long as both
ends are deeper than that host, and turned around it is the route back.

That there is no other way rests on the walks of `Ancestry`. A first step in another direction than
that of the route would lead to a part of the tree which only the source connects to the rest, and
a way that has left the source does not come back there.
-/

namespace RelayTree.RoutingTree

/-- A way over links from one host to the other, which itself is left out, on which no host occurs
twice. -/
structure SimplePath (tree : RoutingTree) (source target : String) (path : List String) :
    Prop where
  linked : (source :: path).IsChain tree.Linked
  once : (source :: path).Nodup
  ends : (source :: path).getLast? = some target

/-- Of the hosts at or above both of two hosts this one is the deepest. The depth is given with it,
since the length of a route is found from it. -/
structure Deepest (tree : RoutingTree) (first second meeting : String) (depth : Nat) : Prop where
  above_first : tree.AtOrAbove meeting first
  above_second : tree.AtOrAbove meeting second
  deep : tree.Depth meeting depth
  deepest : ∀ other otherDepth, tree.AtOrAbove other first → tree.AtOrAbove other second →
    tree.Depth other otherDepth → otherDepth ≤ depth

/-- The items of a list from a place on and before another one. There are none to be had if the
places are not in order, or not in the list. -/
def slice? (items : List String) (start stop : Nat) : Option (List String) :=
  if start ≤ stop ∧ stop ≤ items.length then some ((items.take stop).drop start) else none

/-- The path consists of slices of two chains, up to the place where the first one meets the
second, and from there on back to the beginning of the second. -/
structure Spliced (sourceChain targetChain path : List String) (climb descent : Nat) : Prop where
  first : sourceChain.findIdx? (· ∈ targetChain) = some climb
  place : ∃ meeting, sourceChain[climb]? = some meeting ∧
    targetChain.findIdx? (· = meeting) = some descent
  parts : ∃ upward downward, slice? sourceChain 1 (climb + 1) = some upward ∧
    slice? targetChain 0 descent = some downward ∧ path = upward ++ downward.reverse

/-- What a route between two different hosts is like: how it bends, how long it is, that it is the
only simple path, and how it looks from the other end. -/
structure Joins (tree : RoutingTree) (source target : String) (route : Route) : Prop where
  simple : tree.SimplePath source target route.path
  only : ∀ path, tree.SimplePath source target path → path = route.path
  arched : ∃ climb top descent, source :: route.path = climb ++ top :: descent ∧
    (climb ++ [top]).IsChain tree.ConnectsTo ∧
    (top :: descent).IsChain (flip tree.ConnectsTo)
  counted : ∃ meeting depth sourceDepth targetDepth, tree.Deepest source target meeting depth ∧
    tree.Depth source sourceDepth ∧ tree.Depth target targetDepth ∧
    route.hops + 2 * depth = sourceDepth + targetDepth
  turned : ∃ back, tree.routeBetween target source = .ok back ∧
    source :: route.path = (target :: back.path).reverse
  down_iff : route.direction = .down ↔ tree.Below target source
  up_iff : route.direction = .up ↔ ¬ tree.Below target source
  spliced : ∃ climb descent, Spliced (tree.ancestorChain source) (tree.ancestorChain target)
    route.path climb descent

variable {tree : RoutingTree} {source target meeting : String} {climb descent path : List String}

/-! ## Lists in two parts -/

/-- The first member with a property stands behind those that do not have it. -/
theorem find_idx_append (property : String → Bool) {before after : List String} {item : String}
    (early : ∀ member ∈ before, property member = false) (here : property item = true) :
    (before ++ item :: after).findIdx? property = some before.length := by
  have none : before.findIdx? property = none := List.findIdx?_eq_none_iff.mpr early
  simp [List.findIdx?_append, none, List.findIdx?_cons, here]

/-- A list can be cut at its own length, and anywhere before, which gives what is behind the cut. -/
theorem slice_append (start : Nat) {before after : List String} (ordered : start ≤ before.length) :
    slice? (before ++ after) start before.length = some (before.drop start) := by
  have within : start ≤ before.length ∧ before.length ≤ (before ++ after).length :=
    ⟨ordered, by simp⟩
  rw [slice?, if_pos within, List.take_left]

section

variable (sound : tree.Sound) (present : source ∈ tree.hosts) (other : target ∈ tree.hosts)

include sound present other

/-! ## Over the meeting point -/

/-- The host where two chains meet is at or above both hosts, as it is on both chains. -/
theorem meeting_above (meets : tree.Meeting source target meeting climb descent) :
    tree.AtOrAbove meeting source ∧ tree.AtOrAbove meeting target := by
  obtain ⟨rest, top⟩ := chain_cons sound meets.described
  rw [← mem_chain_iff sound present, ← mem_chain_iff sound other, meets.climbs, meets.descends, top]
  simp

/-- No host is both on the climb and on the descent, or one of them and the meeting point. -/
theorem meeting_once (meets : tree.Meeting source target meeting climb descent) :
    (climb ++ meeting :: descent.reverse).Nodup := by
  obtain ⟨rest, top⟩ := chain_cons sound meets.described
  have climbs := lineage_nodup (chain_lineage sound present)
  have descends := lineage_nodup (chain_lineage sound other)
  rw [meets.climbs, top, List.nodup_append] at climbs
  rw [meets.descends, top, List.nodup_append] at descends
  have shared (host : String) (late : host ∈ meeting :: descent.reverse) :
      host ∈ tree.ancestorChain target := by
    rw [meets.descends, top]
    simp only [List.mem_cons, List.mem_reverse, List.mem_append] at late ⊢
    tauto
  rw [List.nodup_append, List.nodup_cons]
  refine ⟨climbs.1, ⟨by simpa using meets.fresh, List.nodup_reverse.mpr descends.1⟩, ?_⟩
  rintro host early _ late rfl
  exact meets.first host early (shared host late)

/-- From the other end the chains meet in the same host, so a route can be turned around. -/
theorem meeting_symm (meets : tree.Meeting source target meeting climb descent) :
    tree.Meeting target source meeting descent climb where
  described := meets.described
  climbs := meets.descends
  descends := meets.climbs
  first := by
    obtain ⟨rest, top⟩ := chain_cons sound meets.described
    have descends := lineage_nodup (chain_lineage sound other)
    rw [meets.descends, List.nodup_append] at descends
    have once := meeting_once sound present other meets
    rw [List.nodup_append] at once
    intro host early
    rw [meets.climbs, List.mem_append, not_or]
    constructor
    · intro upward
      exact once.2.2 host upward host (by simp [early]) rfl
    · intro above
      exact descends.2.2 host early host above rfl
  fresh := by
    have once := meeting_once sound present other meets
    rw [List.nodup_append] at once
    exact fun early => once.2.2 meeting early meeting List.mem_cons_self rfl

omit other in
/-- The source with the path over the meeting point is an arch: up to that host, and down from
there. -/
theorem arch_of_meeting (meets : tree.Meeting source target meeting climb descent) :
    source :: ((climb ++ [meeting]).tail ++ descent.reverse) =
      climb ++ meeting :: descent.reverse := by
  obtain ⟨rest, own⟩ := chain_cons sound present
  obtain ⟨others, top⟩ := chain_cons sound meets.described
  have climbs := meets.climbs
  rw [own, top] at climbs
  cases climb with
  | nil =>
    rw [List.nil_append] at climbs
    simp [(List.cons.inj climbs).1]
  | cons first climb =>
    rw [List.cons_append] at climbs
    simp [(List.cons.inj climbs).1]

/-- The arch over the meeting point ends at the target, which may be the meeting point itself. -/
theorem arch_ends (meets : tree.Meeting source target meeting climb descent) :
    (climb ++ meeting :: descent.reverse).getLast? = some target := by
  have turned := arch_of_meeting sound other (meeting_symm sound present other meets)
  have reversed : climb ++ meeting :: descent.reverse =
      (descent ++ meeting :: climb.reverse).reverse := by simp
  rw [reversed, List.getLast?_reverse, ← turned]
  rfl

/-- On the climb each host connects to the next, and on the descent the next to each. Both are
beginnings of chains of ancestors, and the second one is read from its end. -/
theorem arch_connected (meets : tree.Meeting source target meeting climb descent) :
    (climb ++ [meeting]).IsChain tree.ConnectsTo ∧
      (meeting :: descent.reverse).IsChain (flip tree.ConnectsTo) := by
  obtain ⟨rest, top⟩ := chain_cons sound meets.described
  have ascent {host : String} {before : List String} (known : host ∈ tree.hosts)
      (split : tree.ancestorChain host = before ++ tree.ancestorChain meeting) :
      (before ++ [meeting]).IsChain tree.ConnectsTo := by
    have connected := lineage_connected (chain_lineage sound known)
    rw [split, top, ← List.singleton_append, ← List.append_assoc] at connected
    exact connected.left_of_append
  refine ⟨ascent present meets.climbs, ?_⟩
  have reversed : meeting :: descent.reverse = (descent ++ [meeting]).reverse := by simp
  rw [reversed, List.isChain_reverse]
  exact ascent other meets.descends

/-- The path over the meeting point is simple. It goes up by one chain and down by the other, and
the two have only that host in common. -/
theorem meeting_simple (meets : tree.Meeting source target meeting climb descent) :
    tree.SimplePath source target ((climb ++ [meeting]).tail ++ descent.reverse) := by
  obtain ⟨up, down⟩ := arch_connected sound present other meets
  have arch := arch_of_meeting sound present meets
  refine ⟨?_, ?_, ?_⟩
  · rw [arch, List.isChain_split]
    exact ⟨up.imp fun _ _ => .inl, down.imp fun _ _ => .inr⟩
  · rw [arch]
    exact meeting_once sound present other meets
  · rw [arch]
    exact arch_ends sound present other meets

/-- The two chains meet in the deepest host that they share, and the path is as long as the ends
are deeper than that one. -/
theorem meeting_deepest (meets : tree.Meeting source target meeting climb descent) :
    ∃ depth, tree.Deepest source target meeting depth ∧
      tree.Depth source (climb.length + depth) ∧ tree.Depth target (descent.length + depth) := by
  obtain ⟨depth, deep, length⟩ := chain_depth sound meets.described
  obtain ⟨high, sourceDeep, sourceLength⟩ := chain_depth sound present
  obtain ⟨low, targetDeep, targetLength⟩ := chain_depth sound other
  rw [meets.climbs, List.length_append, length] at sourceLength
  rw [meets.descends, List.length_append, length] at targetLength
  obtain ⟨above, also⟩ := meeting_above sound present other meets
  obtain rfl : high = climb.length + depth := by omega
  obtain rfl : low = descent.length + depth := by omega
  refine ⟨depth, ⟨above, also, deep, ?_⟩, sourceDeep, targetDeep⟩
  intro host hostDepth first second hostDeep
  rw [← mem_chain_iff sound present, meets.climbs] at first
  rw [← mem_chain_iff sound other] at second
  -- Before the meeting point there is nothing that both chains have.
  have onward : host ∈ tree.ancestorChain meeting := by
    rcases List.mem_append.mp first with early | late
    · exact absurd second (meets.first host early)
    · exact late
  obtain ⟨before, split, _⟩ := chain_split sound meets.described onward
  have described := chain_described sound meets.described onward
  obtain ⟨known, same, hostLength⟩ := chain_depth sound described
  rw [split, List.length_append, hostLength, depth_unique same hostDeep] at length
  omega

/-- The chains meet in the source itself exactly if the target lies below. Then there is nothing to
climb, and the route goes down from its first step on. -/
theorem meeting_source_iff (apart : source ≠ target)
    (meets : tree.Meeting source target meeting climb descent) :
    meeting = source ↔ tree.Below target source := by
  rw [below_iff_apart sound]
  constructor
  · rintro rfl
    exact ⟨apart.symm, (meeting_above sound present other meets).2⟩
  · rintro ⟨_, above⟩
    rw [← mem_chain_iff sound other] at above
    have arch := arch_of_meeting sound present meets
    cases climb with
    | nil => exact (List.cons.inj arch).1.symm
    | cons first climb =>
      obtain rfl : source = first := (List.cons.inj arch).1
      exact absurd above (meets.first source List.mem_cons_self)

/-- The path over the meeting point can be cut out of the chains by position. The positions are
those of the meeting point in the two chains, found by searching from the front. -/
theorem meeting_spliced (meets : tree.Meeting source target meeting climb descent) :
    Spliced (tree.ancestorChain source) (tree.ancestorChain target)
      ((climb ++ [meeting]).tail ++ descent.reverse) climb.length descent.length := by
  obtain ⟨rest, top⟩ := chain_cons sound meets.described
  have shared : meeting ∈ tree.ancestorChain target :=
    (mem_chain_iff sound other).mpr (meeting_above sound present other meets).2
  have first : ∀ member ∈ climb, decide (member ∈ tree.ancestorChain target) = false :=
    fun member early => decide_eq_false (meets.first member early)
  have missed : ∀ member ∈ descent, decide (member = meeting) = false :=
    fun member early => decide_eq_false fun same => meets.fresh (same ▸ early)
  have climbs : tree.ancestorChain source = climb ++ meeting :: rest := top ▸ meets.climbs
  have descends : tree.ancestorChain target = descent ++ meeting :: rest := top ▸ meets.descends
  refine ⟨?_, ⟨meeting, ?_, ?_⟩, ⟨(climb ++ [meeting]).tail, descent, ?_, ?_, rfl⟩⟩
  · rw [climbs]
    exact find_idx_append _ first (decide_eq_true shared)
  · simp [climbs]
  · rw [descends]
    exact find_idx_append _ missed (decide_eq_true rfl)
  · have cut := @slice_append 1 (climb ++ [meeting]) rest (by simp)
    rw [List.append_assoc, List.singleton_append, List.length_append, List.drop_one] at cut
    rw [climbs]
    exact cut
  · rw [descends]
    exact slice_append 0 (Nat.zero_le _)

/-! ## No other way -/

omit present in
/-- The first step of a simple path is the next hop of the route. If it were another one, the rest
of the path would have to come back over the source, which it has left for good. -/
theorem simple_path_onward {next hop : String} {rest : List String} {direction : Direction}
    (simple : tree.SimplePath source target (next :: rest))
    (onward : tree.Onward source target direction hop) : next = hop := by
  obtain ⟨step, further⟩ := List.isChain_cons_cons.mp simple.linked
  have left : source ∉ next :: rest := (List.nodup_cons.mp simple.once).1
  have arrives : target ∈ next :: rest := by
    have ends := simple.ends
    rw [List.getLast?_cons_cons] at ends
    exact List.mem_of_getLast? ends
  by_contra wrong
  cases onward with
  | up aside connects =>
    -- The step went down, to a part of the tree where the target is not.
    have down : tree.ConnectsTo next source := by
      rcases step with up | down
      · exact absurd (connects_unique up connects) wrong
      · exact down
    have inside := (walk_alike down further left target arrives).mp .refl
    exact aside ((mem_chain_iff sound other).mpr (inside.tail down))
  | down below connects =>
    -- The target is below the client, and the step led elsewhere.
    have above : tree.AtOrAbove hop target := (mem_chain_iff sound other).mp below
    have inside := (walk_alike connects further left target arrives).mpr above
    have cycle : tree.AtOrAbove hop source := by
      rcases step with up | down
      · exact .head up inside
      · exact above_server down inside (Ne.symm wrong)
    exact not_above_server sound connects cycle

omit present other in
/-- A linked host is a host of the tree, whichever end of the link it is. -/
theorem linked_described {first second : String} (linked : tree.Linked first second) :
    second ∈ tree.hosts := by
  rcases linked with up | down
  · exact sound.closed up
  · exact described_of_parent down

/-- The waypoints are the only simple path, by induction on the path: a first step to any other host
leads into a part of the tree that cannot be left again. -/
theorem simple_path_unique (simple : tree.SimplePath source target path) :
    path = tree.waypoints source target := by
  induction path generalizing source with
  | nil =>
    obtain rfl : source = target := by simpa using simple.ends
    rw [waypoints_self]
  | cons next rest inductionHypothesis =>
    obtain ⟨step, further⟩ := List.isChain_cons_cons.mp simple.linked
    obtain ⟨left, once⟩ := List.nodup_cons.mp simple.once
    have ends := simple.ends
    rw [List.getLast?_cons_cons] at ends
    have apart : source ≠ target := by
      rintro rfl
      exact left (List.mem_of_getLast? ends)
    obtain ⟨direction, hop, onward⟩ := onward_exists sound present other apart
    obtain rfl := simple_path_onward sound other simple onward
    rw [waypoints_of_onward sound present other apart onward,
      ← inductionHypothesis (linked_described sound step) ⟨further, once, ends⟩]

/-- The route over a meeting point joins its ends, which puts all the parts together. Every part of
`Joins` is read off the same meeting point, so no two of them are compared with each other. -/
theorem route_joins (apart : source ≠ target) :
    ∃ route, tree.routeBetween source target = .ok route ∧ tree.Joins source target route := by
  obtain ⟨meeting, climb, descent, meets⟩ := meeting_exists sound present other
  have found := route_of_meeting sound present other apart meets
  have turned := meeting_symm sound present other meets
  have back := route_of_meeting sound other present apart.symm turned
  have simple := meeting_simple sound present other meets
  have waypoints := waypoints_of_meeting sound present other meets
  have arch := arch_of_meeting sound present meets
  obtain ⟨up, down⟩ := arch_connected sound present other meets
  obtain ⟨depth, deepest, high, low⟩ := meeting_deepest sound present other meets
  have below := meeting_source_iff sound present other apart meets
  refine ⟨_, found, ?_⟩
  constructor
  case simple => exact simple
  case only => exact fun path way => (simple_path_unique sound present other way).trans waypoints
  case arched => exact ⟨climb, meeting, descent.reverse, arch, up, down⟩
  case counted =>
    refine ⟨meeting, depth, _, _, deepest, high, low, ?_⟩
    simp only [Route.hops, List.length_append, List.length_tail, List.length_reverse,
      List.length_singleton]
    omega
  case turned =>
    refine ⟨_, back, ?_⟩
    rw [arch, arch_of_meeting sound other turned]
    simp
  case down_iff =>
    rw [← below]
    simp
  case up_iff =>
    rw [← below]
    simp
  case spliced => exact ⟨_, _, meeting_spliced sound present other meets⟩

end

/-- Between any two hosts of an accepted list there is a route. That of a host to itself is that
host alone, and any other is the one simple path.

Proof: the chains of ancestors of two hosts meet at one host, the deepest one above both. The route
climbs to it and goes down from there, and all that `Joins` says of its length, its direction and
the way back is read off this shape. That a simple path takes no other way is an induction on the
path: a first step that is not the next hop of the route leads into a part of the tree that is left
only over the source. -/
theorem route_is_the_simple_path {hosts : List Host} (accepted : ofHosts hosts = .ok tree)
    (described : source ∈ hosts.map (·.name)) (other : target ∈ hosts.map (·.name)) :
    ∃ route, tree.routeBetween source target = .ok route ∧
      (source = target → route = ⟨[target], .here⟩) ∧
      (source ≠ target → tree.Joins source target route) := by
  have listed := accepted_hosts accepted
  have present : source ∈ tree.hosts := listed ▸ described
  have known : target ∈ tree.hosts := listed ▸ other
  by_cases same : source = target
  · subst same
    refine ⟨⟨[source], .here⟩, ?_, fun _ => rfl, fun apart => absurd rfl apart⟩
    simp [routeBetween, contains, present]
  · obtain ⟨route, found, joins⟩ := route_joins (accepted_sound accepted) present known same
    exact ⟨route, found, fun equal => absurd equal same, fun _ => joins⟩

/-- Sideways from a client to one below another server, over the server that both are below. The
route is computed, and what it has by the theorem is that it is the simple path. -/
theorem quartet_sideways :
    let tree : RoutingTree := ⟨linksOf quartet, "Server1"⟩
    ofHosts quartet = .ok tree ∧ "Client1" ∈ quartet.map (·.name) ∧
      "Client2" ∈ quartet.map (·.name) ∧
      tree.Joins "Client1" "Client2" ⟨["Server1", "Server2", "Client2"], .up⟩ := by
  intro tree
  have accepted : ofHosts quartet = .ok tree := rfl
  have described : "Client1" ∈ quartet.map (·.name) := by decide
  have other : "Client2" ∈ quartet.map (·.name) := by decide
  have way : tree.routeBetween "Client1" "Client2" =
      .ok ⟨["Server1", "Server2", "Client2"], .up⟩ := rfl
  obtain ⟨route, found, _, joins⟩ := route_is_the_simple_path accepted described other
  cases found.symm.trans way
  exact ⟨accepted, described, other, joins (by decide)⟩

end RelayTree.RoutingTree
