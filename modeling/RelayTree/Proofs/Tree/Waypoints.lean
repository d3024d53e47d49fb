import RelayTree.Proofs.Tree.Lineage
import RelayTree.Tree.Route

/-!
# Waypoints

`routeBetween` finds a whole path at once, from the two chains of ancestors. A host
that only passes a message on sees no more than the first host of such a path. This
file connects the two: the path from a host to another one is the next host followed
by the path from there. A message that is handed on host by host therefore visits
the hosts of the path of its source, although every host looks its own route up.

The second half compares two ways to tell that a host lies below another one, by
the chain of the lower host and by a walk over the children of the upper one.
-/

namespace RelayTree.RoutingTree

/-- The hosts still to be visited on the way to the target. Unlike the path of a
route it is empty at the target itself, so that it gets shorter with every hop. -/
def waypoints (tree : RoutingTree) (source target : String) : List String :=
  if source = target then []
  else
    match tree.routeBetween source target with
    | .ok route => route.path
    | .error _ => []

/-- The first host above the source that is also above the target, or is one of the
two, with the parts of both chains before it. -/
structure Meeting (tree : RoutingTree) (source target meeting : String)
    (climb descent : List String) : Prop where
  described : meeting ∈ tree.hosts
  climbs : tree.ancestorChain source = climb ++ tree.ancestorChain meeting
  descends : tree.ancestorChain target = descent ++ tree.ancestorChain meeting
  first : ∀ member ∈ climb, member ∉ tree.ancestorChain target
  fresh : meeting ∉ descent

/-- The host that a message goes to next, and in which direction: down to the client
whose server the source is on the way to a target below it, and up in all other
cases. -/
inductive Onward (tree : RoutingTree) (source target : String) : Direction → String → Prop where
  | up {server : String} (aside : source ∉ tree.ancestorChain target)
      (connects : tree.parent? source = some server) : Onward tree source target .up server
  | down {client : String} (below : client ∈ tree.ancestorChain target)
      (connects : tree.parent? client = some source) : Onward tree source target .down client

variable {tree : RoutingTree}

/-- A host has nothing more to visit on the way to itself, although the route of a host to itself is
not empty. -/
@[simp] theorem waypoints_self (host : String) : tree.waypoints host host = [] := if_pos rfl

/-- Cutting a chain before a member that the first part does not have leaves the
first part. -/
theorem chain_before_append {meeting : String} {before after : List String}
    (fresh : meeting ∉ before) : chainBefore meeting (before ++ meeting :: after) = before := by
  have kept : ∀ member ∈ before, decide (member ≠ meeting) = true := by
    intro member present
    exact decide_eq_true fun same => fresh (same ▸ present)
  rw [chainBefore, List.takeWhile_append_of_pos kept]
  simp

variable (sound : tree.Sound)

include sound

/-! ## Where two chains meet -/

/-- The chain of a host starts with it, so it can be taken apart. -/
theorem chain_cons {host : String} (present : host ∈ tree.hosts) :
    ∃ rest, tree.ancestorChain host = host :: rest := lineage_head (chain_lineage sound present)

/-- The members of a chain are hosts of the tree, as links do not lead out of it. -/
theorem chain_described {host member : String} (present : host ∈ tree.hosts)
    (above : member ∈ tree.ancestorChain host) : member ∈ tree.hosts :=
  lineage_described sound present (chain_lineage sound present) member above

/-- Two hosts meet, at the latest in the root, which is on every chain. They meet in the first host
of the one chain that is also on the other, and from there the chains are the same. -/
theorem meeting_exists {source target : String} (present : source ∈ tree.hosts)
    (other : target ∈ tree.hosts) :
    ∃ meeting climb descent, tree.Meeting source target meeting climb descent := by
  have common : ((tree.ancestorChain source).find?
      (· ∈ tree.ancestorChain target)).isSome := by
    rw [List.find?_isSome]
    exact ⟨tree.root, root_mem_chain sound present, by simpa using root_mem_chain sound other⟩
  obtain ⟨meeting, found⟩ := Option.isSome_iff_exists.mp common
  obtain ⟨shared, climb, after, split, first⟩ := List.find?_eq_some_iff_append.mp found
  have lineage := chain_lineage sound present
  rw [split] at lineage
  have known : meeting ∈ tree.hosts :=
    chain_described sound present (by rw [split]; simp)
  have rest : tree.ancestorChain meeting = meeting :: after :=
    lineage_unique (chain_lineage sound known) (lineage_from lineage)
  obtain ⟨descent, descends, fresh⟩ := chain_split sound other (of_decide_eq_true shared)
  refine ⟨meeting, climb, descent, ⟨known, by rw [split, rest], descends, ?_, fresh⟩⟩
  intro member earlier
  simpa using first member earlier

/-- The route over the meeting point of its ends: up by the chain of the source, and down by that of
the target. -/
theorem route_of_meeting {source target meeting : String} {climb descent : List String}
    (present : source ∈ tree.hosts) (other : target ∈ tree.hosts) (apart : source ≠ target)
    (meets : tree.Meeting source target meeting climb descent) :
    tree.routeBetween source target = .ok ⟨(climb ++ [meeting]).tail ++ descent.reverse,
      if meeting = source then .down else .up⟩ := by
  obtain ⟨rest, own⟩ := chain_cons sound meets.described
  have climbs := meets.climbs
  have descends := meets.descends
  rw [own] at climbs descends
  have shared : meeting ∈ tree.ancestorChain target := by
    rw [descends]
    simp
  have missed : meeting ∉ climb := fun early => meets.first meeting early shared
  have skipped : climb.find? (· ∈ tree.ancestorChain target) = none :=
    List.find?_eq_none.mpr fun member early => by simpa using meets.first member early
  have found : (tree.ancestorChain source).find? (· ∈ tree.ancestorChain target)
      = some meeting := by
    rw [climbs, List.find?_append, skipped]
    simp [shared]
  have upward : chainBefore meeting (tree.ancestorChain source) = climb := by
    rw [climbs, chain_before_append missed]
  have downward : chainBefore meeting (tree.ancestorChain target) = descent := by
    rw [descends, chain_before_append meets.fresh]
  simp [routeBetween, contains, present, other, apart, found, pathVia, upward, downward]

/-- The waypoints over the meeting point, for a host and itself as well: such a host
meets itself, with nothing before it. -/
theorem waypoints_of_meeting {source target meeting : String} {climb descent : List String}
    (present : source ∈ tree.hosts) (other : target ∈ tree.hosts)
    (meets : tree.Meeting source target meeting climb descent) :
    tree.waypoints source target = (climb ++ [meeting]).tail ++ descent.reverse := by
  by_cases same : source = target
  · subst same
    have level : climb = [] := by
      apply List.eq_nil_iff_forall_not_mem.mpr
      intro member early
      refine meets.first member early ?_
      rw [meets.climbs]
      exact List.mem_append_left _ early
    have lengths := congrArg List.length (meets.climbs.symm.trans meets.descends)
    have straight : descent = [] := by
      apply List.length_eq_zero_iff.mp
      simp only [level, List.nil_append, List.length_append] at lengths
      omega
    simp [level, straight]
  · simp [waypoints, same, route_of_meeting sound present other same meets]

/-! ## One hop after the other -/

/-- Between any two hosts there is always a next one to go to, upwards or downwards. It is down if
the source is on the chain of the target, to the host before it there, and otherwise up. -/
theorem onward_exists {source target : String} (present : source ∈ tree.hosts)
    (other : target ∈ tree.hosts) (apart : source ≠ target) :
    ∃ direction hop, tree.Onward source target direction hop := by
  by_cases above : source ∈ tree.ancestorChain target
  · obtain ⟨before, split, _⟩ := chain_split sound other above
    obtain ⟨rest, own⟩ := chain_cons sound present
    rcases List.eq_nil_or_concat before with rfl | ⟨lower, client, rfl⟩
    · obtain ⟨others, top⟩ := chain_cons sound other
      rw [own, top] at split
      exact absurd (List.cons.inj split).1.symm apart
    · have lineage : tree.Lineage target (lower ++ client :: source :: rest) := by
        simpa [split, own] using chain_lineage sound other
      have connects : tree.parent? client = some source := lineage_step lineage
      refine ⟨.down, client, .down ?_ connects⟩
      rw [split]
      simp
  · cases connects : tree.parent? source with
    | none =>
      have atRoot : source = tree.root := sound.sole_root present connects
      exact absurd (atRoot ▸ root_mem_chain sound other) above
    | some server => exact ⟨.up, server, .up above connects⟩

/-- The next host is a host of the tree, so the way goes on from there. -/
theorem onward_described {source target hop : String} {direction : Direction}
    (onward : tree.Onward source target direction hop) : hop ∈ tree.hosts := by
  cases onward with
  | up aside connects => exact sound.closed connects
  | down below connects => exact described_of_parent connects

/-- Only towards another host there is a next one: the source is on its own chain, and
its clients are not. -/
theorem onward_apart {source target hop : String} {direction : Direction}
    (present : source ∈ tree.hosts) (other : target ∈ tree.hosts)
    (onward : tree.Onward source target direction hop) : source ≠ target := by
  rintro rfl
  cases onward with
  | up aside connects => exact aside (self_mem_chain sound present)
  | down below connects =>
    obtain ⟨before, split, _⟩ := chain_split sound other below
    have longer := chain_of_parent sound connects
    have lengths := congrArg List.length split
    simp only [longer, List.length_append, List.length_cons] at lengths
    omega

/-- Going up, the meeting point stays the same and the climb to it gets shorter. So the route from
the next hop is the rest of this route, and the direction is that of the first step. -/
theorem route_up {source target hop : String} (present : source ∈ tree.hosts)
    (other : target ∈ tree.hosts) (apart : source ≠ target)
    (aside : source ∉ tree.ancestorChain target) (connects : tree.parent? source = some hop) :
    tree.routeBetween source target = .ok ⟨hop :: tree.waypoints hop target, .up⟩ := by
  obtain ⟨meeting, climb, descent, meets⟩ := meeting_exists sound present other
  have known := sound.closed connects
  have longer := chain_of_parent sound connects
  obtain ⟨rest, top⟩ := chain_cons sound meets.described
  have climbs := meets.climbs
  have shared : meeting ∈ tree.ancestorChain target := by
    rw [meets.descends, top]
    simp
  have elsewhere : meeting ≠ source := by
    rintro rfl
    exact aside shared
  cases climb with
  | nil =>
    rw [List.nil_append, top, longer] at climbs
    exact absurd (List.cons.inj climbs).1.symm elsewhere
  | cons first climb =>
    rw [longer, List.cons_append] at climbs
    obtain ⟨rfl, shorter⟩ := List.cons.inj climbs
    have meetsNext : tree.Meeting hop target meeting climb descent :=
      ⟨meets.described, shorter, meets.descends,
        fun member early => meets.first member (List.mem_cons_of_mem _ early), meets.fresh⟩
    rw [route_of_meeting sound present other apart meets,
      waypoints_of_meeting sound known other meetsNext]
    obtain ⟨upper, next⟩ := chain_cons sound known
    cases climb with
    | nil =>
      rw [next, top, List.nil_append] at shorter
      simp [elsewhere, (List.cons.inj shorter).1]
    | cons second climb =>
      rw [next, List.cons_append] at shorter
      simp [elsewhere, (List.cons.inj shorter).1]

/-- Going down, the source is the meeting point and the next host takes its place. The descent gets
shorter by this host, which is the first waypoint. -/
theorem route_down {source target hop : String} (present : source ∈ tree.hosts)
    (other : target ∈ tree.hosts) (apart : source ≠ target)
    (below : hop ∈ tree.ancestorChain target) (connects : tree.parent? hop = some source) :
    tree.routeBetween source target = .ok ⟨hop :: tree.waypoints hop target, .down⟩ := by
  obtain ⟨own, chain⟩ := chain_cons sound present
  have known := described_of_parent connects
  have longer := chain_of_parent sound connects
  obtain ⟨descent, split, fresh⟩ := chain_split sound other below
  have distinct := lineage_nodup (chain_lineage sound other)
  rw [split, longer, chain, List.nodup_append] at distinct
  have meetsNext : tree.Meeting hop target hop [] descent :=
    ⟨known, rfl, split, by simp, fresh⟩
  have meets : tree.Meeting source target source [] (descent ++ [hop]) := by
    refine ⟨present, rfl, by simp [split, longer], by simp, fun early => ?_⟩
    rcases List.mem_append.mp early with early | here
    · exact distinct.2.2 source early source (by simp) rfl
    · have twice := distinct.2.1
      simp [List.mem_singleton.mp here] at twice
  rw [route_of_meeting sound present other apart meets,
    waypoints_of_meeting sound known other meetsNext]
  simp

/-- A route is its first hop followed by the waypoints from there, in the direction of that hop. -/
theorem route_of_onward {source target hop : String} {direction : Direction}
    (present : source ∈ tree.hosts) (other : target ∈ tree.hosts) (apart : source ≠ target)
    (onward : tree.Onward source target direction hop) :
    tree.routeBetween source target = .ok ⟨hop :: tree.waypoints hop target, direction⟩ := by
  cases onward with
  | up aside connects => exact route_up sound present other apart aside connects
  | down below connects => exact route_down sound present other apart below connects

/-- The waypoints between different hosts are the next host and the waypoints from there. -/
theorem waypoints_of_onward {source target hop : String} {direction : Direction}
    (present : source ∈ tree.hosts) (other : target ∈ tree.hosts) (apart : source ≠ target)
    (onward : tree.Onward source target direction hop) :
    tree.waypoints source target = hop :: tree.waypoints hop target := by
  simp [waypoints, apart, route_of_onward sound present other apart onward]

/-- All waypoints are hosts of the tree, so each of them can pass the message on. They come from the
chains of the two ends, and a chain has hosts of the tree only. -/
theorem waypoints_described {source target : String} (present : source ∈ tree.hosts)
    (other : target ∈ tree.hosts) : ∀ host ∈ tree.waypoints source target, host ∈ tree.hosts := by
  obtain ⟨meeting, climb, descent, meets⟩ := meeting_exists sound present other
  rw [waypoints_of_meeting sound present other meets]
  intro host member
  obtain ⟨rest, top⟩ := chain_cons sound meets.described
  rcases List.mem_append.mp member with upward | downward
  · apply chain_described sound present
    rw [meets.climbs, top]
    have passed := List.mem_of_mem_tail upward
    simp only [List.mem_append, List.mem_singleton] at passed
    rcases passed with passed | rfl <;> simp [*]
  · apply chain_described sound other
    rw [meets.descends]
    exact List.mem_append_left _ (List.mem_reverse.mp downward)

/-- The next host after one on the way is on the way, so a message that is handed on does not leave
its route. -/
theorem waypoints_next {source host target hop : String} {direction : Direction}
    (present : source ∈ tree.hosts) (other : target ∈ tree.hosts)
    (member : host ∈ source :: tree.waypoints source target)
    (onward : tree.Onward host target direction hop) : hop ∈ tree.waypoints source target := by
  generalize way : tree.waypoints source target = hosts at member ⊢
  induction hosts generalizing source with
  | nil =>
    obtain rfl : host = source := by simpa using member
    have apart := onward_apart sound present other onward
    rw [waypoints_of_onward sound present other apart onward] at way
    cases way
  | cons first rest inductionHypothesis =>
    have apart : source ≠ target := by
      rintro rfl
      simp at way
    rcases List.mem_cons.mp member with rfl | further
    · rw [waypoints_of_onward sound present other apart onward] at way
      exact (List.cons.inj way).1 ▸ List.mem_cons_self
    · obtain ⟨_, next, begins⟩ := onward_exists sound present other apart
      rw [waypoints_of_onward sound present other apart begins] at way
      obtain ⟨rfl, shorter⟩ := List.cons.inj way
      exact List.mem_cons_of_mem _
        (inductionHypothesis (onward_described sound begins) shorter further)

/-! ## Below a host -/

/-- A walk over the children comes to the hosts whose chain goes on to the chain of
the top within as many steps. -/
theorem mem_below {host top : String} (present : host ∈ tree.hosts) (known : top ∈ tree.hosts)
    (depth : Nat) :
    host ∈ tree.below depth top ↔
      ∃ before, tree.ancestorChain host = before ++ tree.ancestorChain top ∧
        before ≠ [] ∧ before.length ≤ depth := by
  induction depth generalizing top with
  | zero =>
    simp only [below, List.not_mem_nil, false_iff]
    rintro ⟨before, _, strict, short⟩
    exact strict (List.length_eq_zero_iff.mp (Nat.le_zero.mp short))
  | succ depth inductionHypothesis =>
    simp only [below, List.mem_flatMap, List.mem_cons, mem_children sound.distinct]
    constructor
    · rintro ⟨child, connects, rfl | further⟩
      · exact ⟨[host], chain_of_parent sound connects, by simp, by simp⟩
      · obtain ⟨before, split, _, short⟩ :=
          (inductionHypothesis (described_of_parent connects)).mp further
        refine ⟨before ++ [child], ?_, by simp, by simpa using short⟩
        rw [split, chain_of_parent sound connects, List.append_assoc]
        rfl
    · rintro ⟨before, split, strict, short⟩
      rcases List.eq_nil_or_concat before with rfl | ⟨lower, child, rfl⟩
      · exact absurd rfl strict
      · obtain ⟨rest, own⟩ := chain_cons sound known
        have lineage : tree.Lineage host (lower ++ child :: top :: rest) := by
          simpa [split, own] using chain_lineage sound present
        have connects : tree.parent? child = some top := lineage_step lineage
        have longer := chain_of_parent sound connects
        refine ⟨child, connects, ?_⟩
        cases lower with
        | nil =>
          obtain ⟨others, first⟩ := chain_cons sound present
          rw [first, List.concat_eq_append, List.nil_append, List.singleton_append] at split
          exact .inl (List.cons.inj split).1
        | cons lowest lower =>
          refine .inr ((inductionHypothesis (described_of_parent connects)).mpr
            ⟨lowest :: lower, ?_, by simp, ?_⟩)
          · rw [split, longer]
            simp
          · simpa using short

/-- The descendants of a host are the other hosts that have it above them. The listing goes down as
many levels as there are hosts, which is enough because a chain has no host twice. -/
theorem mem_descendants {host top : String} (present : host ∈ tree.hosts)
    (known : top ∈ tree.hosts) :
    host ∈ tree.descendants top ↔ host ≠ top ∧ top ∈ tree.ancestorChain host := by
  rw [descendants, mem_below sound present known]
  obtain ⟨rest, own⟩ := chain_cons sound known
  obtain ⟨others, first⟩ := chain_cons sound present
  have distinct := lineage_nodup (chain_lineage sound present)
  constructor
  · rintro ⟨before, split, strict, _⟩
    refine ⟨?_, by rw [split, own]; simp⟩
    rintro rfl
    exact strict (List.self_eq_append_left.mp split)
  · rintro ⟨apart, above⟩
    obtain ⟨before, split, _⟩ := chain_split sound present above
    refine ⟨before, split, ?_, ?_⟩
    · rintro rfl
      rw [first, own, List.nil_append] at split
      exact apart (List.cons.inj split).1
    · have bounded := (distinct.subperm fun member here =>
        chain_described sound present here).length_le
      rw [split, List.length_append, hosts, List.length_map] at bounded
      exact Nat.le_trans (Nat.le_add_right _ _) bounded

/-- The walk over the children stays in the tree, however deep it goes. -/
theorem below_described {host top : String} (depth : Nat) (lower : host ∈ tree.below depth top) :
    host ∈ tree.hosts := by
  induction depth generalizing top with
  | zero => simp [below] at lower
  | succ depth inductionHypothesis =>
    simp only [below, List.mem_flatMap, List.mem_cons] at lower
    obtain ⟨child, connects, rfl | further⟩ := lower
    · exact described_of_parent ((mem_children sound.distinct).mp connects)
    · exact inductionHypothesis further

/-- The chain of the lower host and the walk from the upper one give the same answer, also
about names that no host has. -/
theorem lies_below_iff {host top : String} (known : top ∈ tree.hosts) :
    tree.liesBelow host top = true ↔ host ∈ tree.descendants top := by
  by_cases present : host ∈ tree.hosts
  · obtain ⟨rest, own⟩ := chain_cons sound present
    have distinct := lineage_nodup (chain_lineage sound present)
    rw [own] at distinct
    obtain ⟨once, _⟩ := List.nodup_cons.mp distinct
    rw [mem_descendants sound present known, liesBelow, decide_eq_true_iff, own, List.tail_cons,
      List.mem_cons]
    constructor
    · exact fun above => ⟨fun same => once (same ▸ above), .inr above⟩
    · rintro ⟨apart, same | above⟩
      · exact absurd same.symm apart
      · exact above
  · have alone : tree.ancestorChain host = [host] := by
      have free : tree.parent? host = none :=
        Option.eq_none_iff_forall_not_mem.mpr fun _ connects =>
          present (described_of_parent connects)
      exact climb_lineage (.top free) tree.size (by simp)
    have missing : host ∉ tree.descendants top := fun lower =>
      present (below_described sound _ lower)
    simp [liesBelow, alone, missing]

end RelayTree.RoutingTree
