import Mathlib.Logic.Relation
import RelayTree.Proofs.Tree.Linking

/-!
# The sweep ends

The last pass over the nodes notes which ones it has met, and puts what is below a node on its stack
only when it meets the node for the first time. So it ends on any links, in a circle or not: in
every round a node more is noted, or the stack gets shorter. What it has noted in the end is what
can be reached from the root. A sweep over names, which is given a number of rounds, finds the same
hosts, and therefore both report the same host first, or none.
-/

namespace RelayTree.Arena

variable {arena : Arena} {hosts : List Host} {root : String} {reached final : List Bool}
  {stack : List Nat}

/-- A node hangs directly below another one, as the upper one has it listed. -/
def Leads (arena : Arena) (upper lower : Nat) : Prop :=
  ∃ node, arena.nodes[upper]? = some node ∧ lower ∈ node.children

/-- What a sweep has noted in the end, when some nodes were noted and some were on its stack. -/
structure Swept (arena : Arena) (reached : List Bool) (stack : List Nat) (final : List Bool) :
    Prop where
  length : final.length = arena.size
  keeps : ∀ place : Nat, reached[place]? = some true → final[place]? = some true
  takes : ∀ place ∈ stack, final[place]? = some true
  follows : ∀ {upper lower : Nat}, final[upper]? = some true → arena.Leads upper lower →
    final[lower]? = some true
  origin : ∀ place : Nat, final[place]? = some true →
    reached[place]? = some true ∨ ∃ top ∈ stack, Relation.ReflTransGen arena.Leads top place

/-- Everything below a node that was noted is noted too, or on the stack. When the stack is empty,
what was noted is closed under going down. -/
def Follows (arena : Arena) (reached : List Bool) (stack : List Nat) : Prop :=
  ∀ {upper lower : Nat}, reached[upper]? = some true → arena.Leads upper lower →
    reached[lower]? = some true ∨ lower ∈ stack

/-- A node that is noted already is taken off the stack, and nothing else has to be done for it. -/
theorem swept_again {place : Nat} (noted : reached[place]? = some true)
    (swept : arena.Swept reached stack final) : arena.Swept reached (place :: stack) final where
  length := swept.length
  keeps := swept.keeps
  takes := by
    intro other listed
    rcases List.mem_cons.mp listed with rfl | later
    · exact swept.keeps other noted
    · exact swept.takes other later
  follows := swept.follows
  origin := fun other met => (swept.origin other met).imp id fun ⟨top, listed, leads⟩ =>
    ⟨top, List.mem_cons_of_mem _ listed, leads⟩

/-- A node that is met for the first time is noted, and what is below it comes on the stack. -/
theorem swept_first {place : Nat} {node : TreeNode} (found : arena.nodes[place]? = some node)
    (there : place < reached.length)
    (swept : arena.Swept (reached.set place true) (node.children.reverse ++ stack) final) :
    arena.Swept reached (place :: stack) final where
  length := swept.length
  keeps := by
    intro other noted
    refine swept.keeps other ?_
    rw [List.getElem?_set]
    split
    · simp
    · exact noted
  takes := by
    intro other listed
    rcases List.mem_cons.mp listed with rfl | later
    · exact swept.keeps other (List.getElem?_set_self there)
    · exact swept.takes other (List.mem_append_right _ later)
  follows := swept.follows
  origin := by
    intro other met
    rcases swept.origin other met with noted | ⟨top, listed, leads⟩
    · rw [List.getElem?_set] at noted
      split at noted
      · rename_i same
        exact .inr ⟨place, List.mem_cons_self, same ▸ .refl⟩
      · exact .inl noted
    · rcases List.mem_append.mp listed with lower | later
      · have below : arena.Leads place top := ⟨node, found, List.mem_reverse.mp lower⟩
        exact .inr ⟨place, List.mem_cons_self, .head below leads⟩
      · exact .inr ⟨top, List.mem_cons_of_mem _ later, leads⟩

/-- What is below a node that was noted already needs not wait on the stack twice. -/
theorem follows_again {place : Nat} (noted : reached[place]? = some true)
    (follows : arena.Follows reached (place :: stack)) : arena.Follows reached stack := by
  intro upper lower up leads
  rcases follows up leads with down | listed
  · exact .inl down
  · rcases List.mem_cons.mp listed with rfl | listed
    · exact .inl noted
    · exact .inr listed

/-- What is below a node that is noted comes on the stack, so that nothing below a noted node is
ever forgotten. -/
theorem follows_first {place : Nat} {node : TreeNode} (found : arena.nodes[place]? = some node)
    (there : place < reached.length) (follows : arena.Follows reached (place :: stack)) :
    arena.Follows (reached.set place true) (node.children.reverse ++ stack) := by
  intro upper lower up leads
  by_cases own : place = upper
  · subst own
    obtain ⟨same, at_place, below⟩ := leads
    cases found.symm.trans at_place
    exact .inr (List.mem_append_left _ (List.mem_reverse.mpr below))
  · rw [List.getElem?_set_ne own] at up
    by_cases down : place = lower
    · subst down
      exact .inl (List.getElem?_set_self there)
    · rw [List.getElem?_set_ne down]
      refine (follows up leads).imp id fun listed => List.mem_append_right _ ?_
      exact (List.mem_cons.mp listed).resolve_left (Ne.symm down)

/-- One node less is left to be met when one is noted for the first time. -/
theorem fewer_unmet {place : Nat} (fresh : reached[place]? = some false) :
    (reached.set place true).count false < reached.count false := by
  obtain ⟨there, unmet⟩ := List.getElem?_eq_some_iff.mp fresh
  have one : 0 < reached.count false := List.count_pos_iff.mpr (List.mem_of_getElem? fresh)
  rw [List.count_set there, unmet]
  change reached.count false - 1 + 0 < reached.count false
  omega

/-- The sweep ends wherever all links lead to nodes. The induction is on the nodes that were not met
yet, and within that on the stack. -/
theorem sweep_finishes (closed : ∀ {upper lower}, arena.Leads upper lower → lower < arena.size)
    (unmet : Nat) (reached : List Bool) (counted : reached.count false = unmet)
    (whole : reached.length = arena.size) (stack : List Nat)
    (inside : ∀ place ∈ stack, place < arena.size) (follows : arena.Follows reached stack) :
    ∃ trail final, Finishes arena.sweep (reached, stack) trail final ∧
      arena.Swept reached stack final := by
  -- A round leaves fewer nodes to be met, or as many and a shorter stack.
  induction unmet using Nat.strong_induction_on generalizing reached stack with
  | h unmet fewerUnmet =>
    induction stack with
    | nil =>
      refine ⟨[], reached, .ended rfl, whole, fun _ => id, nofun, ?_, fun _ => .inl⟩
      intro upper lower noted leads
      exact (follows noted leads).resolve_right List.not_mem_nil
    | cons place stack shorterStack =>
      have here : place < arena.size := inside place List.mem_cons_self
      have there : place < reached.length := whole ▸ here
      have later : ∀ other ∈ stack, other < arena.size := fun other listed =>
        inside other (List.mem_cons_of_mem _ listed)
      cases met : reached[place] with
      | true =>
        have noted : reached[place]? = some true := List.getElem?_eq_some_iff.mpr ⟨there, met⟩
        obtain ⟨trail, final, finishes, swept⟩ :=
          shorterStack later (follows_again noted follows)
        refine ⟨place :: trail, final, .onward ?_ finishes, swept_again noted swept⟩
        rw [sweep, noted]
      | false =>
        have fresh : reached[place]? = some false := List.getElem?_eq_some_iff.mpr ⟨there, met⟩
        obtain ⟨node, found⟩ : ∃ node, arena.nodes[place]? = some node :=
          ⟨_, List.getElem?_eq_getElem here⟩
        have lower_inside : ∀ other ∈ node.children.reverse ++ stack, other < arena.size := by
          intro other listed
          rcases List.mem_append.mp listed with lower | listed
          · exact closed ⟨node, found, List.mem_reverse.mp lower⟩
          · exact later other listed
        have length : (reached.set place true).length = arena.size := by
          rw [List.length_set, whole]
        obtain ⟨trail, final, finishes, swept⟩ := fewerUnmet _ (counted ▸ fewer_unmet fresh) _ rfl
          length _ lower_inside (follows_first found there follows)
        refine ⟨place :: trail, final, .onward ?_ finishes, swept_first found there swept⟩
        rw [sweep, fresh, found]

/-- The sweep from the root notes the nodes that the root leads to. What it has noted it was led to
from the stack, and at the beginning there is the root alone. -/
theorem swept_iff_leads
    (swept : arena.Swept (List.replicate arena.size false) [arena.root] final) {place : Nat} :
    final[place]? = some true ↔ Relation.ReflTransGen arena.Leads arena.root place := by
  constructor
  · intro noted
    rcases swept.origin place noted with unnoted | ⟨top, alone, leads⟩
    · rw [List.getElem?_replicate] at unnoted
      split at unnoted <;> cases unnoted
    · exact List.mem_singleton.mp alone ▸ leads
  · intro leads
    induction leads with
    | refl => exact swept.takes arena.root List.mem_cons_self
    | tail _ below noted => exact swept.follows noted below

/-- A loop can end in one way only, so whatever is shown of one way is shown of the loop. -/
theorem finishes_unique {σ ν β : Type} {round : σ → Round σ ν β} {state : σ}
    {trail other : List ν} {result left : β} (one : Finishes round state trail result)
    (two : Finishes round state other left) : trail = other ∧ result = left := by
  induction one generalizing other with
  | ended last =>
    cases two with
    | ended also =>
      cases last.symm.trans also
      exact ⟨rfl, rfl⟩
    | onward goes _ => cases last.symm.trans goes
  | onward goes _ inductionHypothesis =>
    cases two with
    | ended also => cases goes.symm.trans also
    | onward also rest =>
      cases goes.symm.trans also
      obtain ⟨rfl, rfl⟩ := inductionHypothesis rest
      exact ⟨rfl, rfl⟩

namespace Shows

variable {name : String} (shows : arena.Shows hosts root)

/-- What hangs below a host of the list is a host of the list. -/
theorem child_listed {child : String} (below : child ∈ (described hosts root).children name) :
    child ∈ hosts.map (·.name) :=
  hosts_described ▸ (RoutingTree.children_sublist (described hosts root) name).subset below

include shows

/-- Links by place are links by name, seen from the node above. -/
theorem leads_iff (present : name ∈ hosts.map (·.name)) {lower : Nat} :
    arena.Leads (Arena.place hosts name) lower ↔
      ∃ child ∈ (described hosts root).children name, Arena.place hosts child = lower := by
  rw [Leads, shows.node_at present]
  simp

/-- A link by place is one between two names of the list. -/
theorem leads_named {upper lower : Nat} (leads : arena.Leads upper lower) :
    ∃ name ∈ hosts.map (·.name), ∃ child ∈ (described hosts root).children name,
      Arena.place hosts name = upper ∧ Arena.place hosts child = lower := by
  obtain ⟨node, found, _⟩ := id leads
  obtain ⟨name, present, rfl⟩ := shows.name_at_place (List.getElem?_eq_some_iff.mp found).1
  obtain ⟨child, below, same⟩ := (shows.leads_iff present).mp leads
  exact ⟨name, present, child, below, rfl, same⟩

/-- All links lead to nodes, so the sweep never reads what is not there. -/
theorem leads_inside {upper lower : Nat} (leads : arena.Leads upper lower) :
    lower < arena.size := by
  obtain ⟨name, _, child, below, _, rfl⟩ := shows.leads_named leads
  exact shows.place_inside (child_listed below)

/-- The sweep from the root ends, having noted what can be reached from there. -/
theorem sweep_ends : ∃ trail final, Finishes arena.sweep arena.unswept trail final ∧
    arena.Swept (List.replicate arena.size false) [arena.root] final := by
  refine sweep_finishes shows.leads_inside _ _ rfl List.length_replicate _ ?_ ?_
  · intro place top
    rw [List.mem_singleton.mp top, shows.place]
    exact shows.place_inside shows.root_listed.1
  · intro upper lower noted
    rw [List.getElem?_replicate] at noted
    split at noted <;> cases noted

/-- It has noted the hosts that the sweep over the names has met. The two sweeps are not compared
step by step; each of them is led to the hosts that the other one has met. -/
theorem swept_iff (swept : arena.Swept (List.replicate arena.size false) [arena.root] final)
    (present : name ∈ hosts.map (·.name)) :
    final[Arena.place hosts name]? = some true ↔ name ∈ (described hosts root).reached := by
  have distinct : (described hosts root).hosts.Nodup := hosts_described ▸ shows.distinct
  have listed : root ∈ (described hosts root).hosts := hosts_described ▸ shows.root_listed.1
  obtain ⟨begins, closed⟩ :=
    RoutingTree.reached_complete distinct listed shows.root_listed.2
  constructor
  · intro noted
    -- What the root leads to was met under its name.
    have named : ∀ place, Relation.ReflTransGen arena.Leads arena.root place →
        ∃ host ∈ (described hosts root).reached,
          host ∈ hosts.map (·.name) ∧ Arena.place hosts host = place := by
      intro place leads
      induction leads with
      | refl => exact ⟨root, begins, shows.root_listed.1, shows.place.symm⟩
      | tail _ below inductionHypothesis =>
        obtain ⟨host, met, known, rfl⟩ := inductionHypothesis
        obtain ⟨child, lower, rfl⟩ := (shows.leads_iff known).mp below
        exact ⟨child, closed host met child lower, child_listed lower, rfl⟩
    obtain ⟨host, met, known, same⟩ := named _ ((swept_iff_leads swept).mp noted)
    exact shows.place_injective known present same ▸ met
  · intro met
    have kept : name ∈ hosts.map (·.name) ∧ final[Arena.place hosts name]? = some true := by
      refine RoutingTree.sweep_keeps (fun host => host ∈ hosts.map (·.name) ∧
        final[Arena.place hosts host]? = some true) ?_ _ _ _ ?_ ?_ name met
      · rintro host ⟨known, noted⟩ child below
        have leads := (shows.leads_iff known).mpr ⟨child, below, rfl⟩
        exact ⟨child_listed below, swept.follows noted leads⟩
      · intro host top
        rw [List.mem_singleton.mp top]
        exact ⟨shows.root_listed.1, swept.takes _ (List.mem_singleton.mpr shows.place.symm)⟩
      · exact nofun
    exact kept.2

/-- The names stand at their places, and beyond these there are none. -/
theorem listed_at (index : Nat) : (hosts.map (·.name))[index]? =
    if index < arena.size then some (arena.nameAt index) else none := by
  split
  · rename_i inside
    obtain ⟨name, present, rfl⟩ := shows.name_at_place inside
    rw [shows.place_named present]
    exact List.getElem?_idxOf present
  · rename_i outside
    rw [shows.size_eq] at outside
    exact List.getElem?_eq_none (by rw [List.length_map]; omega)

/-- The flags of the one sweep tell which names the other one has met. They stand in the order of
the description, so the first flag that is not set belongs to the first host that was not met. -/
theorem swept_flags (swept : arena.Swept (List.replicate arena.size false) [arena.root] final) :
    final = (hosts.map (·.name)).map
      fun name => decide (name ∈ (described hosts root).reached) := by
  refine List.ext_getElem? fun index => ?_
  rw [List.getElem?_map, shows.listed_at]
  split
  · rename_i inside
    obtain ⟨name, present, rfl⟩ := shows.name_at_place inside
    have flag := shows.swept_iff swept present
    rw [shows.place_named present, Option.map_some]
    rw [List.getElem?_eq_getElem (swept.length ▸ inside), Option.some.injEq] at flag ⊢
    rw [Bool.eq_iff_iff, flag, decide_eq_true_iff]
  · rename_i outside
    exact List.getElem?_eq_none (by rw [swept.length]; omega)

/-- The first host that the two sweeps leave out is the same, so both passes report the same one or
none. -/
theorem first_unswept (swept : arena.Swept (List.replicate arena.size false) [arena.root] final) :
    (described hosts root).firstUnreached? = (final.findIdx? (! ·)).map arena.nameAt := by
  have same : final.findIdx? (! ·) = (hosts.map (·.name)).findIdx?
      fun name => decide (name ∉ (described hosts root).reached) := by
    rw [shows.swept_flags swept, List.findIdx?_map]
    simp [Function.comp_def]
  rw [RoutingTree.firstUnreached?, hosts_described, List.find?_eq_bind_findIdx?_getElem?, same]
  cases first : (hosts.map (·.name)).findIdx?
      fun name => decide (name ∉ (described hosts root).reached) with
  | none => rfl
  | some index =>
    obtain ⟨there, _⟩ := List.findIdx?_eq_some_iff_getElem.mp first
    have inside : index < arena.size := by
      rw [shows.size_eq]
      simpa using there
    rw [Option.bind_some, shows.listed_at, if_pos inside, Option.map_some]

end Shows

/-! ## Parsing -/

/-- For every list of hosts the parser comes to an end, be it with an arena or with a failure. -/
theorem parses_ends (hosts : List Host) : ∃ result, Parses hosts result := by
  rcases of_hosts_shows hosts with ⟨failure, refused, _⟩ | ⟨arena, root, linked, shows, _⟩
  · exact ⟨_, .refused refused⟩
  · obtain ⟨trail, final, finishes, _⟩ := shows.sweep_ends
    cases first : final.findIdx? (! ·) with
    | none => exact ⟨_, .accepted linked finishes first⟩
    | some lost => exact ⟨_, .cyclic linked finishes first⟩

/-- What it finds in the end is what the passes over the names find. Up to the sweep both give the
same failures, and behind it both report the first host that was not met. -/
theorem parses_tree {result : Except Failure Arena} (parses : Parses hosts result) :
    RoutingTree.ofHosts hosts = result.map tree := by
  rcases of_hosts_shows hosts with ⟨failure, refused, alike⟩ | ⟨arena, root, linked, shows, alike⟩
  · cases parses with
    | refused other =>
      cases refused.symm.trans other
      exact alike
    | cyclic other _ _ | accepted other _ _ => cases refused.symm.trans other
  · obtain ⟨_, final, finishes, swept⟩ := shows.sweep_ends
    have unswept := shows.first_unswept swept
    cases parses with
    | refused other => cases linked.symm.trans other
    | cyclic other ends first =>
      cases linked.symm.trans other
      obtain ⟨_, rfl⟩ := finishes_unique finishes ends
      rw [alike, unswept, first]
      rfl
    | accepted other ends all =>
      cases linked.symm.trans other
      obtain ⟨_, rfl⟩ := finishes_unique finishes ends
      rw [alike, unswept, all]
      exact congrArg Except.ok shows.tree_described.symm

end RelayTree.Arena
