import Mathlib.Data.List.Nodup
import Mathlib.Data.List.Pairwise
import RelayTree.Dispatcher.Service
import RelayTree.Proofs.Network.Flow

/-!
# Lanes

A message that came in by a door is on its way to the loop of the dispatcher, from post to
post: the queue behind the door, the hand of the forwarder there, the inbound queue, the
hand of the loop, and at last it is routed. These posts are the lane of the door. The lanes
join at the inbound queue.

A ledger writes down at which post each accepted message is, by its number. `Books` says
that it is right. All that matters follows from one equation for each door: its lane, read
from the far end to the entrance, has the numbers of the door in the order in which they
were given out. So none is missing, none stands twice, and none has overtaken another one.
-/

namespace RelayTree

/-- Where an accepted message can be: waiting behind a door, in the hand of a forwarder, in the hand
of the loop, or routed. -/
inductive Post where
  | queue (door : Door)
  | hand (door : Door)
  | loop
  | routed
deriving DecidableEq, Repr

/-- The post after a post. Forwarders put messages on the inbound queue, and the loop takes
them from there. -/
def Post.next : Post → Option Post
  | .queue .inbound => some .loop
  | .queue door => some (.hand door)
  | .hand _ => some (.queue .inbound)
  | .loop => some .routed
  | .routed => none

/-- The posts of the messages that came in by a door, from the far end to the entrance. -/
def Door.lane : Door → List Post
  | .inbound => [.routed, .loop, .queue .inbound]
  | door => [.routed, .loop, .queue .inbound, .hand door, .queue door]

namespace Door

/-- No post comes twice on a lane, so a message that goes on never comes back. -/
theorem lane_nodup (door : Door) : door.lane.Nodup := by cases door <;> decide

/-- Apart from the inbound queue, the only queue on a lane is the one at its entrance. -/
theorem lane_entrance {door other : Door} (member : .queue other ∈ door.lane)
    (outer : other ≠ .inbound) : other = door := by
  cases door <;> cases other <;> simp_all [lane]

/-- A lane ends where messages are routed, whichever door it begins at. -/
theorem lane_ends (door : Door) : ∃ behind, door.lane = .routed :: behind := by
  cases door <;> exact ⟨_, rfl⟩

/-- It starts at the queue behind the door, where a message is put down first. -/
theorem lane_starts (door : Door) : ∃ ahead, door.lane = ahead ++ [.queue door] := by
  cases door with
  | modules => exact ⟨[.routed, .loop, .queue .inbound, .hand .modules], rfl⟩
  | clients => exact ⟨[.routed, .loop, .queue .inbound, .hand .clients], rfl⟩
  | server => exact ⟨[.routed, .loop, .queue .inbound, .hand .server], rfl⟩
  | inbound => exact ⟨[.routed, .loop], rfl⟩

/-- On the lane the next post comes right before a post, as lanes are read from their end. -/
theorem lane_next {door : Door} {post target : Post} (member : post ∈ door.lane)
    (next : post.next = some target) :
    ∃ ahead behind, door.lane = ahead ++ target :: post :: behind := by
  cases door with
  | inbound =>
    simp only [lane, List.mem_cons, List.not_mem_nil, or_false] at member
    rcases member with rfl | rfl | rfl
    · cases next
    · cases next
      exact ⟨[], [.queue .inbound], rfl⟩
    · cases next
      exact ⟨[.routed], [], rfl⟩
  | modules | clients | server =>
    simp only [lane, List.mem_cons, List.not_mem_nil, or_false] at member
    rcases member with rfl | rfl | rfl | rfl | rfl
    · cases next
    · cases next
      exact ⟨[], [.queue .inbound, .hand _, .queue _], rfl⟩
    · cases next
      exact ⟨[.routed], [.hand _, .queue _], rfl⟩
    · cases next
      exact ⟨[.routed, .loop], [.queue _], rfl⟩
    · cases next
      exact ⟨[.routed, .loop, .queue .inbound], [], rfl⟩

end Door

/-! ## Numbers -/

/-- Whether a number was given to a message that came in by a door. -/
def comesBy (accepted : List Arrival) (door : Door) (number : Nat) : Bool :=
  accepted[number]?.any fun arrival => arrival.door = door

/-- The numbers of a door in the order in which they were given out. -/
def numbersOf (accepted : List Arrival) (door : Door) : List Nat :=
  (List.range accepted.length).filter (comesBy accepted door)

section Numbers

variable {accepted : List Arrival} {arrival : Arrival} {door : Door} {number : Nat}

/-- A number comes by the door of the message that it was given to. -/
theorem comes_by_iff (found : accepted[number]? = some arrival) :
    comesBy accepted door number = true ↔ arrival.door = door := by
  simp [comesBy, found]

/-- A number that was given out comes by the same door when more messages are accepted. -/
theorem comes_by_append (below : number < accepted.length) :
    comesBy (accepted ++ [arrival]) door number = comesBy accepted door number := by
  rw [comesBy, comesBy, List.getElem?_append_left below]

/-- The number of a new message comes by the door of the message. -/
theorem comes_by_last (accepted : List Arrival) (arrival : Arrival) (door : Door) :
    comesBy (accepted ++ [arrival]) door accepted.length = decide (arrival.door = door) := by
  simp [comesBy]

/-- A new message gets the last number of its door, and other doors keep their numbers. -/
theorem numbers_append (accepted : List Arrival) (arrival : Arrival) (door : Door) :
    numbersOf (accepted ++ [arrival]) door =
      numbersOf accepted door ++ if arrival.door = door then [accepted.length] else [] := by
  have earlier : (List.range accepted.length).filter (comesBy (accepted ++ [arrival]) door) =
      numbersOf accepted door :=
    List.filter_congr fun number member => comes_by_append (List.mem_range.mp member)
  rw [numbersOf, List.length_append, List.length_singleton, List.range_succ, List.filter_append,
    earlier, List.filter_singleton, comes_by_last]
  split <;> rename_i same <;> simp [same]

/-- No number of a door is given twice. -/
theorem numbers_nodup (accepted : List Arrival) (door : Door) : (numbersOf accepted door).Nodup :=
  List.nodup_range.filter _

/-- Every number is one of its door, and so it is on the lane of that door. -/
theorem mem_numbers (found : accepted[number]? = some arrival) :
    number ∈ numbersOf accepted arrival.door := by
  have below : number < accepted.length := (List.getElem?_eq_some_iff.mp found).1
  rw [numbersOf, List.mem_filter]
  exact ⟨List.mem_range.mpr below, (comes_by_iff found).mpr rfl⟩

end Numbers

/-! ## Books -/

/-- A ledger is right about what is held at each post. The numbers are those of the messages
there; each of them stands on the lane of its door; and read from the far end to the
entrance, a lane has just the numbers of its door, in order. -/
structure Books (accepted : List Arrival) (holds : Post → List Message)
    (ledger : Post → List Nat) : Prop where
  matched : ∀ post, (ledger post).map (fun number => accepted[number]?.map (·.message)) =
    (holds post).map some
  placed : ∀ {post : Post} {number : Nat}, number ∈ ledger post →
    ∃ arrival, accepted[number]? = some arrival ∧ post ∈ arrival.door.lane
  lined : ∀ door, door.lane.flatMap (fun post => (ledger post).filter (comesBy accepted door)) =
    numbersOf accepted door

namespace Books

open Course

variable {accepted : List Arrival} {holds later : Post → List Message}
  {ledger : Post → List Nat}

/-- Before anything was accepted, the empty ledger is right. -/
theorem nothing (empty : ∀ post, holds post = []) : Books [] holds fun _ => [] where
  matched := fun post => by simp [empty]
  placed := fun member => by simp at member
  lined := fun door => by simp [numbersOf]

/-- The same messages at the same posts need no other ledger. -/
theorem still (books : Books accepted holds ledger) (same : ∀ post, later post = holds post) :
    Books accepted later ledger :=
  ⟨fun post => same post ▸ books.matched post, books.placed, books.lined⟩

/-- A number in the ledger was given out, to a message that was accepted. -/
theorem given (books : Books accepted holds ledger) {post : Post} {number : Nat}
    (member : number ∈ ledger post) : number < accepted.length := by
  obtain ⟨arrival, found, _⟩ := books.placed member
  exact (List.getElem?_eq_some_iff.mp found).1

/-- A new number shows at the entrance of the lane of its door, and nowhere else. Seen from other
doors the ledger has not changed, as no earlier number came by this arrival. -/
theorem written_filter (books : Books accepted holds ledger) (arrival : Arrival) (door : Door)
    (post : Post) :
    (written ledger accepted.length (.queue arrival.door) post).filter
        (comesBy (accepted ++ [arrival]) door) =
      (ledger post).filter (comesBy accepted door) ++
        if post = .queue arrival.door ∧ arrival.door = door then [accepted.length] else [] := by
  have earlier : (ledger post).filter (comesBy (accepted ++ [arrival]) door) =
      (ledger post).filter (comesBy accepted door) :=
    List.filter_congr fun number member => comes_by_append (books.given member)
  unfold written
  by_cases here : post = .queue arrival.door
  · rw [if_pos here, ← here, List.filter_append, earlier, List.filter_singleton, comes_by_last]
    by_cases same : arrival.door = door <;> simp [same]
  · rw [if_neg here, if_neg fun both => here both.1, earlier, List.append_nil]

/-- All lanes are in line after a message was written down: the one of its door has its number at
the end, and the others do not see it. -/
theorem written_lined (books : Books accepted holds ledger) (arrival : Arrival) (door : Door) :
    door.lane.flatMap (fun post =>
        (written ledger accepted.length (.queue arrival.door) post).filter
          (comesBy (accepted ++ [arrival]) door)) =
      numbersOf (accepted ++ [arrival]) door := by
  rw [List.flatMap_congr fun post _ => books.written_filter arrival door post, numbers_append,
    ← books.lined door]
  by_cases same : arrival.door = door
  · subst same
    obtain ⟨ahead, lane⟩ := arrival.door.lane_starts
    have nodup := arrival.door.lane_nodup
    rw [lane, List.nodup_append] at nodup
    have front : ahead.flatMap (fun post =>
        (ledger post).filter (comesBy accepted arrival.door) ++
          if post = .queue arrival.door ∧ arrival.door = arrival.door then [accepted.length]
          else []) =
        ahead.flatMap fun post => (ledger post).filter (comesBy accepted arrival.door) := by
      apply List.flatMap_congr
      intro post member
      have apart : post ≠ .queue arrival.door :=
        nodup.2.2 post member _ (List.mem_singleton_self _)
      rw [if_neg fun both => apart both.1, List.append_nil]
    rw [lane, List.flatMap_append, List.flatMap_append, front]
    simp
  · simp [same]

/-- A message that is accepted stands behind all others of its door, as its number is the last
one. -/
theorem entered (books : Books accepted holds ledger) (arrival : Arrival)
    (given : later (.queue arrival.door) = holds (.queue arrival.door) ++ [arrival.message])
    (others : ∀ post, post ≠ .queue arrival.door → later post = holds post) :
    Books (accepted ++ [arrival]) later
      (written ledger accepted.length (.queue arrival.door)) where
  matched := by
    intro post
    have before : (ledger post).map (fun number => (accepted ++ [arrival])[number]?.map
        (·.message)) = (holds post).map some := by
      rw [← books.matched post]
      exact List.map_congr_left fun number member => by
        rw [List.getElem?_append_left (books.given member)]
    by_cases here : post = .queue arrival.door
    · subst here
      simp [written, given, before]
    · simp [written, here, others post here, before]
  placed := by
    intro post number member
    rcases mem_written.mp member with member | ⟨rfl, rfl⟩
    · obtain ⟨former, found, lane⟩ := books.placed member
      refine ⟨former, ?_, lane⟩
      rw [List.getElem?_append_left (books.given member)]
      exact found
    · obtain ⟨ahead, lane⟩ := arrival.door.lane_starts
      exact ⟨arrival, by simp, by simp [lane]⟩
  lined := books.written_lined arrival

/-- What a post has at its head is the message with the first number there. -/
theorem head (books : Books accepted holds ledger) {post : Post} {message : Message}
    {rest : List Message} (items : holds post = message :: rest) :
    ∃ number behind arrival, ledger post = number :: behind ∧
      accepted[number]? = some arrival ∧ arrival.message = message ∧
      behind.map (fun number => accepted[number]?.map (·.message)) = rest.map some := by
  have heads := books.matched post
  rw [items, List.map_cons] at heads
  obtain ⟨number, behind, stands, named, matched⟩ := List.map_eq_cons_iff.mp heads
  obtain ⟨arrival, found, carries⟩ := Option.map_eq_some_iff.mp named
  exact ⟨number, behind, arrival, stands, found, carries, matched⟩

section Moving

variable {source target : Post} {number : Nat} {behind : List Nat} {arrival : Arrival}

/-- The lanes of other doors do not see a message go on, even where they share a post with its
lane. -/
theorem moved_unseen (stands : ledger source = number :: behind) {door : Door}
    (stranger : comesBy accepted door number = false) (post : Post) :
    (moved ledger number source target post).filter (comesBy accepted door) =
      (ledger post).filter (comesBy accepted door) := by
  unfold moved
  split
  · rename_i here
    rw [here, stands, List.tail_cons, List.filter_cons_of_neg (by simp [stranger])]
  · split
    · rename_i here
      rw [here, List.filter_append, List.filter_singleton, stranger]
      exact List.append_nil _
    · rfl

/-- On its own lane the two posts are neighbours, and the number passes from the head of the
one to the end of the other. -/
theorem moved_along (stands : ledger source = number :: behind) {door : Door}
    (comes : comesBy accepted door number = true) (onLane : source ∈ door.lane)
    (next : source.next = some target) :
    door.lane.flatMap (fun post =>
        (moved ledger number source target post).filter (comesBy accepted door)) =
      door.lane.flatMap fun post => (ledger post).filter (comesBy accepted door) := by
  obtain ⟨ahead, rest, order⟩ := Door.lane_next onLane next
  have nodup := door.lane_nodup
  rw [order] at nodup ⊢
  simp only [List.nodup_append, List.nodup_cons, List.mem_cons, not_or] at nodup
  obtain ⟨_, ⟨⟨apart, targetRest⟩, sourceRest, _⟩, across⟩ := nodup
  have unmoved : ∀ post, post ≠ source → post ≠ target →
      (moved ledger number source target post).filter (comesBy accepted door) =
        (ledger post).filter (comesBy accepted door) := by
    intro post notSource notTarget
    rw [moved, if_neg notSource, if_neg notTarget]
  have front : ahead.flatMap (fun post =>
      (moved ledger number source target post).filter (comesBy accepted door)) =
      ahead.flatMap fun post => (ledger post).filter (comesBy accepted door) :=
    List.flatMap_congr fun post member =>
      unmoved post (across post member source (.inr (.inl rfl)))
        (across post member target (.inl rfl))
  have back : rest.flatMap (fun post =>
      (moved ledger number source target post).filter (comesBy accepted door)) =
      rest.flatMap fun post => (ledger post).filter (comesBy accepted door) :=
    List.flatMap_congr fun post member =>
      unmoved post (fun same => sourceRest (same ▸ member)) fun same => targetRest (same ▸ member)
  have goal : moved ledger number source target target = ledger target ++ [number] := by
    rw [moved, if_neg apart, if_pos rfl]
  have start : moved ledger number source target source = behind := by
    rw [moved, if_pos rfl, stands, List.tail_cons]
  have alone : [number].filter (comesBy accepted door) = [number] := by simp [comes]
  have whole : (number :: behind).filter (comesBy accepted door) =
      number :: behind.filter (comesBy accepted door) := List.filter_cons_of_pos comes
  rw [List.flatMap_append, List.flatMap_append, List.flatMap_cons, List.flatMap_cons,
    List.flatMap_cons, List.flatMap_cons, front, back, goal, start, stands, List.filter_append,
    alone, whole]
  simp

end Moving

/-- A message that goes on to the next post stays in line: it was the first one at its post, so
everything before it on the lane is at the posts behind it. -/
theorem carried (books : Books accepted holds ledger) {source target : Post} {message : Message}
    (next : source.next = some target) (shift : Shift holds later source target message) :
    ∃ number behind, ledger source = number :: behind ∧
      Books accepted later (moved ledger number source target) := by
  obtain ⟨number, behind, arrival, stands, found, rfl, matched⟩ := books.head shift.taken
  obtain ⟨former, same, onLane⟩ := books.placed (stands ▸ List.mem_cons_self)
  obtain rfl : arrival = former := Option.some.inj (found.symm.trans same)
  refine ⟨number, behind, stands, ?_, ?_, ?_⟩
  · intro post
    unfold moved
    split
    · rename_i here
      rw [here, stands, List.tail_cons]
      exact matched
    · rename_i elsewhere
      split
      · rename_i here
        rw [here, List.map_append, books.matched target, shift.given]
        simp [found]
      · rename_i outside
        rw [books.matched post, shift.others post elsewhere outside]
  · intro post other member
    unfold moved at member
    split at member
    · rename_i here
      rw [here]
      exact books.placed (List.mem_of_mem_tail member)
    · split at member
      · rename_i here
        rw [here]
        rcases List.mem_append.mp member with stood | came
        · exact books.placed stood
        · obtain rfl := List.mem_singleton.mp came
          obtain ⟨ahead, rest, order⟩ := Door.lane_next onLane next
          exact ⟨arrival, found, by simp [order]⟩
      · exact books.placed member
  · intro door
    rw [← books.lined door]
    by_cases own : arrival.door = door
    · subst own
      exact moved_along stands ((comes_by_iff found).mpr rfl) onLane next
    · apply List.flatMap_congr
      intro post _
      have stranger : comesBy accepted door number = false := by
        rw [← Bool.not_eq_true, comes_by_iff found]
        exact own
      exact moved_unseen stands stranger post

/-! ### What right books say -/

/-- Every accepted message stands at one post, which is on the lane of its door, and stands
there once. -/
theorem exactly_one (books : Books accepted holds ledger) {number : Nat} {arrival : Arrival}
    (found : accepted[number]? = some arrival) :
    ∃ post ∈ arrival.door.lane, (ledger post).count number = 1 ∧
      ∀ other, other ≠ post → number ∉ ledger other := by
  have comes : comesBy accepted arrival.door number = true := (comes_by_iff found).mpr rfl
  have nodup := numbers_nodup accepted arrival.door
  have listed := mem_numbers found
  rw [← books.lined arrival.door] at nodup listed
  obtain ⟨once, disjoint⟩ := List.nodup_flatMap.mp nodup
  obtain ⟨post, onLane, member⟩ := List.mem_flatMap.mp listed
  refine ⟨post, onLane, ?_, fun other different there => ?_⟩
  · rw [← List.count_filter comes]
    exact List.count_eq_one_of_mem (once post onLane) member
  · obtain ⟨former, same, lane⟩ := books.placed there
    obtain rfl : arrival = former := Option.some.inj (found.symm.trans same)
    have entry : number ∈ (ledger other).filter (comesBy accepted arrival.door) :=
      List.mem_filter.mpr ⟨there, comes⟩
    have symmetric : Std.Symm (Function.onFun List.Disjoint fun post =>
        (ledger post).filter (comesBy accepted arrival.door)) :=
      ⟨fun _ _ apart _ one two => apart two one⟩
    exact disjoint.forall onLane lane different.symm member entry

/-- Messages of one door are routed in the order in which it accepted them. -/
theorem routed_in_order (books : Books accepted holds ledger) (door : Door) :
    (ledger .routed).filter (comesBy accepted door) <+: numbersOf accepted door := by
  obtain ⟨behind, lane⟩ := door.lane_ends
  rw [← books.lined door, lane, List.flatMap_cons]
  exact List.prefix_append _ _

end Books

end RelayTree
