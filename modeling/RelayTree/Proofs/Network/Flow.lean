import Mathlib.Logic.Relation
import RelayTree.Message.Basic

/-!
# Messages on a course

Messages enter at places, and each moves on from the head of one place to the end of
another one until there is no next place for it. Where it goes only depends on the
message and on where it is. Several messages may be under way at a time, between
others that go elsewhere, and which of them moves next is open.

A ledger writes down where each of them is, by the number under which it entered.
`Accounts` says what a ledger has in common with the places: every message stands in it
once, on its course, and messages of one source for one target have not overtaken each
other. Both events, a message that enters and one that moves on, keep the books in
order.
-/

namespace RelayTree

/-- A message and the host at which it enters. Where it is to go the message says itself. -/
structure Injection where
  source : String
  message : Message

/-- Places, one to enter at for each host, and the place after each place for a message.
The rank of a place tells how far it is to the target. Messages for one target host go
the same way, except for the last step. -/
structure Course (σ : Type) where
  entry : String → σ
  next : Message → σ → σ → Prop
  rank : String → σ → Nat
  functional : ∀ {message : Message} {place one other : σ},
    next message place one → next message place other → one = other
  falls : ∀ {message : Message} {place after : σ},
    next message place after → rank message.target.host place = rank message.target.host after + 1
  alike : ∀ {message other : Message} {place after : σ},
    message.target.host = other.target.host → next message place after →
      rank message.target.host after ≠ 0 → next other place after

/-- One message has moved from the head of a place to the end of another one. Places are arbitrary
here, so the same is said of queues, hands and the parts that these play. -/
structure Shift {σ : Type} (before after : σ → List Message) (source target : σ)
    (message : Message) : Prop where
  apart : source ≠ target
  taken : before source = message :: after source
  given : after target = before target ++ [message]
  others : ∀ place, place ≠ source → place ≠ target → after place = before place

/-- What is at a place after a shift was there before, or has come to it. -/
theorem shift_origin {σ : Type} {before after : σ → List Message} {source target place : σ}
    {message other : Message} (shift : Shift before after source target message)
    (member : other ∈ after place) :
    other ∈ before place ∨ place = target ∧ other = message := by
  by_cases there : place = target
  · rw [there, shift.given, List.mem_append, List.mem_singleton] at member
    rcases member with stayed | came
    · exact .inl (there ▸ stayed)
    · exact .inr ⟨there, came⟩
  · by_cases here : place = source
    · rw [here, shift.taken]
      exact .inl (List.mem_cons_of_mem _ (here ▸ member))
    · exact .inl (shift.others place here there ▸ member)

namespace Course

open Relation

variable {σ : Type} (course : Course σ)

/-- The places that a message comes through, from where it enters to where there is no next place
for it. -/
def Visits (injection : Injection) (place : σ) : Prop :=
  ReflTransGen (course.next injection.message) (course.entry injection.source) place

/-- The numbers in the ledger are those of the messages at each place; each number that
was given out stands at one place, once; the place is on the message's course; and of
two messages from one host for one host the earlier one is ahead. -/
structure Accounts (holds : σ → List Message) (log : List Injection) (ledger : σ → List Nat) :
    Prop where
  matched : ∀ place, (ledger place).map (fun number => log[number]?.map (·.message)) =
    (holds place).map some
  present : ∀ number < log.length, ∃ place, number ∈ ledger place
  once : ∀ place, (ledger place).Nodup
  alone : ∀ {number : Nat} {one other : σ}, number ∈ ledger one → number ∈ ledger other →
    one = other
  visited : ∀ {number : Nat} {injection : Injection} {place : σ},
    log[number]? = some injection → number ∈ ledger place → course.Visits injection place
  ordered : ∀ {first second : Nat} {one other : Injection} {ahead behind : σ}, first < second →
    log[first]? = some one → log[second]? = some other → one.source = other.source →
      one.message.target.host = other.message.target.host → first ∈ ledger ahead →
        second ∈ ledger behind →
          course.rank one.message.target.host ahead ≤
              course.rank one.message.target.host behind ∧
            (ahead = behind → [first, second].Sublist (ledger ahead))

variable {course}

/-! ## Ranks along a course -/

/-- Further along, the rank is not greater, since every step lowers it. -/
theorem rank_visits {message : Message} {place further : σ}
    (path : ReflTransGen (course.next message) place further) :
    course.rank message.target.host further ≤ course.rank message.target.host place := by
  induction path with
  | refl => exact Nat.le_refl _
  | tail _ step inductionHypothesis =>
    have fall := course.falls step
    omega

/-- On one course places of one rank are the same. A message has one next place at most, so two
places of its course are reached one from the other. -/
theorem level_unique {message : Message} {start one other : σ}
    (first : ReflTransGen (course.next message) start one)
    (second : ReflTransGen (course.next message) start other)
    (level : course.rank message.target.host one = course.rank message.target.host other) :
    one = other := by
  have strict : ∀ {place further : σ}, ReflTransGen (course.next message) place further →
      course.rank message.target.host place = course.rank message.target.host further →
        place = further := by
    intro place further path same
    rcases path.cases_head with stays | ⟨middle, step, rest⟩
    · exact stays
    · have fall := course.falls step
      have bound := rank_visits rest
      omega
  have functional : Relator.RightUnique (course.next message) :=
    fun _ _ _ one other => course.functional one other
  rcases ReflTransGen.total_of_right_unique functional first second with onward | back
  · exact strict onward level
  · exact (strict back level.symm).symm

/-- Before the end, messages for one host have the same course, whatever else is different about
them. -/
theorem visits_alike {message other : Message} {start place : σ}
    (same : message.target.host = other.target.host)
    (path : ReflTransGen (course.next message) start place)
    (under : course.rank message.target.host place ≠ 0) :
    ReflTransGen (course.next other) start place := by
  induction path with
  | refl => exact .refl
  | tail _ step inductionHypothesis =>
    have fall := course.falls step
    exact (inductionHypothesis (by omega)).tail (course.alike same step under)

/-- Two messages of one source for one host that are equally far, and not there yet, are
at one place. -/
theorem same_place {one other : Injection} {here there : σ} (source : one.source = other.source)
    (target : one.message.target.host = other.message.target.host)
    (first : course.Visits one here) (second : course.Visits other there)
    (level : course.rank one.message.target.host here =
      course.rank one.message.target.host there)
    (under : course.rank one.message.target.host here ≠ 0) : here = there := by
  have carried := visits_alike target first under
  rw [source] at carried
  refine level_unique carried second ?_
  rw [← target]
  exact level

/-! ## The numbers in a ledger -/

variable {holds later : σ → List Message} {log : List Injection} {ledger : σ → List Nat}
  {source target place : σ} {message : Message} {first number : Nat} {rest : List Nat}
  {injection : Injection}

/-- Nothing has entered yet, and the empty ledger accounts for that. -/
theorem accounts_nothing (empty : ∀ place, holds place = []) :
    course.Accounts holds [] fun _ => [] where
  matched := fun place => by simp [empty]
  present := fun number below => by simp at below
  once := fun _ => List.nodup_nil
  alone := fun member => by simp at member
  visited := fun _ member => by simp at member
  ordered := fun _ _ _ _ _ member => by simp at member

/-- A number in the ledger was given out to a message that entered, so it is less than the number of
these. -/
theorem number_given (accounts : course.Accounts holds log ledger)
    (member : number ∈ ledger place) : number < log.length := by
  have entry : log[number]?.map (·.message) ∈ (holds place).map some := by
    rw [← accounts.matched place]
    exact List.mem_map.mpr ⟨number, member, rfl⟩
  obtain ⟨message, _, same⟩ := List.mem_map.mp entry
  obtain ⟨injection, found, _⟩ := Option.map_eq_some_iff.mp same.symm
  exact (List.getElem?_eq_some_iff.mp found).1

/-- A number in the ledger still stands for the same message when the log gets longer. -/
theorem entry_kept (accounts : course.Accounts holds log ledger) {new : Injection}
    (member : number ∈ ledger place) : (log ++ [new])[number]? = log[number]? :=
  List.getElem?_append_left (number_given accounts member)

/-- The first number at a place, the numbers behind it, and the message it stands for. -/
structure Heads (log : List Injection) (ledger : σ → List Nat) (place : σ) (first : Nat)
    (rest : List Nat) (injection : Injection) : Prop where
  stands : ledger place = first :: rest
  entered : log[first]? = some injection

/-- The first message of a place has the first number there, and the rest of the numbers is that of
the messages behind it. -/
theorem heads_exists (accounts : course.Accounts holds log ledger) {behind : List Message}
    (items : holds place = message :: behind) :
    ∃ first rest injection, Heads log ledger place first rest injection ∧
      injection.message = message ∧
      rest.map (fun number => log[number]?.map (·.message)) = behind.map some := by
  have heads := accounts.matched place
  rw [items, List.map_cons] at heads
  obtain ⟨first, rest, stands, named, matched⟩ := List.map_eq_cons_iff.mp heads
  obtain ⟨injection, entered, carries⟩ := Option.map_eq_some_iff.mp named
  exact ⟨first, rest, injection, ⟨stands, entered⟩, carries, matched⟩

/-- The first number of a place stands there, as a member of its list. -/
theorem heads_member (heads : Heads log ledger place first rest injection) :
    first ∈ ledger place := by
  rw [heads.stands]
  exact List.mem_cons_self

/-- The first number of a place stands there only once, and the others are all different. -/
theorem heads_nodup (accounts : course.Accounts holds log ledger)
    (heads : Heads log ledger place first rest injection) : first ∉ rest ∧ rest.Nodup := by
  have once := accounts.once place
  rwa [heads.stands, List.nodup_cons] at once

/-- What a message at the head of its place has before it in the order of its host is
further on: if it were equally far it would stand there too, and in front. -/
theorem strictly_ahead (accounts : course.Accounts holds log ledger)
    (heads : Heads log ledger source first rest injection)
    (next : course.next injection.message source target) {earlier : Nat} {former : Injection}
    (less : earlier < first) (found : log[earlier]? = some former)
    (sameSource : former.source = injection.source)
    (sameTarget : former.message.target.host = injection.message.target.host)
    (stood : earlier ∈ ledger place) :
    course.rank injection.message.target.host place <
      course.rank injection.message.target.host source := by
  have fall := course.falls next
  have visits := accounts.visited heads.entered (heads_member heads)
  obtain ⟨rank, sublist⟩ :=
    accounts.ordered less found heads.entered sameSource sameTarget stood (heads_member heads)
  rw [sameTarget] at rank
  refine Nat.lt_of_le_of_ne rank fun level => ?_
  have same : place = source := by
    refine same_place sameSource sameTarget (accounts.visited found stood) visits ?_ ?_
    · rw [sameTarget, level]
    · rw [sameTarget, level]
      omega
  have pair := sublist same
  rw [same, heads.stands] at pair
  cases pair with
  | cons _ tail => exact (heads_nodup accounts heads).1 (tail.subset (by simp))
  | cons_cons _ _ => omega

/-! ## Entering -/

variable [DecidableEq σ]

/-- The ledger after a new number was written down at a place, behind the numbers that were
there. -/
def written (ledger : σ → List Nat) (number : Nat) (place other : σ) : List Nat :=
  if other = place then ledger place ++ [number] else ledger other

/-- Who stands where after a new number was written down: whoever stood there before, and the new
one at its place. -/
theorem mem_written {new : Nat} {other : σ} :
    number ∈ written ledger new place other ↔
      number ∈ ledger other ∨ number = new ∧ other = place := by
  unfold written
  split
  · rename_i same
    subst same
    simp
  · rename_i different
    simp [different]

/-- A new number does not stand anywhere yet, so no place has it twice after it was written down. -/
theorem written_once (accounts : course.Accounts holds log ledger) :
    (written ledger log.length target place).Nodup := by
  unfold written
  split
  · rw [List.nodup_append]
    refine ⟨accounts.once target, List.pairwise_singleton _ _, fun number member other here => ?_⟩
    have below := number_given accounts member
    rw [List.mem_singleton] at here
    omega
  · exact accounts.once place

/-- A message that enters is behind all others of its host, since these have gone at least as far on
the same course. -/
theorem written_ordered (accounts : course.Accounts holds log ledger) (new : Injection)
    {first second : Nat} {one other : Injection} {ahead behind : σ} (less : first < second)
    (foundOne : (log ++ [new])[first]? = some one)
    (foundOther : (log ++ [new])[second]? = some other) (sameSource : one.source = other.source)
    (sameTarget : one.message.target.host = other.message.target.host)
    (here : first ∈ written ledger log.length (course.entry new.source) ahead)
    (there : second ∈ written ledger log.length (course.entry new.source) behind) :
    course.rank one.message.target.host ahead ≤ course.rank one.message.target.host behind ∧
      (ahead = behind →
        [first, second].Sublist (written ledger log.length (course.entry new.source) ahead)) := by
  rcases mem_written.mp there with there | ⟨rfl, rfl⟩
  · have below := number_given accounts there
    rcases mem_written.mp here with here | ⟨rfl, rfl⟩
    · rw [entry_kept accounts here] at foundOne
      rw [entry_kept accounts there] at foundOther
      obtain ⟨rank, sublist⟩ :=
        accounts.ordered less foundOne foundOther sameSource sameTarget here there
      refine ⟨rank, fun same => (sublist same).trans ?_⟩
      unfold written
      split
      · rename_i entry
        exact entry ▸ List.sublist_append_left _ _
      · exact List.Sublist.refl _
    · omega
  · obtain rfl : new = other := by simpa using foundOther
    rcases mem_written.mp here with here | ⟨rfl, rfl⟩
    · rw [entry_kept accounts here] at foundOne
      have path := accounts.visited foundOne here
      rw [Visits, sameSource] at path
      refine ⟨rank_visits path, ?_⟩
      rintro rfl
      have pair := (List.singleton_sublist.mpr here).append (List.Sublist.refl [log.length])
      simpa [written] using pair
    · omega

/-- A message that enters has its own number, which stands where it enters. The number is the length
of the log, and all numbers before are smaller, so it was nowhere else. -/
theorem accounts_entered (accounts : course.Accounts holds log ledger) (injection : Injection)
    (given : later (course.entry injection.source) =
      holds (course.entry injection.source) ++ [injection.message])
    (others : ∀ place, place ≠ course.entry injection.source → later place = holds place) :
    course.Accounts later (log ++ [injection])
      (written ledger log.length (course.entry injection.source)) := by
  refine ⟨fun place => ?_, fun number below => ?_, fun _ => written_once accounts, ?_, ?_,
    written_ordered accounts injection⟩
  · have before : (ledger place).map (fun number => (log ++ [injection])[number]?.map (·.message)) =
        (holds place).map some := by
      rw [← accounts.matched place]
      exact List.map_congr_left fun number member => by rw [entry_kept accounts member]
    by_cases here : place = course.entry injection.source
    · subst here
      simp [written, given, before]
    · simp [written, here, others place here, before]
  · by_cases last : number = log.length
    · exact ⟨course.entry injection.source, mem_written.mpr (.inr ⟨last, rfl⟩)⟩
    · have earlier : number < log.length := by
        rw [List.length_append, List.length_singleton] at below
        omega
      obtain ⟨place, member⟩ := accounts.present number earlier
      exact ⟨place, mem_written.mpr (.inl member)⟩
  · intro number one other first second
    rcases mem_written.mp first with first | ⟨rfl, rfl⟩ <;>
      rcases mem_written.mp second with second | ⟨same, rfl⟩
    · exact accounts.alone first second
    · have below := number_given accounts first
      omega
    · have below := number_given accounts second
      omega
    · rfl
  · intro number found place entry member
    rcases mem_written.mp member with member | ⟨rfl, rfl⟩
    · rw [entry_kept accounts member] at entry
      exact accounts.visited entry member
    · obtain rfl : injection = found := by simpa using entry
      exact .refl

/-! ## Moving on -/

/-- The ledger after the first number of a place was moved to the end of another one. -/
def moved (ledger : σ → List Nat) (number : Nat) (source target other : σ) : List Nat :=
  if other = source then (ledger source).tail
  else if other = target then ledger target ++ [number] else ledger other

/-- Who stands where after the first number of a place has moved: everybody but that one where they
were, and that one at the next place. -/
theorem mem_moved (accounts : course.Accounts holds log ledger)
    (heads : Heads log ledger source first rest injection) (apart : source ≠ target) :
    number ∈ moved ledger first source target place ↔
      number ≠ first ∧ number ∈ ledger place ∨ number = first ∧ place = target := by
  have alone : first ∈ ledger place → place = source := fun there =>
    accounts.alone there (heads_member heads)
  unfold moved
  split
  · rename_i here
    subst here
    rw [heads.stands, List.tail_cons, List.mem_cons]
    constructor
    · intro member
      exact .inl ⟨fun same => (heads_nodup accounts heads).1 (same ▸ member), .inr member⟩
    · rintro (⟨different, same | member⟩ | ⟨_, same⟩)
      · exact absurd same different
      · exact member
      · exact absurd same apart
  · rename_i elsewhere
    split
    · rename_i here
      subst here
      rw [List.mem_append, List.mem_singleton]
      constructor
      · rintro (member | same)
        · exact .inl ⟨fun same => elsewhere (alone (same ▸ member)), member⟩
        · exact .inr ⟨same, rfl⟩
      · rintro (⟨_, member⟩ | ⟨same, _⟩)
        · exact .inl member
        · exact .inr same
    · rename_i outside
      constructor
      · exact fun member => .inl ⟨fun same => elsewhere (alone (same ▸ member)), member⟩
      · rintro (⟨_, member⟩ | ⟨_, same⟩)
        · exact member
        · exact absurd same outside

/-- No number stands twice after a move, as the one that moves has left the place where it stood. -/
theorem moved_once (accounts : course.Accounts holds log ledger)
    (heads : Heads log ledger source first rest injection) (apart : source ≠ target) :
    (moved ledger first source target place).Nodup := by
  unfold moved
  split
  · rw [heads.stands, List.tail_cons]
    exact (heads_nodup accounts heads).2
  · split
    · have absent : first ∉ ledger target := fun there =>
        apart (accounts.alone (heads_member heads) there)
      rw [List.nodup_append]
      refine ⟨accounts.once target, List.pairwise_singleton _ _, fun number there other here => ?_⟩
      rintro rfl
      exact absent (List.mem_singleton.mp here ▸ there)
    · exact accounts.once place

/-- Two numbers that stood in order somewhere and did not move are still in order. The number that
was taken off stood at the head, and as it is none of the two, both of them were behind it; one that
was put behind them does no harm. -/
theorem sublist_moved {one other : Nat} (heads : Heads log ledger source first rest injection)
    (stays : one ≠ first) (sublist : [one, other].Sublist (ledger place)) :
    [one, other].Sublist (moved ledger first source target place) := by
  unfold moved
  split
  · rename_i here
    subst here
    rw [heads.stands] at sublist ⊢
    cases sublist with
    | cons _ tail => exact tail
    | cons_cons _ _ => exact absurd rfl stays
  · split
    · rename_i here
      exact here ▸ sublist.trans (List.sublist_append_left _ _)
    · exact sublist

/-- After a move the messages of a host are still in order. The one that moved was the first at its
place, so none of those before it is left behind. -/
theorem moved_ordered (accounts : course.Accounts holds log ledger)
    (heads : Heads log ledger source first rest injection) (apart : source ≠ target)
    (next : course.next injection.message source target) {one two : Nat}
    {former latter : Injection} {ahead behind : σ} (less : one < two)
    (foundOne : log[one]? = some former) (foundTwo : log[two]? = some latter)
    (sameSource : former.source = latter.source)
    (sameTarget : former.message.target.host = latter.message.target.host)
    (here : one ∈ moved ledger first source target ahead)
    (there : two ∈ moved ledger first source target behind) :
    course.rank former.message.target.host ahead ≤ course.rank former.message.target.host behind ∧
      (ahead = behind → [one, two].Sublist (moved ledger first source target ahead)) := by
  have fall := course.falls next
  rcases (mem_moved accounts heads apart).mp here with ⟨stays, stood⟩ | ⟨rfl, rfl⟩
  · rcases (mem_moved accounts heads apart).mp there with ⟨_, there⟩ | ⟨rfl, rfl⟩
    · obtain ⟨rank, sublist⟩ :=
        accounts.ordered less foundOne foundTwo sameSource sameTarget stood there
      exact ⟨rank, fun same => sublist_moved heads stays (sublist same)⟩
    · -- The later of the two is the one that moves.
      obtain rfl : injection = latter := Option.some.inj (heads.entered.symm.trans foundTwo)
      have strict := strictly_ahead accounts heads next less foundOne sameSource sameTarget stood
      rw [sameTarget]
      refine ⟨by omega, ?_⟩
      rintro rfl
      have pair := (List.singleton_sublist.mpr stood).append (List.Sublist.refl [two])
      simpa [moved, apart.symm] using pair
  · rcases (mem_moved accounts heads apart).mp there with ⟨_, there⟩ | ⟨same, _⟩
    · -- The earlier of the two moves, and gets further ahead.
      obtain rfl : injection = former := Option.some.inj (heads.entered.symm.trans foundOne)
      obtain ⟨rank, _⟩ := accounts.ordered less foundOne foundTwo sameSource sameTarget
        (heads_member heads) there
      refine ⟨by omega, ?_⟩
      rintro rfl
      omega
    · omega

/-- A message that moves on stays on its course and in order, and the ledger goes on to account for
all. -/
theorem accounts_shifted (accounts : course.Accounts holds log ledger)
    (shift : Shift holds later source target message)
    (next : course.next message source target) :
    ∃ first rest injection, Heads log ledger source first rest injection ∧
      injection.message = message ∧
      course.Accounts later log (moved ledger first source target) := by
  obtain ⟨first, rest, injection, heads, rfl, matched⟩ := heads_exists accounts shift.taken
  have stands : ∀ {number place}, number ∈ moved ledger first source target place ↔
      number ≠ first ∧ number ∈ ledger place ∨ number = first ∧ place = target :=
    mem_moved accounts heads shift.apart
  refine ⟨first, rest, injection, heads, rfl, fun place => ?_, fun number below => ?_,
    fun place => moved_once accounts heads shift.apart, ?_, ?_,
    moved_ordered accounts heads shift.apart next⟩
  · unfold moved
    split
    · rename_i here
      rw [here, heads.stands, List.tail_cons]
      exact matched
    · rename_i elsewhere
      split
      · rename_i here
        rw [here, List.map_append, accounts.matched target, shift.given]
        simp [heads.entered]
      · rename_i outside
        rw [accounts.matched place, shift.others place elsewhere outside]
  · obtain ⟨place, there⟩ := accounts.present number below
    by_cases same : number = first
    · exact ⟨target, stands.mpr (.inr ⟨same, rfl⟩)⟩
    · exact ⟨place, stands.mpr (.inl ⟨same, there⟩)⟩
  · intro number one other here there
    rcases stands.mp here with ⟨stays, here⟩ | ⟨moves, here⟩ <;>
      rcases stands.mp there with ⟨stays', there⟩ | ⟨moves', there⟩
    · exact accounts.alone here there
    · exact absurd moves' stays
    · exact absurd moves stays'
    · rw [here, there]
  · intro number entered place entry here
    rcases stands.mp here with ⟨_, here⟩ | ⟨rfl, rfl⟩
    · exact accounts.visited entry here
    · obtain rfl : injection = entered := Option.some.inj (heads.entered.symm.trans entry)
      exact (accounts.visited entry (heads_member heads)).tail next

end Course

end RelayTree
