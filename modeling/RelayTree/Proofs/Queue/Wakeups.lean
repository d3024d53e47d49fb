import Mathlib.Data.List.Induction
import RelayTree.Queue.Monitor

/-!
# Nobody sleeps in vain

An item that is added wakes up one sleeper only, and that one may find the queue empty when it comes
to look: a consumer that never slept was faster, or one that woke up by itself, or somebody took
everything. The other sleepers then must not be needed. `Attended` counts: while somebody sleeps,
the queue is open, and there are no more items than consumers that were notified and are still to
look. A notified consumer that looks takes an item off if there is one, so both sides fall together,
and whoever takes an item without having been notified only lowers the smaller side.
-/

namespace RelayTree

variable {α : Type}

namespace Consumer

/-- What comes of a look at the queue: the first item is taken, or the consumer leaves without one,
or it goes to sleep. It sleeps only where the queue is empty and open. -/
inductive Looks (consumer : Consumer α) (queue : Queue α) : Consumer α × Queue α → Prop where
  | takes {first : α} {rest : List α} (items : queue.items = first :: rest) :
    Looks consumer queue ({ consumer with vigil := .served (some first) }, queue.tail)
  | leaves (nothing : queue.items = []) :
    Looks consumer queue ({ consumer with vigil := .served none }, queue)
  | sleeps (nothing : queue.items = []) (opened : queue.closed = false) :
    Looks consumer queue ({ consumer with vigil := .asleep }, queue)

/-- Every look is one of these three, whether the consumer would wait any longer or not. -/
theorem look_looks (consumer : Consumer α) (queue : Queue α) (leaves : Bool) :
    consumer.Looks queue (consumer.look queue leaves) := by
  rw [look, Queue.head]
  cases items : queue.items with
  | cons first rest => exact .takes items
  | nil =>
    cases opened : queue.closed with
    | true => exact .leaves items
    | false =>
      cases leaves with
      | true => exact .leaves items
      | false => exact .sleeps items opened

end Consumer

namespace Monitor

variable {monitor : Monitor α} {number : Nat} {old : Consumer α}

/-- While somebody sleeps, the queue is open and has no more items than there are consumers that
were notified. -/
def Attended (monitor : Monitor α) : Prop :=
  0 < monitor.asleep →
    monitor.queue.closed = false ∧ monitor.queue.items.length ≤ monitor.notified

/-! ## Waking up -/

/-- A consumer that takes the place of another one counts instead of it. -/
theorem put_counts (counts : Consumer α → Bool) (new : Consumer α)
    (found : monitor.consumers[number]? = some old) :
    (monitor.put number new).consumers.countP counts + (counts old).toNat =
      monitor.consumers.countP counts + (counts new).toNat := by
  obtain ⟨there, rfl⟩ := List.getElem?_eq_some_iff.mp found
  have counted : counts monitor.consumers[number] = true →
      0 < monitor.consumers.countP counts := fun one =>
    List.countP_pos_iff.mpr ⟨_, List.getElem_mem there, one⟩
  rw [put, List.countP_set there]
  cases before : counts monitor.consumers[number] with
  | true =>
    have positive := counted before
    cases counts new <;> simp <;> omega
  | false => cases counts new <;> simp

/-- Putting a consumer back as it was changes nothing. -/
theorem put_same (found : monitor.consumers[number]? = some old) :
    monitor.put number old = monitor := by
  obtain ⟨there, rfl⟩ := List.getElem?_eq_some_iff.mp found
  rw [put, List.set_getElem_self]

/-- How many sleep changes by the one consumer that is replaced. The sum is written without
subtraction, so that no bound is needed for it. -/
theorem put_asleep (new : Consumer α) (found : monitor.consumers[number]? = some old) :
    (monitor.put number new).asleep + old.isAsleep.toNat =
      monitor.asleep + new.isAsleep.toNat :=
  put_counts Consumer.isAsleep new found

/-- How many were notified changes by the one consumer that is replaced, in the same way. -/
theorem put_notified (new : Consumer α) (found : monitor.consumers[number]? = some old) :
    (monitor.put number new).notified + old.isNotified.toNat =
      monitor.notified + new.isNotified.toNat :=
  put_counts Consumer.isNotified new found

/-- The sleeper that is woken up sleeps, be it the chosen one or the first. -/
theorem sleeper_asleep {chosen : Nat} (found : monitor.sleeper? chosen = some number) :
    ∃ consumer, monitor.consumers[number]? = some consumer ∧ consumer.isAsleep = true := by
  rw [sleeper?] at found
  split at found
  · rename_i asleep
    cases found
    exact (Option.any_eq_true _ _).mp asleep
  · obtain ⟨there, asleep, _⟩ := List.findIdx?_eq_some_iff_getElem.mp found
    exact ⟨_, List.getElem?_eq_getElem there, asleep⟩

/-- There is one to wake up unless nobody sleeps, so a notification is not lost on the wrong
consumer. -/
theorem sleeper_none {chosen : Nat} (nobody : monitor.sleeper? chosen = none) :
    monitor.asleep = 0 := by
  rw [sleeper?] at nobody
  split at nobody
  · cases nobody
  · rw [asleep, List.countP_eq_zero]
    simpa using nobody

/-- A sleeper that is notified does not sleep any more and counts as notified from then on, which it
did not before. -/
theorem notify_asleep (asleep : old.isAsleep = true) :
    old.notify.isAsleep = false ∧ old.notify.isNotified = true ∧ old.isNotified = false := by
  obtain ⟨patience, vigil⟩ := old
  cases vigil with
  | asleep => exact ⟨rfl, rfl, rfl⟩
  | asking | woken | served => cases asleep

/-- Nobody is asleep right after a notification, whatever it was doing. -/
theorem notify_awake (consumer : Consumer α) : consumer.notify.isAsleep = false := by
  cases asleep : consumer.isAsleep with
  | true => exact (notify_asleep asleep).1
  | false => rw [Consumer.notify, asleep, if_neg Bool.false_ne_true, asleep]

/-- One notification moves one sleeper to those that were notified, if there is one. Which sleeper
it is makes no difference to the two counts, so the choice is left open. -/
theorem notify_one_counts (monitor : Monitor α) (chosen : Nat) :
    (monitor.notifyOne chosen).queue = monitor.queue ∧
      (monitor.notifyOne chosen).asleep = monitor.asleep - 1 ∧
      (monitor.notifyOne chosen).asleep + (monitor.notifyOne chosen).notified =
        monitor.asleep + monitor.notified := by
  rw [notifyOne]
  split
  · rename_i nobody
    have none_asleep := sleeper_none nobody
    exact ⟨rfl, by omega, rfl⟩
  · rename_i number found
    obtain ⟨consumer, there, asleep⟩ := sleeper_asleep found
    obtain ⟨awake, notified, before⟩ := notify_asleep asleep
    have sleepers := put_asleep consumer.notify there
    have woken := put_notified consumer.notify there
    rw [asleep, awake] at sleepers
    rw [notified, before] at woken
    simp only [Bool.toNat_true, Bool.toNat_false] at sleepers woken
    simp only [change, there]
    exact ⟨rfl, by omega, by omega⟩

/-- Nobody sleeps on after all were notified, so nothing is asked of the count then. -/
theorem notify_all_asleep (monitor : Monitor α) : monitor.notifyAll.asleep = 0 := by
  rw [asleep, List.countP_eq_zero]
  intro consumer listed
  obtain ⟨before, _, rfl⟩ := List.mem_map.mp listed
  rw [notify_awake]
  exact Bool.false_ne_true

/-! ## One action -/

/-- An item more is met by a notification more, or nobody sleeps. This is the step where the count
could be broken, and it takes both the item and the notification in one action to keep it. -/
theorem added_attended (attended : monitor.Attended) {changed : Option (Queue α)} (chosen : Nat)
    (one : ∀ queue, changed = some queue → queue.closed = false ∧
      queue.items.length = monitor.queue.items.length + 1) :
    (monitor.added chosen changed).Attended := by
  cases changed with
  | none => exact attended
  | some queue =>
    obtain ⟨opened, longer⟩ := one queue rfl
    obtain ⟨same, fewer, moved⟩ := notify_one_counts { monitor with queue := queue } chosen
    change _ = monitor.asleep - 1 at fewer
    change _ = monitor.asleep + monitor.notified at moved
    intro asleep
    rw [added] at asleep ⊢
    have covered := (attended (by omega)).2
    rw [same]
    refine ⟨opened, ?_⟩
    change queue.items.length ≤ _
    omega

/-- A queue that takes an item at its end is open and has one more. -/
theorem push_back_longer {queue changed : Queue α} {item : α}
    (taken : queue.pushBack? item = some changed) :
    changed.closed = false ∧ changed.items.length = queue.items.length + 1 := by
  rw [Queue.pushBack?] at taken
  split at taken
  · cases taken
  · rename_i opened
    cases taken
    exact ⟨Bool.eq_false_iff.mpr opened, List.length_append⟩

/-- A queue that takes an item at its head is open and has one more. -/
theorem push_front_longer {queue changed : Queue α} {item : α}
    (taken : queue.pushFront? item = some changed) :
    changed.closed = false ∧ changed.items.length = queue.items.length + 1 := by
  rw [Queue.pushFront?] at taken
  split at taken
  · cases taken
  · rename_i opened
    cases taken
    exact ⟨Bool.eq_false_iff.mpr opened, rfl⟩

/-- Who looks at the queue takes an item if there is one, and falls asleep only where there is none
and the queue is open. -/
theorem look_attended (attended : monitor.Attended)
    (found : monitor.consumers[number]? = some old) (awake : old.isAsleep = false)
    {new : Consumer α} {queue : Queue α} (looks : old.Looks monitor.queue (new, queue)) :
    Attended { monitor.put number new with queue := queue } := by
  have sleepers := put_asleep new found
  have woken := put_notified new found
  rw [awake, Bool.toNat_false] at sleepers
  intro asleep
  change 0 < (monitor.put number new).asleep at asleep
  change queue.closed = false ∧ queue.items.length ≤ (monitor.put number new).notified
  cases looks with
  | @takes first rest items =>
    have shorter : monitor.queue.tail.items.length + 1 = monitor.queue.items.length := by
      rw [Queue.tail, items]
      rfl
    have one : old.isNotified.toNat ≤ 1 := Bool.toNat_le _
    change _ = monitor.asleep + 0 at sleepers
    change _ = monitor.notified + 0 at woken
    obtain ⟨opened, covered⟩ := attended (by omega)
    exact ⟨opened, by omega⟩
  | leaves nothing =>
    change _ = monitor.asleep + 0 at sleepers
    exact ⟨(attended (by omega)).1, by simp [nothing]⟩
  | sleeps nothing opened => exact ⟨opened, by simp [nothing]⟩

/-- Who is awake and gets the lock looks at the queue; others do nothing. Consumers that are asking
and those that woke up look in the same way, which is why one lemma serves both. -/
theorem turn_attended (attended : monitor.Attended) (number : Nat) :
    (monitor.turn number).Attended := by
  cases found : monitor.consumers[number]? with
  | none =>
    rw [turn, found]
    exact attended
  | some consumer =>
    have turned : monitor.turn number = { monitor.put number (consumer.turn monitor.queue).1 with
        queue := (consumer.turn monitor.queue).2 } := by
      rw [turn, found]
    rw [turned]
    obtain ⟨patience, vigil⟩ := consumer
    cases vigil with
    | asking => exact look_attended attended found rfl (Consumer.look_looks ..)
    | woken notified timeIsUp => exact look_attended attended found rfl (Consumer.look_looks ..)
    | asleep | served =>
      change (monitor.put number ⟨patience, _⟩).Attended
      rw [put_same found]
      exact attended

/-- The count survives what wakes a consumer up or does nothing, but does not notify it. Such a
change can only lower the number of sleepers, and the other number stays. -/
theorem change_attended (attended : monitor.Attended) {work : Consumer α → Consumer α}
    (asleep : ∀ consumer, (work consumer).isAsleep = true → consumer.isAsleep = true)
    (notified : ∀ consumer, (work consumer).isNotified = consumer.isNotified) (number : Nat) :
    (monitor.change number work).Attended := by
  cases found : monitor.consumers[number]? with
  | none =>
    rw [change, found]
    exact attended
  | some consumer =>
    have changed : monitor.change number work = monitor.put number (work consumer) := by
      rw [change, found]
    have sleepers := put_asleep (work consumer) found
    have woken := put_notified (work consumer) found
    rw [notified] at woken
    have fewer : (work consumer).isAsleep.toNat ≤ consumer.isAsleep.toNat := by
      cases still : (work consumer).isAsleep with
      | true => exact Nat.le_of_eq (congrArg Bool.toNat (asleep consumer still)).symm
      | false => exact Nat.zero_le _
    rw [changed]
    intro some_asleep
    obtain ⟨opened, covered⟩ := attended (by omega)
    refine ⟨opened, ?_⟩
    change monitor.queue.items.length ≤ _
    omega

/-- Stirring puts nobody to sleep: who sleeps afterwards slept before. -/
theorem stir_asleep (consumer : Consumer α) (asleep : consumer.stir.isAsleep = true) :
    consumer.isAsleep = true := by
  cases before : consumer.isAsleep with
  | true => rfl
  | false =>
    rw [Consumer.stir, before, if_neg Bool.false_ne_true, before] at asleep
    cases asleep

/-- Stirring notifies nobody, so a sleeper that wakes up for no reason is not counted on. -/
theorem stir_notified (consumer : Consumer α) : consumer.stir.isNotified = consumer.isNotified := by
  obtain ⟨patience, vigil⟩ := consumer
  cases vigil <;> rfl

/-- Somebody whose time is up is not put to sleep by it. -/
theorem lapse_asleep (consumer : Consumer α) (asleep : consumer.lapse.isAsleep = true) :
    consumer.isAsleep = true := by
  obtain ⟨patience, vigil⟩ := consumer
  cases patience <;> cases vigil <;> first | rfl | cases asleep

/-- A consumer whose time is up may have been notified before, and still has to look. -/
theorem lapse_notified (consumer : Consumer α) :
    consumer.lapse.isNotified = consumer.isNotified := by
  obtain ⟨patience, vigil⟩ := consumer
  cases patience <;> cases vigil <;> rfl

/-- Every action keeps the count. Additions are met by notifications, closing and draining leave
nothing to be counted, and a turn lowers items and notified consumers together or only the
former. -/
theorem after_attended (attended : monitor.Attended) (action : Action α) :
    (monitor.after action).Attended := by
  cases action with
  | pushBack item chosen => exact added_attended attended chosen fun _ => push_back_longer
  | pushFront item chosen => exact added_attended attended chosen fun _ => push_front_longer
  | ask patience =>
    intro asleep
    have sleepers : (monitor.after (.ask patience)).asleep = monitor.asleep + 0 :=
      List.countP_append
    have woken : (monitor.after (.ask patience)).notified = monitor.notified + 0 :=
      List.countP_append
    rw [sleepers] at asleep
    rw [woken]
    exact attended asleep
  | turn number => exact turn_attended attended number
  | stir number => exact change_attended attended stir_asleep stir_notified number
  | lapse number => exact change_attended attended lapse_asleep lapse_notified number
  | drain => exact fun asleep => ⟨(attended asleep).1, Nat.zero_le _⟩
  | close =>
    intro asleep
    have nobody := notify_all_asleep { monitor with queue := monitor.queue.close }
    exact absurd asleep (nobody ▸ Nat.lt_irrefl 0)
  | reopen => exact fun asleep => ⟨rfl, (attended asleep).2⟩

/-! ## All actions -/

/-- The count is kept in the course of every run that begins with a queue and nobody who waits, by
induction on the run from its end. -/
theorem run_attended (queue : Queue α) (actions : List (Action α)) :
    ((around queue).run actions).Attended := by
  induction actions using List.reverseRecOn with
  | nil => exact fun asleep => absurd asleep (Nat.lt_irrefl 0)
  | append_singleton earlier action inductionHypothesis =>
    rw [run, List.foldl_append]
    exact after_attended inductionHypothesis action

/-- No wake-up is lost. At any moment at which some consumer sleeps that was not woken up, the queue
is open, and it has at most as many items as there are consumers that were notified and have not
looked at the queue since. So where there is an item, somebody who was notified comes for it.

Proof: the statement is `Attended`, which is kept by every action, and the last part of it says that
a positive count counts somebody. Which sleeper a notification wakes is left open, and so is when
consumers wake up by themselves or run out of patience. Nor is it assumed that a consumer that was
notified finds anything when it looks. -/
theorem no_wakeup_lost (queue : Queue α) (actions : List (Action α)) :
    let monitor := (around queue).run actions
    0 < monitor.asleep →
      monitor.queue.closed = false ∧ monitor.queue.items.length ≤ monitor.notified ∧
        (monitor.queue.items ≠ [] →
          ∃ consumer ∈ monitor.consumers, consumer.isNotified = true) := by
  intro monitor asleep
  obtain ⟨opened, covered⟩ := run_attended queue actions asleep
  refine ⟨opened, covered, fun some_item => ?_⟩
  have positive : 0 < monitor.notified :=
    Nat.lt_of_lt_of_le (List.length_pos_iff.mpr some_item) covered
  exact List.countP_pos_iff.mp positive

/-- Three consumers fall asleep. Two items come, and somebody who did not sleep takes one. -/
def crowded : List (Action Nat) :=
  [.ask .endless, .ask .limited, .ask .endless, .turn 0, .turn 1, .turn 2,
    .pushBack 7 1, .pushFront 8 1, .ask .none, .turn 3]

/-- One of the three goes on sleeping while an item is there, for which two others come. -/
theorem sleeper_not_needed :
    let monitor := (around Queue.empty).run crowded
    monitor.asleep = 1 ∧ monitor.notified = 2 ∧ monitor.queue = ⟨[7], false⟩ ∧
      ∃ consumer ∈ monitor.consumers, consumer.isNotified = true := by
  intro monitor
  have asleep : monitor.asleep = 1 := by decide
  obtain ⟨_, _, coming⟩ := no_wakeup_lost Queue.empty crowded (by rw [asleep]; decide)
  exact ⟨asleep, by decide, by decide, coming (by decide)⟩

end Monitor

end RelayTree
