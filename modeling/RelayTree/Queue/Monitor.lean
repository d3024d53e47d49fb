import RelayTree.Queue.Basic

/-!
# A queue and those who wait for it

`Queue` says what is in a queue. Here it is put together with its consumers. One lock guards the
queue, and whoever holds it does one thing: adds an item, takes one or all, closes the queue, opens
it again, or finds nothing to take and falls asleep, which also gives the lock back. An item that is
added wakes one sleeper up, if there is one, and closing the queue wakes all of them up.

A consumer that was woken up needs the lock again before it can look at the queue, and until then
anybody else may come first. It may also wake up for no reason at all, or because its time is up; in
the latter case it takes what it finds and does not sleep again.

A monitor is the queue with all consumers that ever asked for an item.
-/
namespace RelayTree

/-- How long a consumer waits for an item when it finds none. It says so when it asks, and keeps to
it. -/
inductive Patience where
  /-- Until there is one or the queue is closed. -/
  | endless
  /-- The same, but not beyond some time. -/
  | limited
  /-- Not at all. -/
  | none
deriving DecidableEq, Repr

/-- How far a consumer has come. All waiting is between the second and the third of these. -/
inductive Vigil (α : Type) where
  /-- It has not looked at the queue yet. -/
  | asking
  /-- It sleeps, and nobody has woken it up. -/
  | asleep
  /-- It was woken up, whether by a notification or not, and has not looked at the queue again. -/
  | woken (notified timeIsUp : Bool)
  /-- It was given an item, or nothing. -/
  | served (item : Option α)
deriving DecidableEq, Repr

/-- Somebody who takes an item, or has taken one, or has left without. -/
structure Consumer (α : Type) where
  patience : Patience
  vigil : Vigil α
deriving DecidableEq, Repr

namespace Consumer

variable {α : Type}

/-- It sleeps, and nobody has woken it up. Only such a consumer is changed by a notification. -/
def isAsleep (consumer : Consumer α) : Bool :=
  match consumer.vigil with
  | .asleep => true
  | _ => false

/-- It was woken up by a notification and has not looked at the queue since. -/
def isNotified (consumer : Consumer α) : Bool :=
  match consumer.vigil with
  | .woken notified _ => notified
  | _ => false

/-- Wake it up if it sleeps. A notification that meets somebody who is awake is lost on that one. -/
def notify (consumer : Consumer α) : Consumer α :=
  if consumer.isAsleep then { consumer with vigil := .woken true false } else consumer

/-- Wake it up for no reason, as a condition variable may do at any time. -/
def stir (consumer : Consumer α) : Consumer α :=
  if consumer.isAsleep then { consumer with vigil := .woken false false } else consumer

/-- Its time is up, if it waits for a limited time. It may have been notified by then, and then it
still counts as notified. -/
def lapse (consumer : Consumer α) : Consumer α :=
  match consumer.patience, consumer.vigil with
  | .limited, .asleep => { consumer with vigil := .woken false true }
  | .limited, .woken notified _ => { consumer with vigil := .woken notified true }
  | _, _ => consumer

/-- Look at the queue. Who finds nothing yet sleeps, unless it does not wait any more. -/
def look (consumer : Consumer α) (queue : Queue α) (leaves : Bool) : Consumer α × Queue α :=
  match queue.head with
  | .item first => ({ consumer with vigil := .served (some first) }, queue.tail)
  | .finished => ({ consumer with vigil := .served none }, queue)
  | .waiting =>
    ({ consumer with vigil := if leaves then .served none else .asleep }, queue)

/-- A consumer that is awake gets the lock and looks at the queue. One that sleeps or was served
does nothing with it. -/
def turn (consumer : Consumer α) (queue : Queue α) : Consumer α × Queue α :=
  match consumer.vigil with
  | .asking => consumer.look queue (consumer.patience = .none)
  | .woken _ timeIsUp => consumer.look queue timeIsUp
  | .asleep | .served _ => (consumer, queue)

end Consumer

/-- A queue and everybody who asked for an item, in the order in which they came. -/
structure Monitor (α : Type) where
  queue : Queue α
  consumers : List (Consumer α)
deriving DecidableEq, Repr

namespace Monitor

variable {α : Type}

/-- What happens at once, each while holding the lock or without any need of it. Which sleeper a
notification wakes up is part of the action, so that every choice is covered. -/
inductive Action (α : Type) where
  /-- A producer adds an item at the end. Of the sleepers it wakes up the chosen one, or the first
  one if that does not sleep. -/
  | pushBack (item : α) (chosen : Nat)
  /-- A producer adds an item before all others. -/
  | pushFront (item : α) (chosen : Nat)
  /-- Somebody asks for an item. -/
  | ask (patience : Patience)
  /-- The consumer with a number gets the lock. -/
  | turn (number : Nat)
  /-- The consumer with a number wakes up for no reason. -/
  | stir (number : Nat)
  /-- The time of the consumer with a number is up. -/
  | lapse (number : Nat)
  /-- Somebody takes everything. -/
  | drain
  | close
  | reopen
deriving DecidableEq, Repr

/-- A queue that nobody has asked for anything yet, with whatever is in it. -/
def around (queue : Queue α) : Monitor α := ⟨queue, []⟩

/-- How many sleep, and were not woken up. These are the ones that could be kept from an item. -/
def asleep (monitor : Monitor α) : Nat := monitor.consumers.countP Consumer.isAsleep

/-- How many were notified, and have not looked at the queue since. Each of them is sure to take an
item if there is one. -/
def notified (monitor : Monitor α) : Nat := monitor.consumers.countP Consumer.isNotified

/-- Put a consumer in the place with a number; all others keep theirs. -/
def put (monitor : Monitor α) (number : Nat) (consumer : Consumer α) : Monitor α :=
  { monitor with consumers := monitor.consumers.set number consumer }

/-- Change the consumer with a number, if there is one. The queue is not touched. -/
def change (monitor : Monitor α) (number : Nat) (work : Consumer α → Consumer α) : Monitor α :=
  match monitor.consumers[number]? with
  | none => monitor
  | some consumer => monitor.put number (work consumer)

/-- The sleeper that one notification wakes up: the chosen one, or the first one. -/
def sleeper? (monitor : Monitor α) (chosen : Nat) : Option Nat :=
  if monitor.consumers[chosen]?.any Consumer.isAsleep then some chosen
  else monitor.consumers.findIdx? Consumer.isAsleep

/-- Wake one sleeper up, if there is one. Where nobody sleeps the notification is gone. -/
def notifyOne (monitor : Monitor α) (chosen : Nat) : Monitor α :=
  match monitor.sleeper? chosen with
  | none => monitor
  | some number => monitor.change number Consumer.notify

/-- Wake all sleepers up, which is what closing the queue does. -/
def notifyAll (monitor : Monitor α) : Monitor α :=
  { monitor with consumers := monitor.consumers.map Consumer.notify }

/-- An item was added, unless the queue refused it. Nobody is woken up for an item that was
refused. -/
def added (monitor : Monitor α) (chosen : Nat) : Option (Queue α) → Monitor α
  | none => monitor
  | some queue => { monitor with queue := queue }.notifyOne chosen

/-- The consumer with a number gets the lock, and may leave with an item. -/
def turn (monitor : Monitor α) (number : Nat) : Monitor α :=
  match monitor.consumers[number]? with
  | none => monitor
  | some consumer =>
    { monitor.put number (consumer.turn monitor.queue).1 with
      queue := (consumer.turn monitor.queue).2 }

/-- The monitor after an action. Draining and opening again wake nobody up: neither leaves a sleeper
anything to take. -/
def after (monitor : Monitor α) : Action α → Monitor α
  | .pushBack item chosen => monitor.added chosen (monitor.queue.pushBack? item)
  | .pushFront item chosen => monitor.added chosen (monitor.queue.pushFront? item)
  | .ask patience => { monitor with consumers := monitor.consumers ++ [⟨patience, .asking⟩] }
  | .turn number => monitor.turn number
  | .stir number => monitor.change number Consumer.stir
  | .lapse number => monitor.change number Consumer.lapse
  | .drain => { monitor with queue := monitor.queue.drained }
  | .close => { monitor with queue := monitor.queue.close }.notifyAll
  | .reopen => { monitor with queue := monitor.queue.reopen }

/-- The monitor after all actions, one after the other. Every way in which producers and consumers
can come to the lock is such a list. -/
def run (monitor : Monitor α) (actions : List (Action α)) : Monitor α := actions.foldl after monitor

end Monitor

end RelayTree
