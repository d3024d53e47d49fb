/-!
# Queues that can be closed

A queue is unbounded: adding never waits. A closed queue refuses items but keeps
the ones it has, so its consumers empty it and then learn that nothing more will
come. It can be opened again.
-/
namespace RelayTree

/-- The waiting items, the next one first, and whether more are refused. There is no bound on how
many wait. -/
structure Queue (α : Type) where
  items : List α
  closed : Bool
deriving DecidableEq, Repr

/-- What a consumer finds at the head of a queue: an item, nothing yet, or
nothing ever again. -/
inductive Head (α : Type) where
  | item (first : α)
  | waiting
  | finished
deriving DecidableEq, Repr

namespace Queue

variable {α : Type}

/-- The open queue without items, as every queue is created. -/
def empty : Queue α := ⟨[], false⟩

/-- A queue that is read before it was created is open and empty. -/
instance : Inhabited (Queue α) := ⟨empty⟩

/-- Add an item at the end; a closed queue refuses it, and a refusal changes nothing. -/
def pushBack? (queue : Queue α) (item : α) : Option (Queue α) :=
  if queue.closed then none else some { queue with items := queue.items ++ [item] }

/-- Add an item before all others; a closed queue refuses it here as at the end. -/
def pushFront? (queue : Queue α) (item : α) : Option (Queue α) :=
  if queue.closed then none else some { queue with items := item :: queue.items }

/-- What a consumer finds. A closed queue still gives what it has, and only when it is empty nothing
more will come. -/
def head (queue : Queue α) : Head α :=
  match queue.items with
  | first :: _ => .item first
  | [] => if queue.closed then .finished else .waiting

/-- The queue without its first item. Taking does not ask whether the queue is closed. -/
def tail (queue : Queue α) : Queue α := { queue with items := queue.items.tail }

/-- The queue after everything was taken from it, as closed or open as it was. -/
def drained (queue : Queue α) : Queue α := { queue with items := [] }

/-- The queue that refuses items and keeps those it has. Closing it again changes nothing. -/
def close (queue : Queue α) : Queue α := { queue with closed := true }

/-- The queue that takes items again, behind those it kept while it was closed. -/
def reopen (queue : Queue α) : Queue α := { queue with closed := false }

/-- The number of items that wait, in an open queue or in a closed one. -/
def length (queue : Queue α) : Nat := queue.items.length

/-- Whether a consumer would have to wait: there is no item, and there may still be one. -/
def isQuiet (queue : Queue α) : Bool := queue.items.isEmpty && !queue.closed

/-- A queue's state as diagnostics show it, in which the items themselves do not appear. -/
def text (queue : Queue α) : String :=
  "SharedQueue \x7b len: " ++ queue.length.repr ++ ", closed: "
    ++ (if queue.closed then "true" else "false") ++ " \x7d"

end Queue

end RelayTree
