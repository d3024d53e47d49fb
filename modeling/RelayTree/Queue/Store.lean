import RelayTree.Message.Basic
import RelayTree.Queue.Basic
import RelayTree.SortedMap

/-!
# Shared queues

Routers, tables and workers hold the same queue by its identity; the contents of
all queues stand in one store. A queue that was never created reads as empty.
-/
namespace RelayTree

/-- The identity of a queue of messages. Whoever holds it can use the queue, and several may. -/
structure QueueId where
  index : Nat
deriving DecidableEq, Repr, Inhabited

namespace QueueId

/-- Queues are ordered by their identities, which is the order of their creation. -/
instance : Ord QueueId := ⟨compareOn QueueId.index⟩

/-- The order of identities is transitive, as that of numbers is. -/
instance : Std.TransOrd QueueId := inferInstanceAs (Std.TransCmp (compareOn QueueId.index))

/-- Identities that compare as equal are equal, so a store has one state for each queue. -/
instance : Std.LawfulEqOrd QueueId where
  compare_self := fun {a} => by
    change compare a.index a.index = .eq
    exact Std.LawfulEqCmp.compare_eq_iff_eq.2 rfl
  eq_of_compare := fun {a b} same => by
    change compare a.index b.index = .eq at same
    have index : a.index = b.index := Std.LawfulEqCmp.compare_eq_iff_eq.1 same
    cases a
    cases b
    cases index
    rfl

end QueueId

/-- The contents of every queue, and the first identity that is still free. -/
structure QueueStore where
  queues : SortedMap QueueId (Queue Message)
  next : Nat
deriving DecidableEq, Inhabited

namespace QueueStore

/-- No queue yet, and the first identity still free. -/
def empty : QueueStore := ⟨.empty, 0⟩

/-- The state of a queue. One that was never created reads as open and empty, so reading cannot
fail. -/
def read (store : QueueStore) (id : QueueId) : Queue Message := (store.queues.get? id).getD .empty

/-- Set the state of a queue, and leave all others as they are. -/
def write (store : QueueStore) (id : QueueId) (queue : Queue Message) : QueueStore :=
  { store with queues := store.queues.insert id queue }

/-- Change the state of a queue by what it is now. -/
def update (store : QueueStore) (id : QueueId) (change : Queue Message → Queue Message) :
    QueueStore :=
  store.write id (change (store.read id))

/-- Create an open queue without items, under the first identity that is free. -/
def create (store : QueueStore) : QueueId × QueueStore :=
  let id : QueueId := ⟨store.next⟩
  (id, { store.write id .empty with next := store.next + 1 })

/-- Add a message at the end of a queue; a closed one refuses it. -/
def pushBack? (store : QueueStore) (id : QueueId) (message : Message) : Option QueueStore :=
  ((store.read id).pushBack? message).map (store.write id)

/-- Add a message at the head of a queue; a closed one refuses it. -/
def pushFront? (store : QueueStore) (id : QueueId) (message : Message) : Option QueueStore :=
  ((store.read id).pushFront? message).map (store.write id)

/-- Take the first message off a queue, if there is one. The answer does not tell an open queue
without messages from a closed one. -/
def take (store : QueueStore) (id : QueueId) : Option Message × QueueStore :=
  match (store.read id).items with
  | [] => (none, store)
  | first :: _ => (some first, store.update id Queue.tail)

/-- Take everything off a queue at once, in order, and leave it as closed or open as it was. -/
def drain (store : QueueStore) (id : QueueId) : List Message × QueueStore :=
  ((store.read id).items, store.update id Queue.drained)

/-- Close a queue. What is in it stays there for whoever reads it. -/
def close (store : QueueStore) (id : QueueId) : QueueStore := store.update id Queue.close

/-- Open a queue again, with whatever was left in it. -/
def reopen (store : QueueStore) (id : QueueId) : QueueStore := store.update id Queue.reopen

/-- How many messages wait in all queues together. It serves to say that no message appears or is
lost. -/
def total (store : QueueStore) : Nat :=
  store.queues.values.foldl (fun count queue => count + queue.length) 0

/-- A queue reads as what was written to it last, and other queues read as before. -/
@[simp] theorem read_write (store : QueueStore) (id other : QueueId) (queue : Queue Message) :
    (store.write id queue).read other = if other = id then queue else store.read other := by
  by_cases same : other = id <;> simp [read, write, same]

/-- After a change a queue reads as the change of what it was, and other queues read as before. -/
@[simp] theorem read_update (store : QueueStore) (id other : QueueId)
    (change : Queue Message → Queue Message) :
    (store.update id change).read other =
      if other = id then change (store.read id) else store.read other := by
  simp [update]

end QueueStore

end RelayTree
