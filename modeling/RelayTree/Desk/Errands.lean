import RelayTree.Desk
import RelayTree.Switchboard.Requests

/-!
# Errands at a desk

Everything that is done at the desk of a host by others than its routers, as data: requests to
the switchboard, clients that come and go, and whatever the holders of a queue do with it. An
errand that fails may have done part of its work, and the next one finds the desk as it is then.
-/
namespace RelayTree

/-- What is done at a desk by anybody but the routers of its host. Holders of a queue may change it
in any way, as nothing is known of them. -/
inductive Errand where
  /-- Ask the switchboard for something. -/
  | serve (request : Request)
  /-- Connect a user. -/
  | connect (key : UserKey) (device : String)
  /-- Disconnect a user. -/
  | disconnect (key : UserKey)
  /-- Add to a queue, take from it, close it, open it again. -/
  | handle (queue : QueueId) (change : Queue Message → Queue Message)
  /-- Create a queue for another purpose. -/
  | createQueue

namespace Desk

/-- The desk and the queues after an errand, whether it succeeded or failed. -/
def run (desk : Desk) (queues : QueueStore) : Errand → Desk × QueueStore
  | .serve request =>
    let (board, queues) := (desk.board.serve queues request).state
    ({ desk with board := board }, queues)
  | .connect key device =>
    let (users, queues) := (desk.users.connect queues key device).state
    ({ desk with users := users }, queues)
  | .disconnect key =>
    let (users, queues) := (desk.users.disconnect queues key).state
    ({ desk with users := users }, queues)
  | .handle queue change => (desk, queues.update queue change)
  | .createQueue => (desk, queues.create.2)

/-- The desk and the queues after errands in order, each of which finds what those before it
left. -/
def runAll (desk : Desk) (queues : QueueStore) (errands : List Errand) : Desk × QueueStore :=
  errands.foldl (fun state errand => state.1.run state.2 errand) (desk, queues)

/-- The desk of a host and the queues after errands, where some queues were there before the
desk. -/
def after (host : String) (queues : QueueStore) (errands : List Errand) : Desk × QueueStore :=
  let (desk, queues) := create host queues
  desk.runAll queues errands

/-- A history of two parts is the second part from where the first one ends. -/
theorem run_all_append (desk : Desk) (queues : QueueStore) (first second : List Errand) :
    desk.runAll queues (first ++ second) =
      (desk.runAll queues first).1.runAll (desk.runAll queues first).2 second :=
  List.foldl_append

/-- No errand renames the host, so routes are looked up under one name throughout. -/
theorem run_all_host (desk : Desk) (queues : QueueStore) (errands : List Errand) :
    (desk.runAll queues errands).1.host = desk.host := by
  induction errands generalizing desk queues with
  | nil => rfl
  | cons errand rest inductionHypothesis =>
    refine (inductionHypothesis (desk.run queues errand).1 _).trans ?_
    cases errand <;> rfl

/-- The host of a desk after any errands is the one that it was made for. -/
@[simp] theorem after_host (host : String) (queues : QueueStore) (errands : List Errand) :
    (after host queues errands).1.host = host := run_all_host ..

end Desk

end RelayTree
