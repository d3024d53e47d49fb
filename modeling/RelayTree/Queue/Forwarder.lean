import RelayTree.Failure
import RelayTree.Queue.Store

/-!
# Forwarders and mergers

A forwarder is a loop of its own that moves messages from one queue to another.
Its steps are the points at which other loops may come in between: looking
whether it shall go on, taking a message or giving up waiting for one, looking
whether the input was closed, and adding the message to the output. A merger runs
one forwarder for each of its inputs.
-/
namespace RelayTree

/-- Where a forwarder's loop stands. Between any two stages another loop may come in. -/
inductive Stage where
  /-- There is no loop. -/
  | stopped
  /-- About to look whether the loop shall go on. -/
  | ready
  /-- Waiting for a message. -/
  | polling
  /-- Waited in vain, about to look whether the input is closed. -/
  | emptyHanded
  /-- Has taken a message and not yet added it to the output. -/
  | holding (message : Message)
  /-- The loop has ended by itself or on request. -/
  | ended
deriving DecidableEq, Repr

/-- What a forwarder has taken and not yet added to its output. It is one message at most. -/
def Stage.held : Stage → List Message
  | .holding message => [message]
  | _ => []

/-- A forwarder between two queues. While `active` is set the loop goes on. -/
structure Forwarder where
  input : QueueId
  output : QueueId
  active : Bool
  stage : Stage
deriving DecidableEq, Repr

namespace Forwarder

/-- A forwarder that was not started, with nothing in its hands. -/
def between (input output : QueueId) : Forwarder := ⟨input, output, false, .stopped⟩

/-- Whether the forwarder was started and not stopped. A loop that ended by itself
still counts. -/
def isRunning (forwarder : Forwarder) : Bool := forwarder.stage ≠ .stopped

/-- One step of the loop. Waiting ends with a message when there is one; it may
also end in vain while the input is empty. A message for a closed output is lost. -/
def step (forwarder : Forwarder) (store : QueueStore) : Forwarder × QueueStore :=
  match forwarder.stage with
  | .stopped => (forwarder, store)
  | .ended => (forwarder, store)
  | .ready =>
    ({ forwarder with stage := if forwarder.active then .polling else .ended }, store)
  | .polling =>
    match store.take forwarder.input with
    | (some message, store) => ({ forwarder with stage := .holding message }, store)
    | (none, store) => ({ forwarder with stage := .emptyHanded }, store)
  | .emptyHanded =>
    ({ forwarder with
        stage := if (store.read forwarder.input).closed then .ended else .ready }, store)
  | .holding message =>
    ({ forwarder with stage := .ready }, (store.pushBack? forwarder.output message).getD store)

/-- Several steps in a row, with nobody else coming in between. -/
def steps : Nat → Forwarder → QueueStore → Forwarder × QueueStore
  | 0, forwarder, store => (forwarder, store)
  | count + 1, forwarder, store =>
    let (forwarder, store) := forwarder.step store
    steps count forwarder store

/-- Whether further steps only wait. A loop with a message in its hands is not idle, and neither is
one that is about to end. -/
def isIdle (forwarder : Forwarder) (store : QueueStore) : Bool :=
  match forwarder.stage with
  | .stopped | .ended => true
  | .holding _ => false
  | .ready | .polling | .emptyHanded =>
    forwarder.active && (store.read forwarder.input).isQuiet

/-- The forwarder with its loop started: it is told to go on, and about to look whether it shall. -/
def launched (forwarder : Forwarder) : Forwarder :=
  { forwarder with active := true, stage := .ready }

/-- Start the loop, unless it was started before and not stopped. -/
def start (forwarder : Forwarder) : Except Failure Forwarder :=
  if forwarder.isRunning then .error (.alreadyStarted .forwarder) else .ok forwarder.launched

/-- The most steps a loop takes after it was told to end: it may still take a
message and add it to the output. -/
def stepsToEnd : Nat := 4

/-- Tell the loop to end and wait until it has. A message that it holds by then is added to the
output. -/
def stop (forwarder : Forwarder) (store : QueueStore) :
    Except Failure (Forwarder × QueueStore) :=
  if forwarder.isRunning then
    let (ended, store) := steps stepsToEnd { forwarder with active := false } store
    .ok ({ ended with stage := .stopped }, store)
  else .error (.notStarted .forwarder)

end Forwarder

/-- Several forwarders into one queue, and whether they were started together. -/
structure Merger where
  forwarders : List Forwarder
  running : Bool
deriving DecidableEq, Repr

namespace Merger

/-- A merger that was not started, with a forwarder for each input in the order given. -/
def into (inputs : List QueueId) (output : QueueId) : Merger :=
  ⟨inputs.map (Forwarder.between · output), false⟩

/-- Start forwarders in order, up to the first that runs already. That one is the failure, and no
forwarder counts as started then. -/
def startAll : List Forwarder → Except Failure (List Forwarder)
  | [] => .ok []
  | forwarder :: rest => do
    let started ← forwarder.start
    return started :: (← startAll rest)

/-- Start every forwarder, unless the merger was started before and not stopped. -/
def start (merger : Merger) : Except Failure Merger :=
  if merger.running then .error (.alreadyStarted .merger)
  else (startAll merger.forwarders).map fun started => ⟨started, true⟩

/-- Stop forwarders in order; one that does not run is left alone. Each ends before the next one is
told to. -/
def stopAll : List Forwarder → QueueStore → List Forwarder × QueueStore
  | [], store => ([], store)
  | forwarder :: rest, store =>
    let (stopped, store) :=
      match forwarder.stop store with
      | .ok result => result
      | .error _ => (forwarder, store)
    let (others, store) := stopAll rest store
    (stopped :: others, store)

/-- Stop every forwarder of a merger that was started, after which it may be started again. -/
def stop (merger : Merger) (store : QueueStore) : Except Failure (Merger × QueueStore) :=
  if merger.running then
    let (stopped, store) := stopAll merger.forwarders store
    .ok (⟨stopped, false⟩, store)
  else .error (.notStarted .merger)

/-- One step of the forwarder at a position. At a position without forwarder nothing happens. -/
def stepAt (merger : Merger) (index : Nat) (store : QueueStore) : Merger × QueueStore :=
  match merger.forwarders[index]? with
  | none => (merger, store)
  | some forwarder =>
    let (stepped, store) := forwarder.step store
    ({ merger with forwarders := merger.forwarders.set index stepped }, store)

/-- Whether further steps of all forwarders only wait, as long as nothing comes to their inputs. -/
def isIdle (merger : Merger) (store : QueueStore) : Bool :=
  merger.forwarders.all (·.isIdle store)

end Merger

end RelayTree
