import RelayTree.Dispatcher.Basic

/-!
# The workers of a dispatcher

The steps of the workers between which anything else may happen: each forwarder of
the merger has its own, and the dispatch loop takes a message in one step and
routes it in the next. What comes of a routed message is counted; a failure does
not end the loop.
-/
namespace RelayTree

namespace Station

/-- Change the workers, or take them away. Whether the dispatcher runs is changed by this as
well. -/
def withWorkers (station : Station) (workers : Option Workers) : Station :=
  { station with dispatcher := { station.dispatcher with workers := workers } }

/-- One step of the dispatch loop: take a message, route the one that was taken, or find that
nothing will come any more. -/
def loopStep (station : Station) : Station :=
  match station.dispatcher.workers with
  | none => station
  | some workers =>
    match workers.loop with
    | .done => station
    | .holding message =>
      ((station.withWorkers (some { workers with loop := .waiting })).route message).state
    | .waiting =>
      match (station.queues.read station.dispatcher.inbound).head with
      | .waiting => station
      | .finished => station.withWorkers (some { workers with loop := .done })
      | .item message =>
        { station.withWorkers (some { workers with loop := .holding message }) with
          queues := station.queues.update station.dispatcher.inbound Queue.tail }

/-- One step of a forwarder of the merger. It may come between the two steps of the loop for a
message. -/
def mergeStep (station : Station) (index : Nat) : Station :=
  match station.dispatcher.workers with
  | none => station
  | some workers =>
    let (merger, queues) := workers.merger.stepAt index station.queues
    { station.withWorkers (some { workers with merger := merger }) with queues := queues }

/-- Whether further steps of the workers only wait, as long as nobody else does anything. -/
def isIdle (station : Station) : Bool :=
  match station.dispatcher.workers with
  | none => true
  | some workers =>
    workers.merger.isIdle station.queues &&
      match workers.loop with
      | .done => true
      | .holding _ => false
      | .waiting => (station.queues.read station.dispatcher.inbound).isQuiet

end Station

end RelayTree
