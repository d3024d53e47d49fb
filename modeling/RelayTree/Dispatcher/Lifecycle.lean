import RelayTree.Dispatcher.Loop

/-!
# Starting and stopping a dispatcher

A dispatcher that was stopped has routed everything that was in its inbound queue:
first the merger is stopped, so that nothing new arrives, then the queue is closed,
which lets the loop end once the queue is empty, and then it is opened again for
the next start.
-/
namespace RelayTree

namespace Station

/-- What is logged when the strategies are started, in the order in which the dispatcher knows
them. -/
def strategyEvents (station : Station) : List Event :=
  [Strategy.onHost, .upward, .downward].map station.exchange.startEvent

/-- The merger of all messages that the host has to route, from its modules, its clients and its
server. -/
def newMerger (station : Station) : Merger :=
  .into station.desk.sources station.dispatcher.inbound

/-- Start the dispatcher. There must be a tree, and it must not run already; otherwise nothing
changes. -/
def start (station : Station) : Outcome Station Unit :=
  if station.dispatcher.isRunning then .fail station (.alreadyStarted .dispatcher)
  else if station.dispatcher.book.tree.isNone then .fail station .routingTableNotBuilt
  else
    match station.newMerger.start with
    | .error failure => (Outcome.fail station failure).after station.strategyEvents
    | .ok merger =>
      (Outcome.ok (station.withWorkers (some ⟨merger, .waiting⟩)) ()).after
        (station.strategyEvents ++ [.dispatcherStarted station.desk.host])

/-- Stop the merger. What its forwarders hold is put into the inbound queue, which is open by
then. -/
def stopMerger (station : Station) (workers : Workers) : Station :=
  match workers.merger.stop station.queues with
  | .ok (merger, queues) =>
    { station.withWorkers (some { workers with merger := merger }) with queues := queues }
  | .error _ => station

/-- Close the inbound queue, so that the loop ends once it has emptied it. -/
def closeInbound (station : Station) : Station :=
  { station with queues := station.queues.close station.dispatcher.inbound }

/-- Let the loop come to its end: it routes what it holds and what is left in the
closed inbound queue. A loop that ended before takes nothing any more. -/
def finishLoop (station : Station) (loop : LoopStage) : Station :=
  let ended := station.withWorkers none
  match loop with
  | .done => ended
  | .waiting | .holding _ =>
    let (left, queues) := station.queues.drain station.dispatcher.inbound
    { ended with queues := queues }.routeEach (loop.held ++ left)

/-- Open the inbound queue again, for those who add messages before the next start. -/
def reopenInbound (station : Station) : Station :=
  { station with queues := station.queues.reopen station.dispatcher.inbound }

/-- Stop the dispatcher. All that was in the inbound queue has been routed by the end of it. -/
def stop (station : Station) : Outcome Station Unit :=
  match station.dispatcher.workers with
  | none => .fail station (.notStarted .dispatcher)
  | some workers =>
    ⟨.ok (), ((station.stopMerger workers).closeInbound.finishLoop workers.loop).reopenInbound,
      [.dispatcherStopped station.desk.host]⟩

end Station

end RelayTree
