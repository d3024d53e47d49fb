import RelayTree.Queue.Forwarder

/-!
# A forwarder among others

A forwarder has neither of its queues for itself. Producers add messages to the input and
close it whenever they like, between any two steps of the loop; and whoever reads the output,
or closes it, does so at any time as well. A ferry is a forwarder that was started, with the
queues, and with a record of what its input has accepted and of what its loop has handed to
the output. No action looks at the record.

A forwarder may lead from a queue back into the same queue. What its loop hands on is then
accepted by the input once more.
-/
namespace RelayTree

namespace Forwarder

/-- What the next step hands on and what thereby comes back into the input. -/
def returning (forwarder : Forwarder) (store : QueueStore) : List Message :=
  if forwarder.output = forwarder.input ∧ (store.read forwarder.input).closed = false then
    forwarder.stage.held
  else []

end Forwarder

/-- A forwarder that works, the queues, and the record of what went in and out. -/
structure Ferry where
  forwarder : Forwarder
  queues : QueueStore
  /-- What was in the input at the start, and what it has accepted since. -/
  accepted : List Message
  /-- What the loop has handed to the output, in this order. -/
  handed : List Message
deriving DecidableEq

namespace Ferry

/-- What happens at once. The input is reached by its producers only, while the output and all other
queues may come to be in any state. -/
inductive Action where
  /-- The loop takes a step. -/
  | work
  /-- A producer adds a message at the end of the input. -/
  | pushBack (message : Message)
  /-- A producer adds a message before all others in the input. -/
  | pushFront (message : Message)
  /-- A producer closes the input. -/
  | close
  /-- Others bring another queue than the input into some state. -/
  | elsewhere (id : QueueId) (queue : Queue Message)
deriving DecidableEq

/-- A forwarder that was just started between two queues. What waits in the input by then counts as
accepted. -/
def launch (input output : QueueId) (queues : QueueStore) : Ferry :=
  ⟨(Forwarder.between input output).launched, queues, (queues.read input).items, []⟩

/-- The state of the input as the queues have it now, which the loop shares with the producers. -/
def input (ferry : Ferry) : Queue Message := ferry.queues.read ferry.forwarder.input

/-- The loop takes a step, and what it hands on and what comes back by this goes on record. -/
def work (ferry : Ferry) : Ferry where
  forwarder := (ferry.forwarder.step ferry.queues).1
  queues := (ferry.forwarder.step ferry.queues).2
  accepted := ferry.accepted ++ ferry.forwarder.returning ferry.queues
  handed := ferry.handed ++ ferry.forwarder.stage.held

/-- Somebody tries to add a message to the input. A message that is refused does not go on
record. -/
def offer (ferry : Ferry) (message : Message) : Option QueueStore → Ferry
  | none => ferry
  | some queues => { ferry with queues := queues, accepted := ferry.accepted ++ [message] }

/-- The ferry after an action. Others cannot reach the input by an action that is meant for other
queues. -/
def after (ferry : Ferry) : Action → Ferry
  | .work => ferry.work
  | .pushBack message =>
    ferry.offer message (ferry.queues.pushBack? ferry.forwarder.input message)
  | .pushFront message =>
    ferry.offer message (ferry.queues.pushFront? ferry.forwarder.input message)
  | .close => { ferry with queues := ferry.queues.close ferry.forwarder.input }
  | .elsewhere id queue =>
    if id = ferry.forwarder.input then ferry
    else { ferry with queues := ferry.queues.write id queue }

/-- The ferry after all actions, one after the other, in whatever order loop and producers come. -/
def run (ferry : Ferry) (actions : List Action) : Ferry := actions.foldl after ferry

end Ferry

end RelayTree
