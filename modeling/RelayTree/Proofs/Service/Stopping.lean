import RelayTree.Proofs.Service.Calls

/-!
# A stop that is left to the workers

`stop` says at once what a stop leaves behind. In service it goes through phases, and waits
for the workers. Left to these it gets to the same end, which is `stop_gets`: each forwarder
ends within four steps after it was told to; and the loop, which takes one message after the
other from the closed queue, routes what a stop routes that has taken all of them off at
once.
-/

namespace RelayTree

/-- A turn of a worker or of the call that is worked on. Runs of such moves alone are runs in which
nobody interferes. -/
def Move.isTurn : Move → Bool
  | .gather _ | .dispatch | .advance => true
  | .push .. | .call _ | .ask _ | .elsewhere .. => false

namespace Forwarder

/-- After it was told to, the loop ends within four steps, wherever it stands: the longest way is to
take one more message and to give it on. -/
theorem steps_end {forwarder : Forwarder} (halted : forwarder.active = false)
    (started : forwarder.stage ≠ .stopped) (store : QueueStore) :
    (steps stepsToEnd forwarder store).1.stage = .ended := by
  cases stage : forwarder.stage with
  | stopped => exact absurd stage started
  | ended => simp [steps, stepsToEnd, step, stage]
  | ready => simp [steps, stepsToEnd, step, stage, halted]
  | holding message => simp [steps, stepsToEnd, step, stage, halted]
  | polling =>
    cases items : (store.read forwarder.input).items with
    | nil =>
      cases closed : (store.read forwarder.input).closed <;>
        simp [steps, stepsToEnd, step, stage, halted, QueueStore.take, items, closed]
    | cons message rest =>
      simp [steps, stepsToEnd, step, stage, halted, QueueStore.take, items]
  | emptyHanded =>
    cases closed : (store.read forwarder.input).closed <;>
      simp [steps, stepsToEnd, step, stage, halted, closed]

/-- To stop a forwarder is to tell it, to let it take its steps and to take leave of it. -/
theorem stop_steps {forwarder : Forwarder} (started : forwarder.stage ≠ .stopped)
    (store : QueueStore) :
    forwarder.stop store = .ok
      ((steps stepsToEnd forwarder.halted store).1.dismissed,
        (steps stepsToEnd forwarder.halted store).2) := by
  have running : forwarder.isRunning = true := by simp [isRunning, started]
  rw [stop, if_pos running]
  rfl

end Forwarder

/-- Stopping forwarders loses none of them, so there are as many stopped ones as there were. -/
theorem Merger.stop_all_length (forwarders : List Forwarder) (store : QueueStore) :
    (stopAll forwarders store).1.length = forwarders.length := by
  induction forwarders generalizing store with
  | nil => rfl
  | cons forwarder rest inductionHypothesis =>
    rw [stopAll, List.length_cons, List.length_cons, inductionHypothesis]

namespace QueueStore

variable {store : QueueStore} {id : QueueId} {queue : Queue Message}

/-- What was put can be read, whatever the queue held before and whether it was there. -/
theorem read_put_self : (store.put id (some queue)).read id = queue := by simp [read]

/-- What was put can be changed, which is to put the changed queue. -/
theorem update_put (change : Queue Message → Queue Message) :
    (store.put id (some queue)).update id change = store.put id (some (change queue)) := by
  rw [update, read_put_self, write_eq_put, put_put]

end QueueStore

namespace Station

/-- A station with certain forwarders and queues, and with a loop in a certain stage. -/
def crewed (station : Station) (forwarders : List Forwarder) (running : Bool) (loop : LoopStage)
    (queues : QueueStore) : Station :=
  { station.withWorkers (some ⟨⟨forwarders, running⟩, loop⟩) with queues := queues }

section Crew

variable {station : Station} {ahead rest : List Forwarder} {forwarder : Forwarder}
  {running : Bool} {loop : LoopStage} {queues : QueueStore}

/-- A call changes the forwarder at the position that it has come to. -/
theorem adjust_crewed (change : Forwarder → Forwarder) :
    (station.crewed (ahead ++ forwarder :: rest) running loop queues).adjust ahead.length change =
      station.crewed (ahead ++ change forwarder :: rest) running loop queues := by
  have here : (ahead ++ forwarder :: rest).modify ahead.length change =
      ahead ++ change forwarder :: rest := by
    induction ahead with
    | nil => rfl
    | cons first others inductionHypothesis => simpa using inductionHypothesis
  simp [adjust, crewed, withWorkers, here]

/-- The forwarder at the position takes its step, and the others stand still. -/
theorem merge_crewed :
    (station.crewed (ahead ++ forwarder :: rest) running loop queues).mergeStep ahead.length =
      station.crewed (ahead ++ (forwarder.step queues).1 :: rest) running loop
        (forwarder.step queues).2 := by
  simp [mergeStep, crewed, withWorkers, Merger.stepAt]

/-- Whether the forwarder at the position has ended can be read off the forwarder itself. -/
theorem ended_crewed :
    (station.crewed (ahead ++ forwarder :: rest) running loop queues).hasEnded ahead.length =
      (forwarder.stage = .ended : Bool) := by
  simp [hasEnded, gatherers, crewed, withWorkers]

end Crew

/-- Routing several messages has nothing to do with the workers either: they can be set before it or
after it. -/
theorem route_each_with_workers (workers : Option Workers) (messages : List Message)
    (station : Station) :
    (station.withWorkers workers).routeEach messages =
      (station.routeEach messages).withWorkers workers := by
  induction messages generalizing station with
  | nil => rfl
  | cons message rest inductionHypothesis =>
    rw [routeEach, routeEach, route_with_workers]
    exact inductionHypothesis _

section Inbound

variable {station : Station} {queue : Queue Message}

/-- Opening the inbound queue again is a change of one entry, so that it can be told with the
others. -/
theorem reopen_put :
    (station.withQueue station.dispatcher.inbound (some queue)).reopenInbound =
      station.withQueue station.dispatcher.inbound (some queue.reopen) := by
  have reopened : (station.queues.put station.dispatcher.inbound (some queue)).update
      station.dispatcher.inbound Queue.reopen =
      station.queues.put station.dispatcher.inbound (some queue.reopen) :=
    QueueStore.update_put Queue.reopen
  rw [withQueue, withQueue, reopenInbound, QueueStore.reopen]
  exact congrArg (fun queues => ({ station with queues := queues } : Station)) reopened

/-- A loop that is left to come to its end routes what it holds and what is in the queue. -/
theorem finish_put {loop : LoopStage} (going : loop ≠ .done)
    (apart : station.dispatcher.inbound ∉ station.desk.outlets) :
    (station.withQueue station.dispatcher.inbound (some queue)).finishLoop loop =
      ((station.routeEach (loop.held ++ queue.items)).withWorkers none).withQueue
        station.dispatcher.inbound (some queue.drained) := by
  have drained : (station.queues.put station.dispatcher.inbound (some queue)).drain
      station.dispatcher.inbound =
        (queue.items, station.queues.put station.dispatcher.inbound (some queue.drained)) := by
    rw [QueueStore.drain, QueueStore.read_put_self, QueueStore.update_put]
  have taken : (station.withQueue station.dispatcher.inbound (some queue)).finishLoop loop =
      ((station.withWorkers none).withQueue station.dispatcher.inbound
        (some queue.drained)).routeEach (loop.held ++ queue.items) := by
    cases loop with
    | done => exact absurd rfl going
    | waiting | holding =>
      simp only [finishLoop, withQueue, drained]
      rfl
  rw [taken]
  refine (route_each_put _ _ (station.withWorkers none) apart).trans ?_
  rw [route_each_with_workers]

end Inbound

section Loop

variable {station : Station} {id : QueueId} {merger : Merger} {message : Message}
  {rest : List Message}

/-- The loop takes a message off the closed inbound queue. Being closed does not keep it from what
is in there. -/
theorem loop_takes :
    ((station.withQueue station.dispatcher.inbound (some ⟨message :: rest, true⟩)).withWorkers
        (some ⟨merger, .waiting⟩)).loopStep =
      (station.withQueue station.dispatcher.inbound (some ⟨rest, true⟩)).withWorkers
        (some ⟨merger, .holding message⟩) := by
  simp [loopStep, withWorkers, withQueue, QueueStore.read_put_self, QueueStore.update_put,
    Queue.head, Queue.tail]

/-- It routes the message, whatever is in that queue, since routing does not look at a queue that is
no outlet. -/
theorem loop_routes (apart : id ∉ station.desk.outlets) (entry : Option (Queue Message)) :
    ((station.withQueue id entry).withWorkers (some ⟨merger, .holding message⟩)).loopStep =
      ((station.route message).state.withQueue id entry).withWorkers
        (some ⟨merger, .waiting⟩) := by
  have routed : ((station.withQueue id entry).withWorkers (some ⟨merger, .waiting⟩)).route message =
      ((station.route message).within (·.withQueue id entry)).within
        (·.withWorkers (some ⟨merger, .waiting⟩)) := by
    rw [route_with_workers, route_put apart]
  exact congrArg Outcome.state routed

/-- It ends where the closed queue is empty, and it takes one more turn for that. -/
theorem loop_ends :
    ((station.withQueue station.dispatcher.inbound (some ⟨[], true⟩)).withWorkers
        (some ⟨merger, .waiting⟩)).loopStep =
      (station.withQueue station.dispatcher.inbound (some ⟨[], true⟩)).withWorkers
        (some ⟨merger, .done⟩) := by
  simp [loopStep, withWorkers, withQueue, QueueStore.read_put_self, Queue.head]

end Loop

/-- What a stop leaves behind: the messages that are in the inbound queue after the
forwarders have ended are routed, and it is empty and open. -/
theorem stop_state {station : Station} {forwarders : List Forwarder} {loop : LoopStage}
    (working : station.dispatcher.workers = some ⟨⟨forwarders, true⟩, loop⟩)
    (going : loop ≠ .done) (apart : station.dispatcher.inbound ∉ station.desk.outlets) :
    let queues := (Merger.stopAll forwarders station.queues).2
    let left := loop.held ++ (queues.read station.dispatcher.inbound).items
    station.stop.state =
      ((({ station with queues := queues } : Station).routeEach left).withWorkers none).withQueue
        station.dispatcher.inbound (some .empty) := by
  intro queues left
  let idle : Station := { station with queues := queues }
  let stopped : Workers := ⟨⟨(Merger.stopAll forwarders station.queues).1, false⟩, loop⟩
  let last : Queue Message := (queues.read station.dispatcher.inbound).close
  have merger : station.stopMerger ⟨⟨forwarders, true⟩, loop⟩ =
      idle.withWorkers (some stopped) := by
    simp only [stopMerger, Merger.stop, if_true]
    rfl
  let ended : Station := (idle.withWorkers (some stopped)).routeEach left
  have whole : station.stop.state =
      (((idle.withWorkers (some stopped)).withQueue station.dispatcher.inbound
        (some last)).finishLoop loop).reopenInbound := by
    simp only [stop, working, merger]
    rfl
  have finished : ((idle.withWorkers (some stopped)).withQueue station.dispatcher.inbound
      (some last)).finishLoop loop =
      (ended.withWorkers none).withQueue station.dispatcher.inbound (some last.drained) :=
    @finish_put (idle.withWorkers (some stopped)) last loop going apart
  have inbound : (ended.withWorkers none).dispatcher.inbound = station.dispatcher.inbound :=
    (keeps_route_each (idle.withWorkers (some stopped)) left).inbound
  have opened := @reopen_put (ended.withWorkers none) last.drained
  rw [inbound] at opened
  rw [whole, finished, opened]
  have routed : ended = (idle.routeEach left).withWorkers (some stopped) :=
    route_each_with_workers ..
  rw [routed]
  rfl

end Station

namespace Service

variable {service : Service} {station next : Station} {phase onward : Phase}
  {reload later : Option Reload}

/-- Left to its workers and to the call that is worked on, a service can get to a station and
a phase. -/
def GetsTo (service : Service) (station : Station) (phase : Phase) (reload : Option Reload) :
    Prop :=
  ∃ turns, (∀ move ∈ turns, move.isTurn = true) ∧ (service.run turns).station = station ∧
    (service.run turns).phase = phase ∧ (service.run turns).reload = reload

/-- A service that is there already gets there, without taking a turn. -/
theorem gets_here (place : service.station = station) (stage : service.phase = phase)
    (call : service.reload = reload) : service.GetsTo station phase reload :=
  ⟨[], by simp, place, stage, call⟩

/-- With one turn more a service gets to where it gets from after that turn. -/
theorem gets_turn {move : Move} (turn : move.isTurn = true)
    (rest : (service.after move).GetsTo station phase reload) :
    service.GetsTo station phase reload := by
  obtain ⟨turns, all, ends⟩ := rest
  refine ⟨move :: turns, fun other member => ?_, ends⟩
  rcases List.mem_cons.mp member with rfl | member
  · exact turn
  · exact all other member

/-- What gets to a point, and from every service at that point further on, gets further on. The
turns of both are taken one after the other. -/
theorem gets_trans (first : service.GetsTo station phase reload)
    (second : ∀ middle : Service, middle.station = station → middle.phase = phase →
      middle.reload = reload → middle.GetsTo next onward later) :
    service.GetsTo next onward later := by
  obtain ⟨turns, all, place, stage, call⟩ := first
  obtain ⟨others, rest, ends⟩ := second _ place stage call
  have whole : service.run (turns ++ others) = (service.run turns).run others := by
    rw [run, run, run, List.foldl_append]
  refine ⟨turns ++ others, fun move member => ?_, whole ▸ ends⟩
  rcases List.mem_append.mp member with member | member
  · exact all move member
  · exact rest move member

/-! ## Stopping the forwarders -/

section Forwarders

variable {ahead rest : List Forwarder} {forwarder : Forwarder} {running : Bool} {loop : LoopStage}
  {queues : QueueStore}

/-- A forwarder takes several steps, by induction on their number, and each of them is one turn. The
others stand aside with what they have, before it and behind it in the list. -/
theorem steps_get {door : Door} (position : door.position = ahead.length) (count : Nat) :
    ∀ {forwarder : Forwarder} {queues : QueueStore} {service : Service},
      service.station = station.crewed (ahead ++ forwarder :: rest) running loop queues →
        service.GetsTo
          (station.crewed (ahead ++ (forwarder.steps count queues).1 :: rest) running loop
            (forwarder.steps count queues).2) service.phase service.reload := by
  induction count with
  | zero => exact fun crew => gets_here crew rfl rfl
  | succ count inductionHypothesis =>
    intro forwarder queues service crew
    have stepped : (service.after (.gather door)).station =
        station.crewed (ahead ++ (forwarder.step queues).1 :: rest) running loop
          (forwarder.step queues).2 := by
      change service.station.mergeStep door.position = _
      rw [crew, position, Station.merge_crewed]
    have turn : (Move.gather door).isTurn = true := rfl
    exact gets_turn turn (inductionHypothesis stepped)

/-- One forwarder is told to end, ends, and is taken leave of. It is given four steps, the last of
which may do nothing. -/
theorem halt_gets {door : Door} (position : door.position = ahead.length)
    (crew : service.station = station.crewed (ahead ++ forwarder :: rest) running loop queues)
    (stopping : service.phase = .stopping ahead.length) (started : forwarder.stage ≠ .stopped) :
    service.GetsTo
      (station.crewed
        (ahead ++ (forwarder.halted.steps Forwarder.stepsToEnd queues).1.dismissed :: rest) running
        loop (forwarder.halted.steps Forwarder.stepsToEnd queues).2)
      (.stopping (ahead.length + 1)) service.reload := by
  have turn : Move.advance.isTurn = true := rfl
  have present : ahead.length < service.station.gatherers.length := by
    simp [crew, Station.gatherers, Station.crewed, Station.withWorkers]
  have told : service.after .advance =
      { service with
        station := station.crewed (ahead ++ forwarder.halted :: rest) running loop queues
        phase := .joining ahead.length } := by
    rw [← Station.adjust_crewed, ← crew]
    simp only [after, advance, stopping, present, if_true]
  have ends : (forwarder.halted.steps Forwarder.stepsToEnd queues).1.stage = .ended :=
    @Forwarder.steps_end forwarder.halted rfl started queues
  refine gets_turn turn (gets_trans (steps_get position Forwarder.stepsToEnd
    (congrArg Service.station told)) fun middle crew joining reload => ?_)
  rw [told] at joining reload
  have ended : middle.station.hasEnded ahead.length = true := by
    rw [crew, Station.ended_crewed, ends]
    rfl
  have left : middle.after .advance =
      { middle with
        station := middle.station.adjust ahead.length Forwarder.dismissed
        phase := .stopping (ahead.length + 1) } := by
    simp only [after, advance, joining, ended, if_true]
  refine gets_turn turn (gets_here ?_ ?_ ?_)
  · rw [left, crew, Station.adjust_crewed]
  · rw [left]
  · rw [left]
    exact reload

/-- All of them are stopped, in order, by induction on those that are left. A stop does the same at
once. -/
theorem stop_all_gets (doors : ∀ position < ahead.length + rest.length,
      ∃ door : Door, door.position = position)
    (crew : service.station = station.crewed (ahead ++ rest) running loop queues)
    (stopping : service.phase = .stopping ahead.length)
    (started : ∀ forwarder ∈ rest, forwarder.stage ≠ .stopped) :
    service.GetsTo
      (station.crewed (ahead ++ (Merger.stopAll rest queues).1) running loop
        (Merger.stopAll rest queues).2)
      (.stopping (ahead.length + rest.length)) service.reload := by
  induction rest generalizing ahead queues service with
  | nil => exact gets_here crew stopping rfl
  | cons forwarder rest inductionHypothesis =>
    obtain ⟨door, position⟩ := doors ahead.length (by simp)
    have first := started forwarder List.mem_cons_self
    refine gets_trans (halt_gets position crew stopping first) fun middle crew stopping reload => ?_
    have more : ahead.length + 1 + rest.length = ahead.length + (forwarder :: rest).length := by
      rw [List.length_cons]
      omega
    have stopped : Merger.stopAll (forwarder :: rest) queues =
        ((forwarder.halted.steps Forwarder.stepsToEnd queues).1.dismissed ::
            (Merger.stopAll rest (forwarder.halted.steps Forwarder.stepsToEnd queues).2).1,
          (Merger.stopAll rest (forwarder.halted.steps Forwarder.stepsToEnd queues).2).2) := by
      rw [Merger.stopAll, Forwarder.stop_steps first]
    have others := @inductionHypothesis middle
      (ahead ++ [(forwarder.halted.steps Forwarder.stepsToEnd queues).1.dismissed])
      (forwarder.halted.steps Forwarder.stepsToEnd queues).2
    simp only [List.length_append, List.length_singleton, List.append_assoc,
      List.singleton_append, more] at others
    rw [stopped, ← reload]
    exact others doors crew stopping fun other member =>
      started other (List.mem_cons_of_mem _ member)

end Forwarders

/-! ## Stopping -/

/-- The loop routes the message that it holds, and the inbound queue stays aside. What is routed
goes to outlets, so it makes no difference that the queue has the rest in it. -/
theorem routing_turn {merger : Merger} {message : Message} {items : List Message}
    (apart : station.dispatcher.inbound ∉ station.desk.outlets)
    (crew : service.station = (station.withQueue station.dispatcher.inbound
      (some ⟨items, true⟩)).withWorkers (some ⟨merger, .holding message⟩)) :
    let routed := (station.route message).state
    routed.dispatcher.inbound = station.dispatcher.inbound ∧
      routed.dispatcher.inbound ∉ routed.desk.outlets ∧
      (service.after .dispatch).station = (routed.withQueue routed.dispatcher.inbound
        (some ⟨items, true⟩)).withWorkers (some ⟨merger, .waiting⟩) := by
  intro routed
  have keeps := Station.keeps_route station message
  refine ⟨keeps.inbound, ?_, ?_⟩
  · rw [keeps.inbound, keeps.desk.outlets]
    exact apart
  · change service.station.loopStep = _
    rw [crew, Station.loop_routes apart, keeps.inbound]

/-- The loop routes what is in the closed queue, one message after the other, and ends. Each message
takes two turns, one to take it and one to route it, and the last turn finds the queue closed and
empty. -/
theorem drain_gets (merger : Merger) (items : List Message) :
    ∀ {station : Station} {service : Service},
      station.dispatcher.inbound ∉ station.desk.outlets →
      service.station = (station.withQueue station.dispatcher.inbound
        (some ⟨items, true⟩)).withWorkers (some ⟨merger, .waiting⟩) →
      service.GetsTo
        (((station.routeEach items).withQueue station.dispatcher.inbound
          (some ⟨[], true⟩)).withWorkers (some ⟨merger, .done⟩)) service.phase service.reload := by
  have turn : Move.dispatch.isTurn = true := rfl
  induction items with
  | nil =>
    intro station service _ crew
    refine gets_turn turn (gets_here ?_ rfl rfl)
    change service.station.loopStep = _
    rw [crew, Station.loop_ends]
    rfl
  | cons message rest inductionHypothesis =>
    intro station service apart crew
    have taken : (service.after .dispatch).station =
        (station.withQueue station.dispatcher.inbound (some ⟨rest, true⟩)).withWorkers
          (some ⟨merger, .holding message⟩) := by
      change service.station.loopStep = _
      rw [crew, Station.loop_takes]
    obtain ⟨inbound, still, routed⟩ := routing_turn apart taken
    rw [← inbound]
    exact gets_turn turn (gets_turn turn (inductionHypothesis still routed))

/-- Before that it routes what it holds, so that what it held comes before what waits in the
queue. -/
theorem finish_gets {merger : Merger} {loop : LoopStage} {items : List Message}
    (apart : station.dispatcher.inbound ∉ station.desk.outlets) (going : loop ≠ .done)
    (crew : service.station = (station.withQueue station.dispatcher.inbound
      (some ⟨items, true⟩)).withWorkers (some ⟨merger, loop⟩)) :
    service.GetsTo
      (((station.routeEach (loop.held ++ items)).withQueue station.dispatcher.inbound
        (some ⟨[], true⟩)).withWorkers (some ⟨merger, .done⟩)) service.phase service.reload := by
  cases loop with
  | done => exact absurd rfl going
  | waiting => exact drain_gets merger items apart crew
  | holding message =>
    have turn : Move.dispatch.isTurn = true := rfl
    obtain ⟨inbound, still, routed⟩ := routing_turn apart crew
    rw [← inbound]
    exact gets_turn turn (drain_gets merger items still routed)

/-- When the loop has ended the workers go, and the inbound queue is opened again. These are two
turns of the call, after which it is settled or has a reload to go on with. -/
theorem leave_gets {merger : Merger}
    (crew : service.station = (station.withQueue station.dispatcher.inbound
      (some ⟨[], true⟩)).withWorkers (some ⟨merger, .done⟩))
    (draining : service.phase = .draining) :
    service.GetsTo ((station.withWorkers none).withQueue station.dispatcher.inbound (some .empty))
      (if service.reload.isSome then .replacing else .settled) service.reload := by
  have turn : Move.advance.isTurn = true := rfl
  have done : service.station.loopDone = true := by
    simp [crew, Station.loopDone, Station.withWorkers]
  have left : service.after .advance =
      { service with station := service.station.withWorkers none, phase := .reopening } := by
    simp only [after, advance, draining, done, if_true]
  have opened : ((service.after .advance).after .advance).station =
      (service.station.withWorkers none).reopenInbound := by
    rw [left]
    rfl
  refine gets_turn turn (gets_turn turn (gets_here ?_ ?_ ?_))
  · rw [opened, crew]
    exact @Station.reopen_put (station.withWorkers none) _
  · rw [left]
    rfl
  · rw [left]
    rfl

/-- With all forwarders stopped, the inbound queue is closed, and the loop does the rest. What is
left is what the loop holds and what is in the queue, in this order. -/
theorem close_gets {forwarders : List Forwarder} {running : Bool} {loop : LoopStage}
    {queues : QueueStore} (apart : station.dispatcher.inbound ∉ station.desk.outlets)
    (going : loop ≠ .done) (crew : service.station = station.crewed forwarders running loop queues)
    (stopping : service.phase = .stopping forwarders.length) :
    let left := loop.held ++ (queues.read station.dispatcher.inbound).items
    service.GetsTo
      (((({ station with queues := queues } : Station).routeEach left).withWorkers none).withQueue
        station.dispatcher.inbound (some .empty))
      (if service.reload.isSome then .replacing else .settled) service.reload := by
  intro left
  let rested : Station := { station with queues := queues }
  have still : rested.dispatcher.inbound ∉ rested.desk.outlets := apart
  have turn : Move.advance.isTurn = true := rfl
  have all : ¬ forwarders.length < service.station.gatherers.length := by
    rw [crew]
    exact Nat.lt_irrefl _
  have closing : service.after .advance = { service with phase := .closing } := by
    simp only [after, advance, stopping, all, if_false]
  have closed : (service.after .advance).after .advance =
      { service with station := service.station.closeInbound, phase := .draining } := by
    rw [closing]
    rfl
  have shut : ((service.after .advance).after .advance).station =
      (rested.withQueue rested.dispatcher.inbound
        (some ⟨(queues.read station.dispatcher.inbound).items, true⟩)).withWorkers
          (some ⟨⟨forwarders, running⟩, loop⟩) := by
    rw [closed, crew]
    rfl
  refine gets_turn turn (gets_turn turn (gets_trans (finish_gets still going shut)
    fun last done draining kept => ?_))
  rw [closed] at draining kept
  have inbound : (rested.routeEach left).dispatcher.inbound = rested.dispatcher.inbound :=
    (Station.keeps_route_each rested left).inbound
  have crew : last.station = ((rested.routeEach left).withQueue
      (rested.routeEach left).dispatcher.inbound (some ⟨[], true⟩)).withWorkers
        (some ⟨⟨forwarders, running⟩, .done⟩) := by
    rw [inbound]
    exact done
  have leaves := leave_gets crew draining
  rw [kept] at leaves
  have same : (rested.routeEach left).dispatcher.inbound = station.dispatcher.inbound := inbound
  exact same ▸ leaves

/-- At the beginning of a stop every forwarder has a loop, and the dispatch loop goes on. There are
three doors at most, so each forwarder stands behind one. -/
theorem stopping_workers (orderly : service.Orderly) (stopping : service.phase = .stopping 0) :
    ∃ forwarders loop, service.station.dispatcher.workers = some ⟨⟨forwarders, true⟩, loop⟩ ∧
      loop ≠ .done ∧ (∀ forwarder ∈ forwarders, forwarder.stage ≠ .stopped) ∧
      ∀ position < forwarders.length, ∃ door : Door, door.position = position := by
  have staffed := orderly.staffed
  have idle := orderly.idle
  rw [stopping] at staffed idle
  obtain ⟨⟨⟨forwarders, running⟩, loop⟩, working⟩ :
      ∃ workers, service.station.dispatcher.workers = some workers := by
    cases working : service.station.dispatcher.workers with
    | none => simp [Phase.Staffed, Station.isAtWork, working] at staffed
    | some workers => exact ⟨workers, rfl⟩
  obtain ⟨rfl, going⟩ : running = true ∧ loop ≠ .done := by
    simpa [Phase.Staffed, Station.isAtWork, working] using staffed
  have gatherers : service.station.gatherers = forwarders := by
    simp [Station.gatherers, working]
  refine ⟨forwarders, loop, working, going, ?_, ?_⟩
  · intro forwarder member stopped
    rw [← gatherers] at member
    obtain ⟨position, _, found⟩ := List.mem_iff_getElem.mp member
    have waits := idle position forwarder (List.getElem?_eq_some_iff.mpr ⟨_, found⟩)
    exact Nat.not_lt_zero position (waits.mp stopped)
  · intro position below
    rw [← gatherers] at below
    have wired := (orderly.wired position _ (List.getElem?_eq_getElem below)).1
    obtain _ | _ | _ | _ := position
    · exact ⟨.modules, rfl⟩
    · exact ⟨.clients, rfl⟩
    · exact ⟨.server, rfl⟩
    · cases wired

/-- From its beginning a stop gets to what a stop leaves behind: the forwarders end, the queue is
closed, the loop routes what is left, and the queue is opened again. -/
theorem stop_gets (orderly : service.Orderly) (stopping : service.phase = .stopping 0) :
    service.GetsTo service.station.stop.state
      (if service.reload.isSome then .replacing else .settled) service.reload := by
  have apart : service.station.dispatcher.inbound ∉ service.station.desk.outlets :=
    orderly.apart.aside .inbound
  obtain ⟨forwarders, loop, working, going, started, doors⟩ := stopping_workers orderly stopping
  have crew : service.station =
      service.station.crewed ([] ++ forwarders) true loop service.station.queues := by
    rw [List.nil_append, Station.crewed, Station.withWorkers, ← working]
  have positions : ∀ position < ([] : List Forwarder).length + forwarders.length,
      ∃ door : Door, door.position = position := by
    intro position below
    exact doors position (by simpa using below)
  rw [Station.stop_state working going apart]
  refine gets_trans (stop_all_gets positions crew stopping started)
    fun middle ended stopping reload => ?_
  have length : middle.phase =
      .stopping (Merger.stopAll forwarders service.station.queues).1.length := by
    rw [stopping, Merger.stop_all_length, List.length_nil, Nat.zero_add]
  rw [← reload]
  exact close_gets apart going ended length

end Service

end RelayTree
