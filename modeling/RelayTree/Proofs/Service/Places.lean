import RelayTree.Dispatcher.Service
import RelayTree.Proofs.Dispatcher.Aside

/-!
# The places of a message at a station

Between a door and its strategy a message is in one of a few places: a queue behind a door,
the hand of a forwarder, the hand of the loop. Here is what each step of the workers does
to these places. It takes that the four queues are different ones and that nothing is
passed on by them, which is `Apart`; then a change of one queue is no change of another.
-/

namespace RelayTree

/-- Behind each door with a forwarder there is another one, so the position of a forwarder tells its
door. -/
theorem Door.position_injective {one other : Door} (same : one.position = other.position) :
    one = other := by
  cases one <;> cases other <;> first | rfl | cases same

/-- A loop that has ended holds nothing, as it routed what it held before it looked for more. -/
theorem LoopStage.held_done {loop : LoopStage} (ended : loop = .done) : loop.held = [] := by
  rw [ended, held]

namespace Station

/-- The queue behind a door, with its contents as they are now. -/
def queue (station : Station) (door : Door) : Queue Message :=
  station.queues.read (station.intake door)

/-- What the forwarder behind a door has in its hand. Where there is no forwarder there is no hand,
which is as good as an empty one. -/
def hand (station : Station) (door : Door) : List Message :=
  match station.gatherers[door.position]? with
  | none => []
  | some forwarder => forwarder.stage.held

/-- What the loop has in its hand, and nothing where there is no loop. -/
def loopHand (station : Station) : List Message :=
  match station.dispatcher.workers with
  | none => []
  | some workers => workers.loop.held

/-- The merger was started, and the loop goes on, so that a message behind a door gets on by
itself. -/
def isAtWork (station : Station) : Bool :=
  match station.dispatcher.workers with
  | none => false
  | some workers => workers.merger.running && workers.loop ≠ .done

/-- The queues behind the doors are four, and none of them is an outlet. So strategies do not put
anything back into them, and a change of one is no change of another. -/
structure Apart (station : Station) : Prop where
  distinct : ∀ {one other : Door}, station.intake one = station.intake other → one = other
  aside : ∀ door, station.intake door ∉ station.desk.outlets

variable {station before after : Station} {door other : Door}

/-! ## Queues -/

/-- The same queues are apart where the same outlets are, whatever else happened at the station. -/
theorem apart_kept (intake : after.intake = before.intake)
    (outlets : after.desk.outlets = before.desk.outlets) (apart : before.Apart) : after.Apart :=
  ⟨fun same => apart.distinct (intake ▸ same), fun door => intake ▸ outlets ▸ apart.aside door⟩

/-- What an operation that does not look at the tables keeps: the queues behind the doors are the
same ones. -/
theorem keeps_intake (keeps : before.Keeps after) : after.intake = before.intake := by
  obtain ⟨channels, desk⟩ := keeps.desk
  funext door
  cases door with
  | modules => simp only [intake, desk]
  | clients => simp only [intake, desk]
  | server => simp only [intake, desk]
  | inbound => exact keeps.inbound

/-- The first three queues are those that the forwarders take from, in the order of the
forwarders. -/
theorem sources_same (intake : after.intake = before.intake) :
    after.desk.sources = before.desk.sources :=
  congrArg (fun intake : Door → QueueId => [intake .modules, intake .clients, intake .server])
    intake

/-- A station that keeps its desk and its inbound queue keeps the queues apart. -/
theorem keeps_apart (keeps : before.Keeps after) (apart : before.Apart) : after.Apart :=
  apart_kept (keeps_intake keeps) keeps.desk.outlets apart

/-- A change of the queue behind a door does not show behind any other. Doors have different queues,
and this is the only place where that is needed for a change. -/
theorem queue_update (apart : station.Apart) (door other : Door)
    (change : Queue Message → Queue Message) :
    ({ station with queues := station.queues.update (station.intake door) change } : Station).queue
        other =
      if other = door then change (station.queue door) else station.queue other := by
  change (station.queues.update (station.intake door) change).read (station.intake other) = _
  rw [QueueStore.read_update]
  by_cases same : other = door
  · rw [same, if_pos rfl, if_pos rfl]
    rfl
  · rw [if_neg fun intake => same (apart.distinct intake), if_neg same]
    rfl

/-- Routing changes none of the queues behind the doors, since a message is only put on outlets. -/
theorem queue_route (apart : station.Apart) (message : Message) (door : Door) :
    (station.route message).state.queue door = station.queue door := by
  rw [queue, queue, keeps_intake (keeps_route station message)]
  exact route_leaves (apart.aside door) message

/-! ## Forwarders -/

/-- The forwarders, with the one at the position changed and the others as they were. -/
theorem gatherers_adjust (station : Station) (position : Nat) (change : Forwarder → Forwarder) :
    (station.adjust position change).gatherers = station.gatherers.modify position change := by
  unfold adjust
  cases running : station.dispatcher.workers with
  | none => simp [gatherers, running]
  | some workers => simp [gatherers, running, withWorkers]

/-- Each forwarder is the one that was there, or was changed if it is the one at the position. -/
theorem adjusted {position index : Nat} {change : Forwarder → Forwarder} {later : Forwarder}
    (found : (station.adjust position change).gatherers[index]? = some later) :
    ∃ earlier, station.gatherers[index]? = some earlier ∧
      later = if position = index then change earlier else earlier := by
  rw [gatherers_adjust, List.getElem?_modify] at found
  obtain ⟨earlier, present, same⟩ := Option.map_eq_some_iff.mp found
  exact ⟨earlier, present, same.symm⟩

/-- A change of a forwarder leaves the queues behind the doors the same ones. -/
@[simp] theorem intake_adjust (station : Station) (position : Nat)
    (change : Forwarder → Forwarder) :
    (station.adjust position change).intake = station.intake := by
  unfold adjust
  cases station.dispatcher.workers <;> rfl

/-- It leaves the desk as it is. -/
@[simp] theorem desk_adjust (station : Station) (position : Nat) (change : Forwarder → Forwarder) :
    (station.adjust position change).desk = station.desk := by
  unfold adjust
  cases station.dispatcher.workers <;> rfl

/-- It leaves all queues with what is in them. -/
@[simp] theorem queues_adjust (station : Station) (position : Nat)
    (change : Forwarder → Forwarder) :
    (station.adjust position change).queues = station.queues := by
  unfold adjust
  cases station.dispatcher.workers <;> rfl

/-- It leaves each queue behind a door with what is in it. -/
@[simp] theorem queue_adjust (station : Station) (position : Nat) (change : Forwarder → Forwarder) :
    (station.adjust position change).queue = station.queue := by
  funext door
  rw [queue, queue, queues_adjust, intake_adjust]

/-- It leaves the loop in its stage, the dispatcher running or not, and the counters as they are. -/
@[simp] theorem loop_adjust (station : Station) (position : Nat) (change : Forwarder → Forwarder) :
    (station.adjust position change).loopHand = station.loopHand ∧
      (station.adjust position change).loopDone = station.loopDone ∧
      (station.adjust position change).isAtWork = station.isAtWork ∧
      (station.adjust position change).dispatcher.isRunning = station.dispatcher.isRunning ∧
      (station.adjust position change).dispatcher.counters = station.dispatcher.counters := by
  unfold adjust
  cases running : station.dispatcher.workers <;>
    simp [loopHand, loopDone, isAtWork, Dispatcher.isRunning, withWorkers, running]

/-- A change that leaves a hand as it was, as starting a forwarder and telling it to end do, leaves
all hands as they were. -/
theorem hand_adjust_same {position : Nat} {change : Forwarder → Forwarder}
    (same : ∀ forwarder, station.gatherers[position]? = some forwarder →
      (change forwarder).stage.held = forwarder.stage.held) (door : Door) :
    (station.adjust position change).hand door = station.hand door := by
  rw [hand, hand, gatherers_adjust, List.getElem?_modify]
  cases found : station.gatherers[door.position]? with
  | none => rfl
  | some forwarder =>
    by_cases here : position = door.position
    · subst here
      simp [same forwarder found]
    · simp [here]

/-- A change of one hand does not show in any other, since each door has a position of its own. -/
theorem hand_adjust {forwarder : Forwarder}
    (present : station.gatherers[door.position]? = some forwarder)
    (change : Forwarder → Forwarder) (other : Door) :
    (station.adjust door.position change).hand other =
      if other = door then (change forwarder).stage.held else station.hand other := by
  rw [hand, gatherers_adjust, List.getElem?_modify]
  by_cases same : other = door
  · subst same
    simp [present]
  · have elsewhere : door.position ≠ other.position := fun position =>
      same (Door.position_injective position.symm)
    rw [if_neg same, hand]
    cases station.gatherers[other.position]? <;> simp [elsewhere]

/-- A step of a forwarder changes the forwarder and the queues, and so is a change at its position
together with new queues. -/
theorem merge_step_adjust {position : Nat} {forwarder : Forwarder}
    (present : station.gatherers[position]? = some forwarder) :
    station.mergeStep position =
      { station.adjust position fun _ => (forwarder.step station.queues).1 with
        queues := (forwarder.step station.queues).2 } := by
  cases running : station.dispatcher.workers with
  | none => simp [gatherers, running] at present
  | some workers =>
    have found : workers.merger.forwarders[position]? = some forwarder := by
      simpa [gatherers, running] using present
    simp [mergeStep, adjust, running, Merger.stepAt, found, List.set_eq_modify]

/-- It does not change the loop, nor whether the dispatcher runs, nor what was counted. -/
theorem merge_step_loop {position : Nat} {forwarder : Forwarder}
    (present : station.gatherers[position]? = some forwarder) :
    (station.mergeStep position).loopHand = station.loopHand ∧
      (station.mergeStep position).loopDone = station.loopDone ∧
      (station.mergeStep position).isAtWork = station.isAtWork ∧
      (station.mergeStep position).dispatcher.isRunning = station.dispatcher.isRunning ∧
      (station.mergeStep position).dispatcher.counters = station.dispatcher.counters := by
  rw [merge_step_adjust present]
  exact loop_adjust ..

/-- Every forwarder has the same ends afterwards, and a loop if it had one. Only one of them took a
step, and a step changes neither of its ends. -/
theorem merge_step_forwarders {position index : Nat} {forwarder later : Forwarder}
    (present : station.gatherers[position]? = some forwarder)
    (found : (station.mergeStep position).gatherers[index]? = some later) :
    ∃ earlier, station.gatherers[index]? = some earlier ∧ later.input = earlier.input ∧
      later.output = earlier.output ∧ (later.stage = .stopped ↔ earlier.stage = .stopped) := by
  rw [merge_step_adjust present] at found
  obtain ⟨earlier, there, same⟩ := adjusted found
  refine ⟨earlier, there, ?_⟩
  by_cases here : position = index
  · subst here
    obtain rfl : forwarder = earlier := Option.some.inj (present.symm.trans there)
    rw [same, if_pos rfl]
    obtain ⟨input, output⟩ := forwarder.step_ends station.queues
    exact ⟨input, output, forwarder.step_stopped_iff station.queues⟩
  · rw [same, if_neg here]
    exact ⟨rfl, rfl, Iff.rfl⟩

/-- Where there is no forwarder there is no step, and the station is the same. This covers a station
without workers as well as a number that is too high. -/
theorem merge_step_absent {position : Nat} (absent : station.gatherers[position]? = none) :
    station.mergeStep position = station := by
  cases running : station.dispatcher.workers with
  | none => simp [mergeStep, running]
  | some workers =>
    have missing : workers.merger.forwarders[position]? = none := by
      simpa [gatherers, running] using absent
    have same : station.withWorkers (some workers) = station := by
      rw [← running]
      rfl
    simp [mergeStep, running, Merger.stepAt, missing, same]

/-! ## The loop -/

/-- What a step of the loop may do, and what it routes by that. -/
inductive LoopStep (station : Station) :
    Station → List (Message × Except Failure Delivery) → Prop where
  /-- It does nothing. -/
  | wait : LoopStep station station []
  /-- It takes the first message off the inbound queue. -/
  | take {workers : Workers} {message : Message} {rest : List Message}
      (running : station.dispatcher.workers = some workers) (free : workers.loop = .waiting)
      (first : (station.queue .inbound).items = message :: rest) :
      LoopStep station
        { station.withWorkers (some { workers with loop := .holding message }) with
          queues := station.queues.update (station.intake .inbound) Queue.tail } []
  /-- It comes to its end, where the inbound queue is closed and empty. -/
  | finish {workers : Workers} (running : station.dispatcher.workers = some workers)
      (free : workers.loop = .waiting) (closed : (station.queue .inbound).closed = true)
      (empty : (station.queue .inbound).items = []) :
      LoopStep station (station.withWorkers (some { workers with loop := .done })) []
  /-- It routes the message that it holds. -/
  | route {workers : Workers} {message : Message}
      (running : station.dispatcher.workers = some workers)
      (full : workers.loop = .holding message) :
      LoopStep station
        ((station.route message).state.withWorkers (some { workers with loop := .waiting }))
        [(message, (station.route message).result)]

/-- It does nothing else, by cases on the stage of the loop and on what it finds in the inbound
queue. -/
theorem loop_step_cases (station : Station) :
    station.LoopStep station.loopStep station.routing := by
  cases running : station.dispatcher.workers with
  | none =>
    have step : station.loopStep = station := by simp [loopStep, running]
    have quiet : station.routing = [] := by simp [routing, running]
    rw [step, quiet]
    exact .wait
  | some workers =>
    have routes : station.routing =
        workers.loop.held.map fun message => (message, (station.route message).result) := by
      simp [routing, running]
    cases loop : workers.loop with
    | done =>
      have step : station.loopStep = station := by simp [loopStep, running, loop]
      rw [step, routes, loop]
      exact .wait
    | holding message =>
      have step : station.loopStep =
          (station.route message).state.withWorkers (some { workers with loop := .waiting }) := by
        simp [loopStep, running, loop, route_with_workers, Outcome.within]
      rw [step, routes, loop]
      exact .route running loop
    | waiting =>
      rw [routes, loop]
      cases items : (station.queue .inbound).items with
      | cons message rest =>
        have head : (station.queues.read station.dispatcher.inbound).head = .item message := by
          have first : (station.queues.read station.dispatcher.inbound).items = message :: rest :=
            items
          simp [Queue.head, first]
        have step : station.loopStep =
            { station.withWorkers (some { workers with loop := .holding message }) with
              queues := station.queues.update (station.intake .inbound) Queue.tail } := by
          simp [loopStep, running, loop, head, intake]
        rw [step]
        exact .take running loop items
      | nil =>
        have nothing : (station.queues.read station.dispatcher.inbound).items = [] := items
        cases closed : (station.queue .inbound).closed with
        | true =>
          have head : (station.queues.read station.dispatcher.inbound).head = .finished := by
            have shut : (station.queues.read station.dispatcher.inbound).closed = true := closed
            simp [Queue.head, nothing, shut]
          have step : station.loopStep =
              station.withWorkers (some { workers with loop := .done }) := by
            simp [loopStep, running, loop, head]
          rw [step]
          exact .finish running loop closed items
        | false =>
          have head : (station.queues.read station.dispatcher.inbound).head = .waiting := by
            have receptive : (station.queues.read station.dispatcher.inbound).closed = false :=
              closed
            simp [Queue.head, nothing, receptive]
          have step : station.loopStep = station := by simp [loopStep, running, loop, head]
          rw [step]
          exact .wait

/-- What comes of a message is counted once, by the dispatcher whose loop or caller has routed
it. -/
theorem route_counters (station : Station) (message : Message) :
    (station.route message).state.dispatcher.counters =
      tally (station.route message).result station.dispatcher.counters := by
  unfold route
  split <;> rfl

end Station

end RelayTree
