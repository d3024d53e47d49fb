import RelayTree.Proofs.Dispatcher.Hop

/-!
# The workers of a dispatcher at work

Each worker of a running dispatcher keeps to `Turn`: the gatherers carry messages from
the sources of the host to its inbound queue, and the loop takes messages from there to
the outlets for them. Neither touches the desk or what the other holds, and nothing is
dropped.
-/

namespace RelayTree

namespace Station

variable {station : Station} {workers : Workers}

/-- After a step of a worker the station is the same but for its queues, for what that
worker holds, and for what routing may change. -/
structure Undisturbed (before after : Station) : Prop where
  desk : after.desk = before.desk
  inbound : after.dispatcher.inbound = before.dispatcher.inbound
  drops : after.dispatcher.drops = before.dispatcher.drops
  keeps : before.Keeps after

/-- A gatherer takes its turn, and the others wait. It carries from its own source to the inbound
queue, and stays at work as long as both are open. -/
theorem merge_turn (running : station.dispatcher.workers = some workers) {index : Nat}
    {forwarder : Forwarder} (present : workers.merger.forwarders[index]? = some forwarder)
    {input output : QueueId} (works : forwarder.Works input output)
    (opened : ∀ queue, (station.queues.read queue).closed = false) :
    ∃ stepped, stepped.Works input output ∧
      (station.mergeStep index).dispatcher.workers = some
        { workers with
          merger := { workers.merger with
            forwarders := workers.merger.forwarders.set index stepped } } ∧
      station.Undisturbed (station.mergeStep index) ∧
      Turn input (fun _ queue => queue = output) forwarder.stage.held station.queues
        stepped.stage.held (station.mergeStep index).queues := by
  obtain ⟨worksOn, turn⟩ := Forwarder.step_turn works opened
  have step : station.mergeStep index =
      { station.withWorkers (some
          { workers with
            merger := { workers.merger with
              forwarders := workers.merger.forwarders.set index
                (forwarder.step station.queues).1 } }) with
        queues := (forwarder.step station.queues).2 } := by
    simp [mergeStep, running, Merger.stepAt, present]
  have keeps := keeps_merge station index
  rw [step] at keeps ⊢
  exact ⟨_, worksOn, rfl, ⟨rfl, rfl, rfl, keeps⟩, turn⟩

/-- A gatherer that does not exist does nothing, so turns of it can be left out of the account. -/
theorem merge_absent (running : station.dispatcher.workers = some workers) {index : Nat}
    (absent : workers.merger.forwarders[index]? = none) : station.mergeStep index = station := by
  have same : station.withWorkers (some workers) = station := by
    rw [← running]
    rfl
  simp [mergeStep, running, Merger.stepAt, absent, same]

/-- The loop takes its turn: it puts what it holds on the outlet for it. With empty hands it takes
the first message of the inbound queue, or waits if there is none. All queues are open, so that none
of these can fail. -/
theorem loop_turn {roster : Roster} {tree : RoutingTree}
    (running : station.dispatcher.workers = some workers) (going : workers.loop ≠ .done)
    (built : station.dispatcher.BuiltFrom station.desk.host roster tree)
    (opened : ∀ queue, (station.queues.read queue).closed = false)
    (outlets : ∀ message ∈ workers.loop.held, message.Routable tree ∧
      ∃ queue, station.desk.Outlet tree message queue) :
    ∃ loop, loop ≠ .done ∧
      station.loopStep.dispatcher.workers = some { workers with loop := loop } ∧
      station.Undisturbed station.loopStep ∧
      Turn station.dispatcher.inbound (station.desk.Outlet tree) workers.loop.held station.queues
        loop.held station.loopStep.queues := by
  have keeps := keeps_loop station
  cases stage : workers.loop with
  | done => exact absurd stage going
  | waiting =>
    cases items : (station.queues.read station.dispatcher.inbound).items with
    | nil =>
      have step : station.loopStep = station := by
        simp [loopStep, running, stage, Queue.head, items, opened]
      rw [step] at keeps ⊢
      refine ⟨.waiting, by simp, ?_, ⟨rfl, rfl, rfl, keeps⟩, .wait⟩
      rw [running, ← stage]
    | cons message rest =>
      have step : station.loopStep =
          { station.withWorkers (some { workers with loop := .holding message }) with
            queues := station.queues.update station.dispatcher.inbound Queue.tail } := by
        simp [loopStep, running, stage, Queue.head, items]
      rw [step] at keeps ⊢
      exact ⟨.holding message, by simp, rfl, ⟨rfl, rfl, rfl, keeps⟩, .take rfl items⟩
  | holding message =>
    rw [stage] at outlets
    obtain ⟨routable, queue, outlet⟩ := outlets message (List.mem_singleton_self _)
    have step : station.loopStep =
        ((station.withWorkers (some { workers with loop := .waiting })).route message).state := by
      simp [loopStep, running, stage]
    have ran : station.dispatcher.isRunning = true := by simp [Dispatcher.isRunning, running]
    have builtHere := built_kept
      (keeps_workers station (some { workers with loop := .waiting }) fun _ => ran) built
    have forwards : (station.withWorkers (some { workers with loop := .waiting })).Forwards
        message queue
        ((station.withWorkers (some { workers with loop := .waiting })).route message) :=
      route_outlet builtHere routable outlet (opened queue)
    rw [step] at keeps ⊢
    refine ⟨.waiting, by simp, forwards.workers,
      ⟨forwards.desk, forwards.inbound, forwards.drops, keeps⟩, ?_⟩
    rw [forwards.queues]
    exact .give rfl outlet

end Station

end RelayTree
