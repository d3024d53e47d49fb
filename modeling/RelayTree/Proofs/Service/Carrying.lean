import RelayTree.Proofs.Service.Phases

/-!
# Moves that carry messages

Messages are carried by those who add them, by the forwarders and by the loop. Each of
these moves is shown to proceed: if a message is accepted it stands at the end of the queue
behind its door, and if one is taken or given on it is the first one at its post, which goes
to the end of the next post. No forwarder ever finds the inbound queue closed with a message
in its hand.
-/

namespace RelayTree

/-- The forwarder behind a door takes from the queue there, and there is none behind the
inbound queue. -/
theorem Station.source_behind {station : Station} {door : Door} {source : QueueId}
    (found : station.desk.sources[door.position]? = some source) :
    door ≠ .inbound ∧ source = station.intake door := by
  cases door with
  | inbound => cases found
  | modules | clients | server =>
    cases found
    exact ⟨by simp, rfl⟩

namespace Service

variable {service : Service}

/-! ## Messages that come in -/

/-- A closed queue refuses a message, and then it is not on record as accepted. -/
theorem push_refused {door : Door} (closed : (service.station.queue door).closed = true)
    (message : Message) : service.push door message = service := by
  have shut : (service.station.queues.read (service.station.intake door)).closed = true := closed
  simp [push, QueueStore.pushBack?, Queue.pushBack?, shut]

/-- An open queue takes a message, which is on record from there on. -/
theorem push_taken {door : Door} (opened : (service.station.queue door).closed = false)
    (message : Message) :
    service.push door message =
      { service with
        station := { service.station with
          queues := service.station.queues.append (service.station.intake door) message }
        accepted := service.accepted ++ [⟨door, message⟩] } := by
  simp [push, QueueStore.push_open opened]

/-- Then it stands at the end of the queue, and the other queues are as before. -/
theorem push_queue (orderly : service.Orderly) {door : Door}
    (opened : (service.station.queue door).closed = false) (message : Message) (other : Door) :
    (service.push door message).station.queue other =
      if other = door then
        { service.station.queue door with items := (service.station.queue door).items ++ [message] }
      else service.station.queue other := by
  rw [push_taken opened]
  exact Station.queue_update orderly.apart door other
    fun queue => { queue with items := queue.items ++ [message] }

/-- A message that was added leaves the service orderly, as neither workers nor phase are concerned.
The inbound queue could not have taken one while it was closed, so what was emptied stays empty. -/
theorem push_orderly (orderly : service.Orderly) {door : Door}
    (opened : (service.station.queue door).closed = false) (message : Message) :
    (service.push door message).Orderly := by
  have queue := push_queue orderly opened message .inbound
  rw [push_taken opened] at queue ⊢
  refine orderly_forwarders orderly rfl rfl ⟨orderly.apart.distinct, orderly.apart.aside⟩ rfl ?_
    ?_ ?_
  · rw [queue]
    split
    · rename_i here
      rw [here]
    · rfl
  · refine Phase.staffed_same ?_ ?_ ?_ orderly.staffed <;> rfl
  · intro shut done
    have other : Door.inbound ≠ door := by
      rintro rfl
      rw [orderly.shut] at opened
      rw [opened] at shut
      cases shut
    rw [queue, if_neg other]
    exact orderly.emptied shut done

/-- A message that is added to a queue is accepted, or nothing happens. Whether it is accepted
depends on the queue alone, and then it stands at the entrance of its lane. -/
theorem push_proceeds (orderly : service.Orderly) (door : Door) (message : Message) :
    Proceeds service (service.push door message) := by
  cases closed : (service.station.queue door).closed with
  | true =>
    rw [push_refused closed]
    exact quiet_proceeds (quiet_refl orderly)
  | false =>
    have queue := push_queue orderly closed message
    have taken := push_taken closed message
    refine ⟨push_orderly orderly closed message, .entered ⟨door, message⟩ ?_ ?_ ?_, ?_⟩
    · rw [taken]
    · exact congrArg Queue.items ((queue door).trans (if_pos rfl))
    · intro post other
      cases post with
      | queue there =>
        have different : there ≠ door := fun same => other (congrArg Post.queue same)
        exact congrArg Queue.items ((queue there).trans (if_neg different))
      | hand | loop | routed =>
        rw [taken]
        rfl
    · rw [taken]
      exact id

/-! ## Messages that are gathered -/

/-- The hands and queues after a step of the forwarder behind a door. Only its own hand has changed,
and the queues are those that its step leaves. -/
theorem gather_places {door : Door} {forwarder : Forwarder}
    (found : service.station.gatherers[door.position]? = some forwarder) :
    let after := service.station.mergeStep door.position
    (∀ other, after.hand other =
        if other = door then (forwarder.step service.station.queues).1.stage.held
        else service.station.hand other) ∧
      after.queues = (forwarder.step service.station.queues).2 ∧
      after.intake = service.station.intake := by
  intro after
  have step : after = _ := Station.merge_step_adjust found
  rw [step]
  exact ⟨Station.hand_adjust found _, rfl, Station.intake_adjust ..⟩

/-- A step of a forwarder leaves the service orderly, wherever its loop stands. While the inbound
queue is closed no forwarder has a loop, and a step without a loop does nothing. -/
theorem gather_orderly (orderly : service.Orderly) {door : Door} {forwarder : Forwarder}
    (found : service.station.gatherers[door.position]? = some forwarder) :
    (service.after (.gather door)).Orderly := by
  have turn := forwarder.step_carries service.station.queues (held_open orderly found)
  obtain ⟨_, queues, intake⟩ := gather_places found
  obtain ⟨_, done, work, running, _⟩ := Station.merge_step_loop found
  have inbound : (service.station.mergeStep door.position).queue .inbound =
      (forwarder.step service.station.queues).2.read (service.station.intake .inbound) := by
    rw [Station.queue, queues, intake]
  refine ⟨?_, ?_, ?_, ?_, ?_, ?_⟩
  · exact Station.keeps_apart (Station.keeps_merge ..) orderly.apart
  · intro index later present
    obtain ⟨earlier, there, input, output, _⟩ := Station.merge_step_forwarders found present
    rw [after, Station.sources_same intake, intake, input, output]
    exact orderly.wired index earlier there
  · rw [after, inbound, turn_closed turn]
    exact orderly.shut
  · intro index later present
    obtain ⟨earlier, there, _, _, stopped⟩ := Station.merge_step_forwarders found present
    exact stopped.trans (orderly.idle index earlier there)
  · exact Phase.staffed_same running done work orderly.staffed
  · intro shut ended
    have same := Forwarder.step_stopped (shut_idle orderly shut found) service.station.queues
    rw [after, inbound, same]
    exact orderly.emptied shut (done.symm.trans ended)

section Carrying

variable {later : Service} {door : Door} {message : Message}

/-- A forwarder has taken the first message of its queue, and holds that one now. All other queues
and hands are as they were, which makes it a step along one lane. -/
theorem taken_shift {rest : List Message}
    (queue : ∀ other, later.station.queue other =
      if other = door then (service.station.queue door).tail else service.station.queue other)
    (first : (service.station.queue door).items = message :: rest)
    (free : service.station.hand door = []) (full : later.station.hand door = [message])
    (others : ∀ other, other ≠ door → later.station.hand other = service.station.hand other)
    (loopHand : later.station.loopHand = service.station.loopHand)
    (routed : later.routed = service.routed) :
    Shift service.holds later.holds (.queue door) (.hand door) message where
  apart := by simp
  taken := by
    change (service.station.queue door).items = message :: (later.station.queue door).items
    rw [queue, if_pos rfl, first, Queue.tail, first, List.tail_cons]
  given := by
    change later.station.hand door = service.station.hand door ++ [message]
    rw [full, free, List.nil_append]
  others := by
    intro post notQueue notHand
    cases post with
    | queue other =>
      have different : other ≠ door := fun same => notQueue (congrArg Post.queue same)
      exact congrArg Queue.items ((queue other).trans (if_neg different))
    | hand other => exact others other fun same => notHand (congrArg Post.hand same)
    | loop => exact loopHand
    | routed => exact congrArg (List.map Prod.fst) routed

/-- A forwarder has added what it held to the inbound queue, behind all that waits there. So
messages of one door stay in order, while those of different doors may be mixed. -/
theorem given_shift
    (queue : ∀ other, later.station.queue other =
      if other = .inbound then
        { service.station.queue .inbound with
          items := (service.station.queue .inbound).items ++ [message] }
      else service.station.queue other)
    (full : service.station.hand door = [message]) (free : later.station.hand door = [])
    (others : ∀ other, other ≠ door → later.station.hand other = service.station.hand other)
    (loopHand : later.station.loopHand = service.station.loopHand)
    (routed : later.routed = service.routed) :
    Shift service.holds later.holds (.hand door) (.queue .inbound) message where
  apart := by simp
  taken := by
    change service.station.hand door = message :: later.station.hand door
    rw [full, free]
  given := by
    change (later.station.queue .inbound).items =
      (service.station.queue .inbound).items ++ [message]
    rw [queue, if_pos rfl]
  others := by
    intro post notHand notQueue
    cases post with
    | queue other =>
      have different : other ≠ .inbound := fun same => notQueue (congrArg Post.queue same)
      exact congrArg Queue.items ((queue other).trans (if_neg different))
    | hand other => exact others other fun same => notHand (congrArg Post.hand same)
    | loop => exact loopHand
    | routed => exact congrArg (List.map Prod.fst) routed

end Carrying

/-- A forwarder takes a message in its hand, or adds the one it has to the inbound queue. -/
theorem gather_effect (orderly : service.Orderly) {door : Door} {forwarder : Forwarder}
    (found : service.station.gatherers[door.position]? = some forwarder) :
    service.Effect (service.after (.gather door)) := by
  obtain ⟨wired, output⟩ := orderly.wired _ _ found
  obtain ⟨inner, input⟩ := Station.source_behind wired
  obtain ⟨hand, queues, intake⟩ := gather_places found
  have loopHand := (Station.merge_step_loop found).1
  have turn := forwarder.step_carries service.station.queues (held_open orderly found)
  have held : service.station.hand door = forwarder.stage.held := by
    rw [Station.hand, found]
  have queue : ∀ other, (service.station.mergeStep door.position).queue other =
      (forwarder.step service.station.queues).2.read (service.station.intake other) := by
    intro other
    rw [Station.queue, queues, intake]
  have otherHands : ∀ other, other ≠ door →
      (service.station.mergeStep door.position).hand other = service.station.hand other :=
    fun other different => (hand other).trans (if_neg different)
  have ownHand := (hand door).trans (if_pos rfl)
  generalize (forwarder.step service.station.queues).1.stage.held = later at turn ownHand
  generalize (forwarder.step service.station.queues).2 = store at turn queue
  rw [← held] at turn
  cases turn with
  | wait =>
    refine .still rfl fun post => ?_
    cases post with
    | queue other => exact congrArg Queue.items (queue other)
    | hand other =>
      by_cases same : other = door
      · subst same
        exact ownHand
      · exact otherHands other same
    | loop => exact loopHand
    | routed => rfl
  | take free first =>
    rw [input] at first queue
    have next : (Post.queue door).next = some (.hand door) := by
      cases door <;> first | rfl | exact absurd rfl inner
    have moved := fun other =>
      (queue other).trans (Station.queue_update orderly.apart door other Queue.tail)
    exact .carried rfl next (taken_shift moved first free ownHand otherHands loopHand rfl)
  | @give message there full goes =>
    rw [goes, output] at queue
    have moved := fun other =>
      (queue other).trans (Station.queue_update orderly.apart .inbound other
        fun queue => { queue with items := queue.items ++ [message] })
    exact .carried rfl rfl (given_shift moved full ownHand otherHands loopHand rfl)

/-- A turn of a forwarder proceeds, and where there is none behind the door nothing happens. It
touches no counters, since a message is counted when it is routed. -/
theorem gather_proceeds (orderly : service.Orderly) (door : Door) :
    Proceeds service (service.after (.gather door)) := by
  cases found : service.station.gatherers[door.position]? with
  | none =>
    have same : service.after (.gather door) = service := by
      rw [after, Station.merge_step_absent found]
    rw [same]
    exact quiet_proceeds (quiet_refl orderly)
  | some forwarder =>
    obtain ⟨_, _, _, _, counters⟩ := Station.merge_step_loop found
    refine ⟨gather_orderly orderly found, gather_effect orderly found, fun counted => ?_⟩
    rw [Counted, after, counters]
    exact counted

/-! ## Messages that are routed -/

section Loop

variable {later : Station} {result : List (Message × Except Failure Delivery)} {message : Message}

/-- The service after a step of the loop that changed the station and routed something. -/
def looped (service : Service) (later : Station)
    (result : List (Message × Except Failure Delivery)) : Service :=
  { service with station := later, routed := service.routed ++ result }

/-- While the loop goes on the service is orderly, be it that it takes a message or that it routes
one. -/
theorem loop_orderly (orderly : service.Orderly) (intake : later.intake = service.station.intake)
    (apart : later.Apart) (gatherers : later.gatherers = service.station.gatherers)
    (closed : (later.queue .inbound).closed = (service.station.queue .inbound).closed)
    (running : later.dispatcher.isRunning = service.station.dispatcher.isRunning)
    (work : later.isAtWork = service.station.isAtWork)
    (going : service.station.loopDone = false) (on : later.loopDone = false) :
    (service.looped later result).Orderly := by
  refine orderly_forwarders orderly rfl intake apart gatherers closed
    (Phase.staffed_same running (on.trans going.symm) work orderly.staffed) fun _ done => ?_
  cases on.symm.trans done

/-- The loop has taken the first message of the inbound queue, and holds that one now. It routes
nothing in the same step, so what was routed is as before. -/
theorem loop_taken_shift {rest : List Message}
    (queue : ∀ other, later.queue other =
      if other = .inbound then (service.station.queue .inbound).tail
      else service.station.queue other)
    (first : (service.station.queue .inbound).items = message :: rest)
    (hand : ∀ door, later.hand door = service.station.hand door)
    (free : service.station.loopHand = []) (full : later.loopHand = [message]) :
    Shift service.holds (service.looped later []).holds (.queue .inbound) .loop message where
  apart := by simp
  taken := by
    change (service.station.queue .inbound).items = message :: (later.queue .inbound).items
    rw [queue, if_pos rfl, first, Queue.tail, first, List.tail_cons]
  given := by
    change later.loopHand = service.station.loopHand ++ [message]
    rw [full, free, List.nil_append]
  others := by
    intro post notQueue notLoop
    cases post with
    | queue other =>
      have different : other ≠ .inbound := fun same => notQueue (congrArg Post.queue same)
      exact congrArg Queue.items ((queue other).trans (if_neg different))
    | hand door => exact hand door
    | loop => exact absurd rfl notLoop
    | routed => exact congrArg (List.map Prod.fst) (List.append_nil _)

/-- The loop has routed the message that it held, which is put down at the end of what was
routed. -/
theorem loop_routed_shift {delivery : Except Failure Delivery}
    (queue : ∀ door, later.queue door = service.station.queue door)
    (hand : ∀ door, later.hand door = service.station.hand door)
    (full : service.station.loopHand = [message]) (free : later.loopHand = []) :
    Shift service.holds (service.looped later [(message, delivery)]).holds .loop .routed
      message where
  apart := by simp
  taken := by
    change service.station.loopHand = message :: later.loopHand
    rw [full, free]
  given := List.map_append
  others := by
    intro post notLoop notRouted
    cases post with
    | queue door => exact congrArg Queue.items (queue door)
    | hand door => exact hand door
    | loop => exact absurd rfl notLoop
    | routed => exact absurd rfl notRouted

end Loop

/-- A loop can only end while the inbound queue is closed for it. The phase is then that of
draining, which is the only one with a closed queue and workers. -/
theorem finish_quiet (orderly : service.Orderly) {workers : Workers}
    (running : service.station.dispatcher.workers = some workers)
    (free : workers.loop = .waiting) (closed : (service.station.queue .inbound).closed = true)
    (empty : (service.station.queue .inbound).items = []) :
    Quiet service
      (service.looped (service.station.withWorkers (some { workers with loop := .done })) []) := by
  have gatherers : service.station.gatherers = workers.merger.forwarders := by
    simp [Station.gatherers, running]
  have hand : service.station.loopHand = [] := by
    simp [Station.loopHand, running, free, LoopStage.held]
  have staffed : service.phase.Staffed
      (service.station.withWorkers (some { workers with loop := .done })) := by
    have shut := orderly.shut
    have before := orderly.staffed
    rw [closed] at shut
    cases phase : service.phase with
    | draining => exact trivial
    | reopening =>
      rw [phase] at before
      simp [Phase.Staffed, Dispatcher.isRunning, running] at before
    | settled | starting | stopping | joining | closing | replacing =>
      rw [phase] at shut
      cases shut
  refine ⟨orderly_forwarders orderly rfl rfl ?_ gatherers.symm rfl staffed fun _ _ => empty, rfl,
    List.append_nil _, rfl, fun _ => rfl, fun door => ?_, hand.symm⟩
  · exact ⟨orderly.apart.distinct, orderly.apart.aside⟩
  · rw [Station.hand, Station.hand, gatherers]
    rfl

/-- A message in the hand of the loop is routed, and counted by what came of it. Strategies put
messages on outlets, and none of these is a queue behind a door, so nothing comes back. -/
theorem route_proceeds (orderly : service.Orderly) {workers : Workers} {message : Message}
    (running : service.station.dispatcher.workers = some workers)
    (full : workers.loop = .holding message) :
    Proceeds service
      (service.looped
        ((service.station.route message).state.withWorkers (some { workers with loop := .waiting }))
        [(message, (service.station.route message).result)]) := by
  have keeps := Station.keeps_route service.station message
  have going : service.station.loopDone = false := by simp [Station.loopDone, running, full]
  have held : service.station.loopHand = [message] := by
    simp [Station.loopHand, running, full, LoopStage.held]
  have gatherers : service.station.gatherers = workers.merger.forwarders := by
    simp [Station.gatherers, running]
  have runs : service.station.dispatcher.isRunning = true := by
    simp [Dispatcher.isRunning, running]
  have work : (service.station.withWorkers (some { workers with loop := .waiting })).isAtWork =
      service.station.isAtWork := by
    simp [Station.isAtWork, Station.withWorkers, running, full]
  have queue := Station.queue_route orderly.apart message
  have apart := Station.keeps_apart keeps orderly.apart
  have intake := Station.keeps_intake keeps
  refine ⟨loop_orderly orderly ?_ ⟨apart.distinct, apart.aside⟩
    gatherers.symm (congrArg Queue.closed (queue .inbound)) runs.symm work going rfl,
    .carried rfl rfl (loop_routed_shift queue (fun door => ?_) held rfl), fun counted => ?_⟩
  · exact intake
  · rw [Station.hand, Station.hand, gatherers]
    rfl
  · have tallied := Station.route_counters service.station message
    rw [counted] at tallied
    rw [Counted, looped, List.foldl_append]
    exact tallied

/-- The loop takes a message in its hand, or routes the one it has, or ends. If it finds the queue
open and empty it waits, and then nothing has changed. -/
theorem dispatch_proceeds (orderly : service.Orderly) : Proceeds service service.dispatch := by
  have step := service.station.loop_step_cases
  change Proceeds service (service.looped service.station.loopStep service.station.routing)
  generalize service.station.loopStep = later at step ⊢
  generalize service.station.routing = result at step ⊢
  cases step with
  | wait =>
    refine quiet_proceeds (quiet_untouched orderly (Station.untouched_refl _) rfl rfl ?_)
    exact List.append_nil _
  | finish running free closed empty =>
    exact quiet_proceeds (finish_quiet orderly running free closed empty)
  | route running full => exact route_proceeds orderly running full
  | @take workers message rest running free first =>
    have going : service.station.loopDone = false := by simp [Station.loopDone, running, free]
    have empty : service.station.loopHand = [] := by
      simp [Station.loopHand, running, free, LoopStage.held]
    have gatherers : service.station.gatherers = workers.merger.forwarders := by
      simp [Station.gatherers, running]
    have runs : service.station.dispatcher.isRunning = true := by
      simp [Dispatcher.isRunning, running]
    have work : (service.station.withWorkers
        (some { workers with loop := .holding message })).isAtWork = service.station.isAtWork := by
      simp [Station.isAtWork, Station.withWorkers, running, free]
    have queue := fun other => Station.queue_update orderly.apart .inbound other Queue.tail
    refine ⟨loop_orderly orderly rfl ?_ gatherers.symm ?_ runs.symm work going rfl,
      .carried rfl rfl (loop_taken_shift queue first (fun door => ?_) empty rfl), fun counted => ?_⟩
    · exact ⟨orderly.apart.distinct, orderly.apart.aside⟩
    · exact (congrArg Queue.closed ((queue .inbound).trans (if_pos rfl)) :)
    · rw [Station.hand, Station.hand, gatherers]
      rfl
    · rw [Counted, looped, List.append_nil]
      exact counted

end Service

end RelayTree
