import RelayTree.Proofs.Service.Carrying

/-!
# Moves that carry none

A call goes on through its phases without a message being carried, and so does what others
do at the host. Each of these moves is shown to be quiet. For the moves of others this takes
that they leave the queues behind the doors alone: they may change modules, users and all
other queues, but they neither take from the four queues nor open or close them, and do not
let messages be passed on by them.
-/

namespace RelayTree

namespace Station

/-- What others do leaves the queues behind the doors alone: they are the same queues with the same
messages, and none of them is one that messages are passed on by. -/
structure Respects (before after : Station) : Prop where
  intake : after.intake = before.intake
  queue : after.queue = before.queue
  aside : ∀ door, after.intake door ∉ after.desk.outlets

/-- Of the forwarders of a new merger none has a loop, and each leads from its source to the inbound
queue. -/
theorem new_merger_wired {station : Station} {position : Nat} {forwarder : Forwarder}
    (found : station.newMerger.forwarders[position]? = some forwarder) :
    (station.desk.sources[position]? = some forwarder.input ∧
      forwarder.output = station.intake .inbound) ∧ forwarder.stage = .stopped := by
  rw [newMerger, Merger.into, List.getElem?_map] at found
  obtain ⟨source, present, rfl⟩ := Option.map_eq_some_iff.mp found
  exact ⟨⟨present, rfl⟩, rfl⟩

/-- Hands of forwarders without loops are empty, so a forwarder that was not started or was stopped
has no message on it. -/
theorem hand_stopped {station : Station}
    (stopped : ∀ (position : Nat) (forwarder : Forwarder),
      station.gatherers[position]? = some forwarder → forwarder.stage = .stopped) (door : Door) :
    station.hand door = [] := by
  unfold hand
  cases found : station.gatherers[door.position]? with
  | none => rfl
  | some forwarder =>
    have ended := stopped _ _ found
    simp [ended, Stage.held]

end Station

namespace Service

variable {service : Service}

/-- What moves are left to others. The moves of the service itself are always allowed. -/
def Allows (service : Service) : Move → Prop
  | .elsewhere board users queues =>
    service.station.Respects
      { service.station with
        desk := { service.station.desk with board := board, users := users }, queues := queues }
  | _ => True

/-- Another phase, for which everything is in place: the forwarders that it expects to be without
loop are, and workers are there or not as it wants. -/
theorem phase_quiet (orderly : service.Orderly) (phase : Phase) (reload : Option Reload)
    (was : service.phase.isShut = false) (stays : phase.isShut = false)
    (idle : ∀ (position : Nat) (forwarder : Forwarder),
      service.station.gatherers[position]? = some forwarder →
        (forwarder.stage = .stopped ↔ phase.Idles position))
    (staffed : phase.Staffed service.station) :
    Quiet service { service with phase := phase, reload := reload } where
  orderly :=
    { apart := orderly.apart
      wired := orderly.wired
      shut := by rw [orderly.shut, was, stays]
      idle := idle
      staffed := staffed
      emptied := by
        intro shut
        rw [stays] at shut
        cases shut }
  accepted := rfl
  routed := rfl
  counters := rfl
  queue := fun _ => rfl
  hand := fun _ => rfl
  loopHand := rfl

/-! ## Starting -/

/-- A start begins with new workers, who have nothing in hand and are not started yet. Before it
there were no workers at all, so nothing can have been in the hand of an earlier one. -/
theorem begin_start_quiet (orderly : service.Orderly) (settled : service.phase = .settled)
    (idle : service.station.dispatcher.isRunning = false) : Quiet service service.beginStart := by
  obtain ⟨nobody, loopHand, _⟩ := Station.idle_empty idle
  have fresh : ∀ {position : Nat} {forwarder : Forwarder},
      service.station.prepare.gatherers[position]? = some forwarder →
        service.station.newMerger.forwarders[position]? = some forwarder := fun found => found
  have shut : (Phase.starting 0).isShut = service.phase.isShut := by rw [settled]; rfl
  refine quiet_workers orderly _ (.starting 0) none shut ?_ ?_ rfl ?_ ?_ loopHand.symm
  · exact fun position forwarder found => (Station.new_merger_wired (fresh found)).1
  · intro position forwarder found
    have stopped := (Station.new_merger_wired (fresh found)).2
    exact ⟨fun _ => Nat.zero_le position, fun _ => stopped⟩
  · intro opened
    cases opened
  · intro door
    have empty : service.station.hand door = [] := by simp [Station.hand, nobody]
    rw [empty]
    exact Station.hand_stopped
      (fun position forwarder found => (Station.new_merger_wired (fresh found)).2) door

/-- One forwarder after the other gets its loop, which changes nothing about what is on the way. The
phase counts those that have theirs, and the others are behind the count. -/
theorem launch_quiet (orderly : service.Orderly) {count : Nat}
    (phase : service.phase = .starting count) :
    Quiet service
      { service with
        station := service.station.adjust count Forwarder.launched
        phase := .starting (count + 1) } := by
  have staffed := orderly.staffed
  have idle := orderly.idle
  rw [phase] at staffed idle
  refine quiet_adjust orderly (fun _ => ⟨rfl, rfl⟩) ?_ (by rw [phase]; rfl) rfl ?_ staffed
  · intro forwarder found
    have stopped := (idle count forwarder found).mpr (Nat.le_refl count)
    rw [stopped]
    rfl
  · intro index forwarder found
    change _ ↔ count + 1 ≤ index
    by_cases here : count = index
    · rw [if_pos here, Forwarder.launched]
      constructor
      · intro stopped
        cases stopped
      · intro later
        omega
    · have before : forwarder.stage = .stopped ↔ count ≤ index := idle index forwarder found
      rw [if_neg here, before]
      omega

/-- With all of them started the loop begins, with nothing in its hand. Should the workers have gone
in the meantime there is nothing to begin, and the service is settled all the same. -/
theorem begin_loop_quiet (orderly : service.Orderly) {count : Nat}
    (phase : service.phase = .starting count)
    (all : service.station.gatherers.length ≤ count) :
    Quiet service { service with station := service.station.beginLoop, phase := .settled } := by
  have staffed := orderly.staffed
  have idle := orderly.idle
  rw [phase] at staffed idle
  have empty := Station.done_empty staffed
  have shut : Phase.settled.isShut = service.phase.isShut := by rw [phase]; rfl
  cases running : service.station.dispatcher.workers with
  | none =>
    have nobody : service.station.dispatcher.isRunning = false := by
      simp [Dispatcher.isRunning, running]
    have same : service.station.beginLoop = service.station := by
      simp only [Station.beginLoop, running]
    rw [same]
    refine phase_quiet orderly .settled service.reload (by rw [phase]; rfl) rfl ?_ ?_
    · rw [(Station.idle_empty nobody).1]
      intro position forwarder found
      simp at found
    · intro runs
      cases nobody.symm.trans runs
  | some workers =>
    have gatherers : service.station.gatherers = workers.merger.forwarders := by
      simp [Station.gatherers, running]
    have begun : service.station.beginLoop = service.station.withWorkers
        (some ⟨{ workers.merger with running := true }, .waiting⟩) := by
      simp [Station.beginLoop, running]
    rw [begun]
    refine quiet_workers orderly _ .settled service.reload shut ?_ ?_ ?_ ?_ ?_ empty.symm
    · intro position forwarder found
      refine orderly.wired position forwarder ?_
      rw [gatherers]
      exact found
    · intro position forwarder found
      rw [gatherers] at idle all
      have below := (List.getElem?_eq_some_iff.mp found).1
      have launched := idle position forwarder found
      constructor
      · intro stopped
        have behind : count ≤ position := launched.mp stopped
        have bound : position < workers.merger.forwarders.length := below
        omega
      · intro idles
        cases idles
    · exact fun _ => rfl
    · intro opened
      cases opened
    · intro door
      rw [Station.hand, Station.hand, gatherers]
      rfl

/-! ## Stopping -/

/-- One forwarder after the other is told to end. It may still take a message and will give it on
before it does. -/
theorem halt_quiet (orderly : service.Orderly) {count : Nat}
    (phase : service.phase = .stopping count) :
    Quiet service
      { service with
        station := service.station.adjust count Forwarder.halted, phase := .joining count } := by
  have staffed := orderly.staffed
  have idle := orderly.idle
  rw [phase] at staffed idle
  refine quiet_adjust orderly (fun _ => ⟨rfl, rfl⟩) (fun _ _ => rfl) (by rw [phase]; rfl) rfl ?_
    staffed
  intro index forwarder found
  have same : (if count = index then forwarder.halted else forwarder).stage = forwarder.stage := by
    split <;> rfl
  rw [same]
  exact idle index forwarder found

/-- It has ended, with nothing in its hand, and is taken leave of, so that the next one can be
told. -/
theorem dismiss_quiet (orderly : service.Orderly) {count : Nat}
    (phase : service.phase = .joining count) (ended : service.station.hasEnded count = true) :
    Quiet service
      { service with
        station := service.station.adjust count Forwarder.dismissed
        phase := .stopping (count + 1) } := by
  have staffed := orderly.staffed
  have idle := orderly.idle
  rw [phase] at staffed idle
  refine quiet_adjust orderly (fun _ => ⟨rfl, rfl⟩) ?_ (by rw [phase]; rfl) rfl ?_ staffed
  · intro forwarder found
    have stage : forwarder.stage = .ended := by
      simpa [Station.hasEnded, found] using ended
    rw [stage]
    rfl
  · intro index forwarder found
    change _ ↔ index < count + 1
    by_cases here : count = index
    · rw [if_pos here, Forwarder.dismissed]
      exact ⟨fun _ => by omega, fun _ => rfl⟩
    · have before : forwarder.stage = .stopped ↔ index < count := idle index forwarder found
      rw [if_neg here, before]
      omega

/-- The inbound queue is closed. The loop has not come to its end yet, so what is left in the queue
is still to be routed and nothing is claimed about it. -/
theorem close_quiet (orderly : service.Orderly) (phase : service.phase = .closing) :
    Quiet service
      { service with station := service.station.closeInbound, phase := .draining } := by
  have queue := fun other => Station.queue_update orderly.apart .inbound other Queue.close
  have staffed := orderly.staffed
  have idle := orderly.idle
  rw [phase] at staffed idle
  refine ⟨⟨⟨orderly.apart.distinct, orderly.apart.aside⟩, orderly.wired, ?_, idle, trivial, ?_⟩,
    rfl, rfl, rfl, fun door => ?_, fun _ => rfl, rfl⟩
  · exact congrArg Queue.closed ((queue .inbound).trans (if_pos rfl))
  · intro _ done
    cases (Station.work_going staffed).symm.trans done
  · refine (congrArg Queue.items (queue door)).trans ?_
    split
    · rename_i same
      rw [same]
      rfl
    · rfl

/-- When the loop has come to its end nobody has anything in hand, and the workers go. The
forwarders were stopped before the queue was closed, and the loop ends with empty hands only. -/
theorem leave_quiet (orderly : service.Orderly) (phase : service.phase = .draining)
    (done : service.station.loopDone = true) :
    Quiet service
      { service with station := service.station.withWorkers none, phase := .reopening } := by
  have shut : service.phase.isShut = true := by rw [phase]; rfl
  refine quiet_workers orderly none .reopening service.reload shut.symm ?_ ?_ rfl ?_ ?_ ?_
  · intro position forwarder found
    simp [Station.gatherers, Station.withWorkers] at found
  · intro position forwarder found
    simp [Station.gatherers, Station.withWorkers] at found
  · exact fun _ => orderly.emptied shut done
  · intro door
    exact (Station.hand_stopped (fun position forwarder => shut_idle orderly shut) door).symm
  · exact (Station.done_empty done).symm

/-- The inbound queue is opened again, with nothing in it and nobody who works on it. What follows
is the rest of a reload or nothing, and both begin with an open queue. -/
theorem reopen_quiet (orderly : service.Orderly) (phase : service.phase = .reopening)
    {next : Phase} (follows : next = .replacing ∨ next = .settled) :
    Quiet service
      { service with station := service.station.reopenInbound, phase := next } := by
  have queue := fun other => Station.queue_update orderly.apart .inbound other Queue.reopen
  have idle : service.station.dispatcher.isRunning = false := by
    have staffed := orderly.staffed
    rw [phase] at staffed
    exact staffed
  have nobody := (Station.idle_empty idle).1
  have opened : next.isShut = false := by rcases follows with rfl | rfl <;> rfl
  refine ⟨⟨⟨orderly.apart.distinct, orderly.apart.aside⟩, orderly.wired, ?_, ?_, ?_, ?_⟩, rfl,
    rfl, rfl, fun door => ?_, fun _ => rfl, rfl⟩
  · exact (congrArg Queue.closed ((queue .inbound).trans (if_pos rfl))).trans opened.symm
  · intro position forwarder found
    have missing : service.station.gatherers[position]? = some forwarder := found
    simp [nobody] at missing
  · rcases follows with rfl | rfl
    · exact idle
    · intro runs
      cases idle.symm.trans runs
  · intro shut
    cases opened.symm.trans shut
  · refine (congrArg Queue.items (queue door)).trans ?_
    split
    · rename_i same
      rw [same]
      rfl
    · rfl

/-! ## Reloading -/

/-- A deployment is put in place while nothing runs, and then a start may begin. Neither the build
nor the modules touch the queues behind the doors, however far they get. -/
theorem replace_quiet (orderly : service.Orderly) (phase : service.phase = .replacing)
    (reload : Reload) : Quiet service (service.replace reload) := by
  have idle : service.station.dispatcher.isRunning = false := by
    have staffed := orderly.staffed
    rw [phase] at staffed
    exact staffed
  have untouched : service.station.Untouched
      ((service.station.build reload.deployment.hosts).andThen fun station _ =>
        station.replaceModules reload.deployment).state :=
    Outcome.andThen_keeps (service.station.Untouched ·) (Station.build_untouched ..)
      fun station _ first => Station.untouched_trans first (Station.replace_untouched ..)
  have settles : Quiet service { service with phase := .settled, reload := none } := by
    refine phase_quiet orderly .settled none (by rw [phase]; rfl) rfl ?_ ?_
    · rw [(Station.idle_empty idle).1]
      intro position forwarder found
      simp at found
    · intro runs
      cases idle.symm.trans runs
  unfold replace
  generalize (service.station.build reload.deployment.hosts).andThen (fun station _ =>
    station.replaceModules reload.deployment) = replaced at untouched ⊢
  have changed : Quiet service
      { service with station := replaced.state, phase := .settled, reload := none } :=
    quiet_trans settles (quiet_untouched settles.orderly untouched rfl rfl rfl)
  have still : replaced.state.dispatcher.isRunning = false := by
    rw [Dispatcher.isRunning, untouched.workers]
    exact idle
  dsimp only
  split
  · exact changed
  · split
    · exact quiet_trans changed (begin_start_quiet changed.orderly rfl still)
    · exact changed

/-! ## All moves -/

/-- A call begins, or is not taken up because another one is worked on or because of the state of
the station. -/
theorem call_quiet (orderly : service.Orderly) (order : Order) :
    Quiet service (service.call order) := by
  unfold call
  split
  · rename_i settled
    have opened : service.phase.isShut = false := by rw [settled]; rfl
    have staffed := orderly.staffed
    have idle := orderly.idle
    rw [settled] at staffed idle
    have waits : ∀ (position : Nat) (forwarder : Forwarder),
        service.station.gatherers[position]? = some forwarder →
          (forwarder.stage = .stopped ↔ (Phase.stopping 0).Idles position) := by
      intro position forwarder found
      rw [idle position forwarder found]
      exact ⟨False.elim, Nat.not_lt_zero position⟩
    cases order with
    | start =>
      dsimp only
      split
      · exact quiet_refl orderly
      · rename_i free
        refine begin_start_quiet orderly settled ?_
        simp only [Bool.or_eq_true, not_or, Bool.not_eq_true] at free
        exact free.1
    | stop =>
      dsimp only
      split
      · rename_i running
        exact phase_quiet orderly (.stopping 0) service.reload opened rfl waits (staffed running)
      · exact quiet_refl orderly
    | build roster => exact quiet_untouched orderly (Station.build_untouched ..) rfl rfl rfl
    | reload deployment =>
      dsimp only
      split
      · unfold beginReload
        cases running : service.station.dispatcher.isRunning with
        | true => exact phase_quiet orderly (.stopping 0) _ opened rfl waits (staffed running)
        | false => exact phase_quiet orderly .replacing _ opened rfl idle running
      · exact quiet_refl orderly
  · exact quiet_refl orderly

/-- A call takes its next step, or waits for a worker. The cases are the phases, and each of them is
quiet. -/
theorem advance_quiet (orderly : service.Orderly) : Quiet service service.advance := by
  have staffed := orderly.staffed
  have idle := orderly.idle
  unfold advance
  cases phase : service.phase with
  | settled => exact quiet_refl orderly
  | starting count =>
    dsimp only
    split
    · exact launch_quiet orderly phase
    · rename_i all
      exact begin_loop_quiet orderly phase (by omega)
  | stopping count =>
    rw [phase] at staffed idle
    dsimp only
    split
    · exact halt_quiet orderly phase
    · rename_i all
      refine phase_quiet orderly .closing service.reload (by rw [phase]; rfl) rfl ?_ staffed
      intro position forwarder found
      have below := (List.getElem?_eq_some_iff.mp found).1
      have stopped := (idle position forwarder found).mpr (by change position < count; omega)
      exact ⟨fun _ => trivial, fun _ => stopped⟩
  | joining count =>
    dsimp only
    split
    · rename_i ended
      exact dismiss_quiet orderly phase ended
    · exact quiet_refl orderly
  | closing => exact close_quiet orderly phase
  | draining =>
    dsimp only
    split
    · rename_i done
      exact leave_quiet orderly phase done
    · exact quiet_refl orderly
  | reopening =>
    refine reopen_quiet orderly phase ?_
    split
    · exact .inl rfl
    · exact .inr rfl
  | replacing =>
    rw [phase] at staffed
    dsimp only
    split
    · refine phase_quiet orderly .settled service.reload (by rw [phase]; rfl) rfl ?_ ?_
      · rw [(Station.idle_empty staffed).1]
        intro position forwarder found
        simp at found
      · intro runs
        cases staffed.symm.trans runs
    · exact replace_quiet orderly phase _

/-- Every move proceeds: those that carry a message carry one to the next post of its lane, and all
others are quiet. -/
theorem after_proceeds (orderly : service.Orderly) (move : Move) (allowed : service.Allows move) :
    Proceeds service (service.after move) := by
  cases move with
  | push door message => exact push_proceeds orderly door message
  | gather door => exact gather_proceeds orderly door
  | dispatch => exact dispatch_proceeds orderly
  | call order => exact quiet_proceeds (call_quiet orderly order)
  | advance => exact quiet_proceeds (advance_quiet orderly)
  | ask host =>
    exact quiet_proceeds (quiet_untouched orderly (Station.reach_untouched ..) rfl rfl rfl)
  | elsewhere board users queues =>
    obtain ⟨intake, queue, aside⟩ := allowed
    have apart := orderly.apart
    refine quiet_proceeds
      (quiet_untouched orderly ⟨intake, queue, rfl, rfl, fun _ => ?_⟩ rfl rfl rfl)
    exact ⟨fun same => apart.distinct (intake ▸ same), aside⟩

end Service

end RelayTree
