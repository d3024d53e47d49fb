import RelayTree.Proofs.Dispatcher.FreshStart
import RelayTree.Proofs.Network.Flow
import RelayTree.Proofs.Service.Lanes
import RelayTree.Proofs.Service.Places

/-!
# What happens in each phase of a call

A start, a stop or a reload goes through phases, and in each of them only some of the
workers can still do something. That is what keeps messages from getting lost on the way:
the inbound queue is closed only when all forwarders have ended, the loop has to come to its
end before anything else, and then there is nothing left in any hand. `Orderly` says this
for every phase.

Each move is looked at once. What is shown of it is `Proceeds`: it leaves the service
orderly; at most one message has come in or gone on to the next post; and what was routed
was counted. All that is known about runs follows from this by induction.
-/

namespace RelayTree

/-! ## What a phase says -/

namespace Phase

/-- Whether the inbound queue is closed, from the end of the forwarders to the end of the loop. -/
def isShut : Phase → Bool
  | .draining | .reopening => true
  | _ => false

/-- The forwarder at a position has no loop, as it was not started yet or was stopped already. -/
def Idles : Phase → Nat → Prop
  | .starting count, position => count ≤ position
  | .stopping count, position | .joining count, position => position < count
  | .closing, _ | .draining, _ => True
  | _, _ => False

/-- Whether there are workers, and whether they go on, as the phase of the call that is worked on
needs it. -/
def Staffed : Phase → Station → Prop
  | .settled, station => station.dispatcher.isRunning = true → station.isAtWork = true
  | .starting _, station => station.loopDone = true
  | .stopping _, station | .joining _, station | .closing, station => station.isAtWork = true
  | .draining, _ => True
  | .reopening, station | .replacing, station => station.dispatcher.isRunning = false

/-- Whether a phase is staffed depends on three things, so a change that keeps these three keeps
it. -/
theorem staffed_same {phase : Phase} {before after : Station}
    (running : after.dispatcher.isRunning = before.dispatcher.isRunning)
    (done : after.loopDone = before.loopDone) (work : after.isAtWork = before.isAtWork)
    (staffed : phase.Staffed before) : phase.Staffed after := by
  cases phase <;> simp only [Staffed, running, done, work] at staffed ⊢ <;> exact staffed

end Phase

namespace Station

variable {station before after : Station}

/-- Where there are no workers nothing is in their hands, and no loop has anything to do. -/
theorem idle_empty (idle : station.dispatcher.isRunning = false) :
    station.gatherers = [] ∧ station.loopHand = [] ∧ station.loopDone = true := by
  have nobody : station.dispatcher.workers = none := by
    simpa [Dispatcher.isRunning] using idle
  simp [gatherers, loopHand, loopDone, nobody]

/-- A loop that goes on has not come to its end, so it can still take a message. -/
theorem work_going (work : station.isAtWork = true) : station.loopDone = false := by
  unfold isAtWork at work
  unfold loopDone
  cases running : station.dispatcher.workers with
  | none => simp [running] at work
  | some workers =>
    simp only [running, Bool.and_eq_true, decide_eq_true_eq] at work
    simp [work.2]

/-- A loop that has come to its end holds nothing, as it ends only with an empty hand. -/
theorem done_empty (done : station.loopDone = true) : station.loopHand = [] := by
  unfold loopHand
  unfold loopDone at done
  cases running : station.dispatcher.workers with
  | none => rfl
  | some workers =>
    have ended : workers.loop = .done := by simpa [running] using done
    exact LoopStage.held_done ended

/-- The queues behind the doors are the same, with the same contents, and so are the
workers. -/
structure Untouched (before after : Station) : Prop where
  intake : after.intake = before.intake
  queue : after.queue = before.queue
  workers : after.dispatcher.workers = before.dispatcher.workers
  counters : after.dispatcher.counters = before.dispatcher.counters
  apart : before.Apart → after.Apart

/-- A station that nothing happened to is untouched. -/
theorem untouched_refl (station : Station) : station.Untouched station := ⟨rfl, rfl, rfl, rfl, id⟩

/-- What leaves a station untouched in two stretches does so in both together. -/
theorem untouched_trans {middle : Station} (first : before.Untouched middle)
    (second : middle.Untouched after) : before.Untouched after where
  intake := second.intake.trans first.intake
  queue := second.queue.trans first.queue
  workers := second.workers.trans first.workers
  counters := second.counters.trans first.counters
  apart := fun apart => second.apart (first.apart apart)

/-- What does not change the queues and keeps the workers leaves everything in place. -/
theorem keeps_untouched (keeps : before.Keeps after) (queues : after.queues = before.queues)
    (workers : after.dispatcher.workers = before.dispatcher.workers)
    (counters : after.dispatcher.counters = before.dispatcher.counters) :
    before.Untouched after := by
  refine ⟨keeps_intake keeps, ?_, workers, counters, keeps_apart keeps⟩
  funext door
  rw [queue, queue, queues, keeps_intake keeps]

/-- Asking for a host changes counters and remembered paths of a strategy, and nothing that is
looked at here. -/
theorem reach_untouched (station : Station) (host : String) :
    station.Untouched (station.canReach host).2 := by
  have keeps := keeps_reach station host
  unfold canReach at keeps ⊢
  split
  · exact untouched_refl station
  · rename_i strategy found
    rw [found] at keeps
    refine keeps_untouched keeps ?_ rfl rfl
    cases strategy <;> rfl

/-- A build changes tree, table, hosts and remembered paths, and no queue, no worker and no count of
the dispatcher. -/
theorem build_untouched (station : Station) (roster : Roster) :
    station.Untouched (station.build roster).state := by
  cases outcome : (station.build roster).result with
  | error failure =>
    rw [build_failed outcome]
    exact untouched_refl station
  | ok =>
    obtain ⟨tree, _, _, state⟩ := build_succeeded outcome
    rw [state]
    exact ⟨rfl, rfl, rfl, rfl, fun apart => ⟨apart.distinct, apart.aside⟩⟩

/-- Replacing the modules keeps the queues of the switchboard and of the runtimes. However it ends,
the board is an heir of the one before, and heirs keep queues. -/
theorem replace_untouched (station : Station) (deployment : Deployment) :
    station.Untouched (station.replaceModules deployment).state := by
  have bare :
      ({ station.desk.board with registry := .empty } : Switchboard).registry = .empty := rfl
  obtain ⟨fresh, board⟩ : ∃ fresh : Switchboard, (station.desk.board.clear.registerAll
      (deployment.modulesOn station.desk.host)).state = fresh.inheriting station.desk.board := by
    rw [Switchboard.clear_inheriting _ station.desk.board bare, Switchboard.register_all_inheriting]
    exact ⟨_, rfl⟩
  have replaced : (station.replaceModules deployment).state =
      station.withBoard (fresh.inheriting station.desk.board) := by
    rw [replaceModules, Outcome.within, board]
  rw [replaced]
  have intake : (station.withBoard (fresh.inheriting station.desk.board)).intake =
      station.intake := by
    funext door
    cases door <;> rfl
  refine ⟨intake, ?_, rfl, rfl, apart_kept intake rfl⟩
  funext door
  rw [queue, queue, intake]
  rfl

end Station

namespace Service

/-! ## The order of a service -/

/-- What each post holds, in the order in which messages came to it. -/
def holds (service : Service) : Post → List Message
  | .queue door => (service.station.queue door).items
  | .hand door => service.station.hand door
  | .loop => service.station.loopHand
  | .routed => service.routed.map Prod.fst

/-- The four queues are apart. The forwarders lead from the other three to the inbound queue,
which is closed only in phases in which none of them has a loop. Whether the workers go on is
known, and if the loop came to its end in a closed queue, it has left nothing there. -/
structure Orderly (service : Service) : Prop where
  apart : service.station.Apart
  wired : ∀ (position : Nat) (forwarder : Forwarder),
    service.station.gatherers[position]? = some forwarder →
      service.station.desk.sources[position]? = some forwarder.input ∧
        forwarder.output = service.station.intake .inbound
  shut : (service.station.queue .inbound).closed = service.phase.isShut
  idle : ∀ (position : Nat) (forwarder : Forwarder),
    service.station.gatherers[position]? = some forwarder →
      (forwarder.stage = .stopped ↔ service.phase.Idles position)
  staffed : service.phase.Staffed service.station
  emptied : service.phase.isShut = true → service.station.loopDone = true →
    (service.station.queue .inbound).items = []

/-- What the loop has routed was counted, message by message, by what came of each. What is routed
past the loop is not part of a service. -/
def Counted (service : Service) : Prop :=
  service.station.dispatcher.counters =
    service.routed.foldl (fun counters routed => Station.tally routed.2 counters) .zero

/-- A message has come in, or one has gone on to the next post, or none. Nothing else ever happens
to messages, so a ledger can be kept by looking at these cases. -/
inductive Effect (before after : Service) : Prop where
  | still (accepted : after.accepted = before.accepted)
      (same : ∀ post, after.holds post = before.holds post)
  | entered (arrival : Arrival) (accepted : after.accepted = before.accepted ++ [arrival])
      (given : after.holds (.queue arrival.door) =
        before.holds (.queue arrival.door) ++ [arrival.message])
      (others : ∀ post, post ≠ .queue arrival.door → after.holds post = before.holds post)
  | carried {source target : Post} {message : Message} (accepted : after.accepted = before.accepted)
      (next : source.next = some target)
      (shift : Shift before.holds after.holds source target message)

/-- What is shown of every move: order is kept, the lanes see one message move or none, and the
count stays right. -/
structure Proceeds (before after : Service) : Prop where
  orderly : after.Orderly
  effect : before.Effect after
  counted : before.Counted → after.Counted

/-- A move that carries no message: everything that was accepted is where it was, and nothing was
routed. -/
structure Quiet (before after : Service) : Prop where
  orderly : after.Orderly
  accepted : after.accepted = before.accepted
  routed : after.routed = before.routed
  counters : after.station.dispatcher.counters = before.station.dispatcher.counters
  queue : ∀ door, (after.station.queue door).items = (before.station.queue door).items
  hand : ∀ door, after.station.hand door = before.station.hand door
  loopHand : after.station.loopHand = before.station.loopHand

variable {service before middle after : Service}

/-- Two quiet moves one after the other carry no message either. -/
theorem quiet_trans (first : Quiet before middle) (second : Quiet middle after) :
    Quiet before after where
  orderly := second.orderly
  accepted := second.accepted.trans first.accepted
  routed := second.routed.trans first.routed
  counters := second.counters.trans first.counters
  queue := fun door => (second.queue door).trans (first.queue door)
  hand := fun door => (second.hand door).trans (first.hand door)
  loopHand := second.loopHand.trans first.loopHand

/-- Without a message nothing is to be written down, so a quiet move proceeds. -/
theorem quiet_proceeds (quiet : Quiet before after) : Proceeds before after := by
  refine ⟨quiet.orderly, .still quiet.accepted fun post => ?_, fun counted => ?_⟩
  · cases post with
    | queue door => exact quiet.queue door
    | hand door => exact quiet.hand door
    | loop => exact quiet.loopHand
    | routed => exact congrArg (List.map Prod.fst) quiet.routed
  · rw [Counted, quiet.counters, quiet.routed]
    exact counted

/-- The order stays with the forwarders, if the rest is in order. It lets a move that concerns one
forwarder be looked at by itself. -/
theorem orderly_forwarders (orderly : before.Orderly) (phase : after.phase = before.phase)
    (intake : after.station.intake = before.station.intake) (apart : after.station.Apart)
    (gatherers : after.station.gatherers = before.station.gatherers)
    (closed : (after.station.queue .inbound).closed = (before.station.queue .inbound).closed)
    (staffed : before.phase.Staffed after.station)
    (emptied : before.phase.isShut = true → after.station.loopDone = true →
      (after.station.queue .inbound).items = []) : after.Orderly where
  apart := apart
  wired := by
    rw [gatherers, Station.sources_same intake, intake]
    exact orderly.wired
  shut := by
    rw [closed, phase]
    exact orderly.shut
  idle := by
    rw [gatherers, phase]
    exact orderly.idle
  staffed := by
    rw [phase]
    exact staffed
  emptied := by
    rw [phase]
    exact emptied

/-- A change that leaves everything in place is quiet, whatever it does to tables, paths and users.
What it must leave are the queues behind the doors, the workers, the counters and the phase. -/
theorem quiet_untouched (orderly : before.Orderly)
    (untouched : before.station.Untouched after.station) (phase : after.phase = before.phase)
    (accepted : after.accepted = before.accepted) (routed : after.routed = before.routed) :
    Quiet before after := by
  have gatherers : after.station.gatherers = before.station.gatherers := by
    rw [Station.gatherers, Station.gatherers, untouched.workers]
  have done : after.station.loopDone = before.station.loopDone := by
    rw [Station.loopDone, Station.loopDone, untouched.workers]
  have running : after.station.dispatcher.isRunning = before.station.dispatcher.isRunning := by
    rw [Dispatcher.isRunning, Dispatcher.isRunning, untouched.workers]
  have work : after.station.isAtWork = before.station.isAtWork := by
    rw [Station.isAtWork, Station.isAtWork, untouched.workers]
  have closed : (after.station.queue .inbound).closed = (before.station.queue .inbound).closed := by
    rw [untouched.queue]
  have emptied : before.phase.isShut = true → after.station.loopDone = true →
      (after.station.queue .inbound).items = [] := by
    rw [done, untouched.queue]
    exact orderly.emptied
  refine ⟨orderly_forwarders orderly phase untouched.intake (untouched.apart orderly.apart)
    gatherers closed (Phase.staffed_same running done work orderly.staffed) emptied, accepted,
    routed, untouched.counters, fun door => ?_, fun door => ?_, ?_⟩
  · rw [untouched.queue]
  · rw [Station.hand, Station.hand, gatherers]
  · rw [Station.loopHand, Station.loopHand, untouched.workers]

/-- A move with which nothing happens is quiet, such as a turn of a worker that is not there. -/
theorem quiet_refl (orderly : service.Orderly) : Quiet service service :=
  quiet_untouched orderly (Station.untouched_refl _) rfl rfl rfl

/-! ## Changes of a forwarder -/

/-- While the inbound queue is closed, no forwarder has a loop, so none can find it closed with a
message in its hand. -/
theorem shut_idle (orderly : service.Orderly) (shut : service.phase.isShut = true)
    {position : Nat} {forwarder : Forwarder}
    (found : service.station.gatherers[position]? = some forwarder) :
    forwarder.stage = .stopped := by
  have staffed := orderly.staffed
  cases phase : service.phase with
  | draining =>
    refine (orderly.idle position forwarder found).mpr ?_
    rw [phase]
    exact trivial
  | reopening =>
    rw [phase] at staffed
    rw [(Station.idle_empty staffed).1] at found
    simp at found
  | settled | starting | stopping | joining | closing | replacing =>
    rw [phase] at shut
    cases shut

/-- What a forwarder has in its hand, it can add to its output. That is the inbound queue, which is
closed only when no forwarder has a loop any more. -/
theorem held_open (orderly : service.Orderly) {position : Nat} {forwarder : Forwarder}
    (found : service.station.gatherers[position]? = some forwarder) :
    ∀ message ∈ forwarder.stage.held,
      (service.station.queues.read forwarder.output).closed = false := by
  intro message member
  rw [(orderly.wired position forwarder found).2]
  change (service.station.queue .inbound).closed = false
  rw [orderly.shut, ← Bool.not_eq_true]
  intro shut
  rw [shut_idle orderly shut found] at member
  simp [Stage.held] at member

/-- The change of one forwarder by a call, after which another phase begins. The change must leave
its ends and its hand alone and bring its loop to where the new phase expects it. -/
theorem quiet_adjust (orderly : service.Orderly) {position : Nat}
    {change : Forwarder → Forwarder} {phase : Phase}
    (ends : ∀ forwarder, (change forwarder).input = forwarder.input ∧
      (change forwarder).output = forwarder.output)
    (held : ∀ forwarder, service.station.gatherers[position]? = some forwarder →
      (change forwarder).stage.held = forwarder.stage.held)
    (was : service.phase.isShut = false) (stays : phase.isShut = false)
    (idle : ∀ (index : Nat) (forwarder : Forwarder),
      service.station.gatherers[index]? = some forwarder →
        ((if position = index then change forwarder else forwarder).stage = .stopped ↔
          phase.Idles index))
    (staffed : phase.Staffed service.station) :
    Quiet service
      { service with station := service.station.adjust position change, phase := phase } where
  orderly :=
    { apart := by
        refine Station.apart_kept ?_ ?_ orderly.apart
        · exact Station.intake_adjust ..
        · rw [Station.desk_adjust]
      wired := by
        intro index later found
        obtain ⟨earlier, present, same⟩ := Station.adjusted found
        obtain ⟨input, output⟩ := orderly.wired index earlier present
        have kept : later.input = earlier.input ∧ later.output = earlier.output := by
          rw [same]
          split
          · exact ends earlier
          · exact ⟨rfl, rfl⟩
        rw [Station.desk_adjust, Station.intake_adjust, kept.1, kept.2]
        exact ⟨input, output⟩
      shut := by
        rw [Station.queue_adjust, orderly.shut, was, stays]
      idle := by
        intro index later found
        obtain ⟨earlier, present, same⟩ := Station.adjusted found
        rw [same]
        exact idle index earlier present
      staffed := by
        obtain ⟨_, done, work, running, _⟩ := Station.loop_adjust service.station position change
        exact Phase.staffed_same running done work staffed
      emptied := by
        intro shut
        rw [stays] at shut
        cases shut }
  accepted := rfl
  routed := rfl
  counters := (Station.loop_adjust service.station position change).2.2.2.2
  queue := fun door => by rw [Station.queue_adjust]
  hand := Station.hand_adjust_same held
  loopHand := (Station.loop_adjust service.station position change).1

/-- Other workers for a station, none of whom has anything in hand, as at a start and at the end of
a stop. -/
theorem quiet_workers (orderly : service.Orderly) (workers : Option Workers) (phase : Phase)
    (reload : Option Reload) (shut : phase.isShut = service.phase.isShut)
    (wired : ∀ (position : Nat) (forwarder : Forwarder),
      (service.station.withWorkers workers).gatherers[position]? = some forwarder →
        service.station.desk.sources[position]? = some forwarder.input ∧
          forwarder.output = service.station.intake .inbound)
    (idle : ∀ (position : Nat) (forwarder : Forwarder),
      (service.station.withWorkers workers).gatherers[position]? = some forwarder →
        (forwarder.stage = .stopped ↔ phase.Idles position))
    (staffed : phase.Staffed (service.station.withWorkers workers))
    (emptied : phase.isShut = true → (service.station.queue .inbound).items = [])
    (hand : ∀ door, (service.station.withWorkers workers).hand door = service.station.hand door)
    (loopHand : (service.station.withWorkers workers).loopHand = service.station.loopHand) :
    Quiet service
      { service with
        station := service.station.withWorkers workers, phase := phase, reload := reload } where
  orderly :=
    { apart := ⟨orderly.apart.distinct, orderly.apart.aside⟩
      wired := wired
      shut := orderly.shut.trans shut.symm
      idle := idle
      staffed := staffed
      emptied := fun shut _ => emptied shut }
  accepted := rfl
  routed := rfl
  counters := rfl
  queue := fun _ => rfl
  hand := hand
  loopHand := loopHand

end Service

end RelayTree
