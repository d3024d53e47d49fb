import RelayTree.Proofs.Service.Custody
import RelayTree.Proofs.Service.Stopping

/-!
# Calls that nothing comes in between

`start`, `stop` and `reconfigure` say at once what a call leaves behind. A service takes the
same calls through their phases, with anything else in between. `call_undisturbed` ties the
two together: after a call, left to its workers, a service gets to exactly the station that
the call leaves behind if nothing comes in between.

Such a call begins when no other one is worked on. That no reload was left over then is
shown for every run.
-/

namespace RelayTree

/-- What a call is called at a station, where it is made and over at once. -/
def Order.asCall : Order → Station.Call
  | .start => .start
  | .stop => .stop
  | .build roster => .build roster
  | .reload deployment => .reconfigure deployment

/-- What a start leaves behind: the same station with new workers, each about to look whether it
shall go on. -/
theorem Station.start_state {station : Station} (stopped : station.dispatcher.isRunning = false)
    (built : station.dispatcher.book.tree.isNone = false) :
    station.start.state = station.withWorkers (some
      ⟨⟨station.desk.sources.map fun input =>
        ⟨input, station.dispatcher.inbound, true, .ready⟩, true⟩, .waiting⟩) := by
  simp [start, stopped, built, newMerger, Merger.into_starts, Outcome.ok, Outcome.after]

namespace Service

variable {service : Service} {station : Station}

/-! ## Starting -/

/-- The forwarders get their loops one after the other, and then the dispatch loop begins. There are
three sources, so this is four turns of the call, made without anybody in between. -/
theorem launch_gets (prepared : service.station = station.prepare)
    (starting : service.phase = .starting 0) :
    service.GetsTo
      (station.withWorkers (some
        ⟨⟨station.desk.sources.map fun input =>
          ⟨input, station.dispatcher.inbound, true, .ready⟩, true⟩, .waiting⟩))
      .settled service.reload := by
  obtain ⟨_, _, reload, accepted, routed⟩ := service
  cases prepared
  cases starting
  exact ⟨List.replicate 4 .advance, by decide, rfl, rfl, rfl⟩

/-! ## Calls -/

/-- With the modules in place, the rest of a reload is to start again. If something fails before, it
is not reached, and the station is left where the failure has occurred. -/
theorem proceed_state (station : Station) (deployment : Deployment) (wasRunning : Bool) :
    let replaced := (station.build deployment.hosts).andThen fun station _ =>
      station.replaceModules deployment
    (station.proceed deployment wasRunning).state =
      match replaced.result with
      | .ok () => (replaced.state.resume wasRunning).state
      | .error _ => replaced.state := by
  intro replaced
  unfold Station.proceed
  cases built : (station.build deployment.hosts).result with
  | error failure =>
    have result : replaced.result = .error failure := (Outcome.andThen_of_error built).1
    rw [result]
    exact (Outcome.andThen_of_error built).2.trans (Outcome.andThen_of_error built).2.symm
  | ok =>
    obtain ⟨result, state⟩ : replaced.result = _ ∧ replaced.state = _ := Outcome.andThen_of_ok built
    refine (Outcome.andThen_of_ok built).2.trans ?_
    rw [result, state]
    cases done : ((station.build deployment.hosts).state.replaceModules deployment).result with
    | error failure => exact (Outcome.andThen_of_error done).2
    | ok =>
      refine (Outcome.andThen_of_ok done).2.trans ?_
      have announced : ((station.build deployment.hosts).state.replaceModules
        deployment).state.announce.result = .ok () := rfl
      exact (Outcome.andThen_of_ok announced).2

/-- With the modules replaced, a station that was stopped still is, and has a tree. Both are asked
for by the start that may follow, so it is not refused. -/
theorem replaced_stopped {deployment : Deployment} (stopped : station.dispatcher.isRunning = false)
    (replaced : ((station.build deployment.hosts).andThen fun station _ =>
      station.replaceModules deployment).result = .ok ()) :
    let later := ((station.build deployment.hosts).andThen fun station _ =>
      station.replaceModules deployment).state
    later.dispatcher.isRunning = false ∧ later.dispatcher.book.tree.isNone = false := by
  cases built : (station.build deployment.hosts).result with
  | error failure =>
    rw [(Outcome.andThen_of_error built).1] at replaced
    cases replaced
  | ok =>
    obtain ⟨tree, _, _, state⟩ := Station.build_succeeded built
    dsimp only
    rw [(Outcome.andThen_of_ok built).2, state]
    exact ⟨stopped, rfl⟩

/-- A reload puts the deployment in place, and starts again what it has stopped. If the modules are
refused it ends there, stopped, as the reload in one piece does. -/
theorem replace_gets {renewal : Reload} (stopped : service.station.dispatcher.isRunning = false)
    (replacing : service.phase = .replacing) (renews : service.reload = some renewal) :
    service.GetsTo (service.station.proceed renewal.deployment renewal.wasRunning).state
      .settled none := by
  have turn : Move.advance.isTurn = true := rfl
  have next : service.after .advance = service.replace renewal := by
    simp only [after, advance, replacing, renews]
  refine gets_turn turn ?_
  rw [next, replace, proceed_state]
  cases done : ((service.station.build renewal.deployment.hosts).andThen fun station _ =>
      station.replaceModules renewal.deployment).result with
  | error failure => exact gets_here rfl rfl rfl
  | ok =>
    obtain ⟨idle, built⟩ := replaced_stopped stopped done
    cases was : renewal.wasRunning with
    | false => exact gets_here rfl rfl rfl
    | true =>
      simp only [if_true, Station.resume, Station.start_state idle built]
      exact launch_gets rfl rfl

/-- A reload that the checks refuse changes nothing, whichever of the two checks it is. They are
made in a fixed order, but neither of them touches the station. -/
theorem reconfigure_refused {deployment : Deployment}
    (refused : ¬ (service.station.checkReload deployment.hosts = .ok () ∧
      ∃ tree, RoutingTree.ofHosts deployment.hosts.hosts = .ok tree)) :
    (service.station.reconfigure deployment).state = service.station := by
  cases check : service.station.checkReload deployment.hosts with
  | error failure =>
    have failed : (Outcome.check service.station
        (service.station.checkReload deployment.hosts)).result = .error failure := check
    exact (Outcome.andThen_of_error failed).2
  | ok =>
    have checked : (Outcome.check service.station
        (service.station.checkReload deployment.hosts)).result = .ok () := check
    cases parse : RoutingTree.ofHosts deployment.hosts.hosts with
    | ok tree => exact absurd ⟨check, tree, parse⟩ refused
    | error failure =>
      obtain ⟨failed, same⟩ := Station.parse_refused service.station parse
      exact (Outcome.andThen_of_ok checked).2.trans
        ((Outcome.andThen_of_error failed).2.trans same)

/-- A start that is refused changes nothing, and another one goes on to its end. It is refused by a
station that runs and by one without a tree, at once and in the same way as in one piece. -/
theorem start_undisturbed (settled : service.phase = .settled) (free : service.reload = none) :
    (service.call .start).GetsTo service.station.start.state .settled none := by
  cases running : service.station.dispatcher.isRunning with
  | true =>
    have refused : service.call .start = service := by simp [call, settled, running]
    have same : service.station.start.state = service.station := by
      simp [Station.start, running, Outcome.fail]
    rw [refused, same]
    exact gets_here rfl settled free
  | false =>
    cases unbuilt : service.station.dispatcher.book.tree.isNone with
    | true =>
      have refused : service.call .start = service := by simp [call, settled, running, unbuilt]
      have same : service.station.start.state = service.station := by
        simp [Station.start, running, unbuilt, Outcome.fail]
      rw [refused, same]
      exact gets_here rfl settled free
    | false =>
      have begun : service.call .start = service.beginStart := by
        simp [call, settled, running, unbuilt]
      rw [begun, Station.start_state running unbuilt]
      exact launch_gets rfl rfl

/-- There is nothing to stop without workers, and otherwise a stop goes on to its end. The
forwarders stop first, each with what it holds, and the loop routes all that is left. -/
theorem stop_undisturbed (orderly : service.Orderly) (settled : service.phase = .settled)
    (free : service.reload = none) :
    (service.call .stop).GetsTo service.station.stop.state .settled none := by
  have begun := (call_quiet orderly .stop).orderly
  cases running : service.station.dispatcher.isRunning with
  | false =>
    have refused : service.call .stop = service := by simp [call, settled, running]
    have same : service.station.stop.state = service.station := by
      have nobody : service.station.dispatcher.workers = none := by
        simpa [Dispatcher.isRunning] using running
      simp [Station.stop, nobody, Outcome.fail]
    rw [refused, same]
    exact gets_here rfl settled free
  | true =>
    have called : service.call .stop = { service with phase := .stopping 0 } := by
      simp [call, settled, running]
    rw [called] at begun ⊢
    have ends := stop_gets begun rfl
    simp only [free] at ends ⊢
    exact ends

/-- A reload that gets through the checks stops what is running and puts the deployment in place.
Where nothing was running it begins with the deployment, and a refused one changes nothing. -/
theorem reload_undisturbed (orderly : service.Orderly) (settled : service.phase = .settled)
    (free : service.reload = none) (deployment : Deployment) :
    (service.call (.reload deployment)).GetsTo (service.station.reconfigure deployment).state
      .settled none := by
  have begun := (call_quiet orderly (.reload deployment)).orderly
  by_cases checked : service.station.checkReload deployment.hosts = .ok () ∧
      ∃ tree, RoutingTree.ofHosts deployment.hosts.hosts = .ok tree
  · obtain ⟨unchanged, tree, accepted⟩ := checked
    have called : service.call (.reload deployment) = service.beginReload deployment := by
      simp only [call, settled, unchanged, accepted]
    have paused := (Station.pause_stops service.station).2
    rw [called] at begun ⊢
    rw [(Station.reconfigure_checked unchanged accepted).2]
    cases running : service.station.dispatcher.isRunning with
    | false =>
      have same : service.station.pause.state = service.station := by
        simp [Station.pause, running, Outcome.ok]
      have replacing : (service.beginReload deployment).phase = .replacing := by
        simp [beginReload, running]
      have renews : (service.beginReload deployment).reload = some ⟨deployment, false⟩ := by
        simp [beginReload, running]
      have idle : (service.beginReload deployment).station.dispatcher.isRunning = false := running
      rw [same]
      exact replace_gets idle replacing renews
    | true =>
      have stopping : (service.beginReload deployment).phase = .stopping 0 := by
        simp [beginReload, running]
      have renews : (service.beginReload deployment).reload = some ⟨deployment, true⟩ := by
        simp [beginReload, running]
      have same : service.station.pause.state = service.station.stop.state := by
        simp [Station.pause, running]
      have idle : service.station.pause.state.dispatcher.isRunning = false := by
        simp [Dispatcher.isRunning, paused]
      have ends := stop_gets begun stopping
      simp only [renews, Option.isSome_some, if_true] at ends
      rw [same] at idle ⊢
      refine gets_trans ends fun middle place replacing reload => ?_
      have here : middle.station = service.station.stop.state := place
      rw [← here] at idle ⊢
      exact replace_gets idle replacing reload
  · have refused : service.call (.reload deployment) = service := by
      simp only [call, settled]
      split
      · rename_i tree unchanged accepted
        exact absurd ⟨unchanged, tree, accepted⟩ checked
      · rfl
    rw [refused, reconfigure_refused checked]
    exact gets_here rfl settled free

/-- A build is made at once, and the other calls go on to their ends. So each call in pieces does
what it does in one piece, provided that nobody comes in between. -/
theorem call_gets (orderly : service.Orderly) (settled : service.phase = .settled)
    (free : service.reload = none) (order : Order) :
    (service.call order).GetsTo (service.station.perform order.asCall) .settled none := by
  cases order with
  | start => exact start_undisturbed settled free
  | stop => exact stop_undisturbed orderly settled free
  | reload deployment => exact reload_undisturbed orderly settled free deployment
  | build roster =>
    have built : service.call (.build roster) =
        { service with station := (service.station.build roster).state } := by
      simp only [call, settled]
    rw [built]
    exact gets_here rfl settled free

/-! ## Where calls begin -/

/-- A reload is worked on only while something is stopped or replaced, so that no later call takes
an earlier reload for its own. -/
def Free (service : Service) : Prop :=
  service.phase.stops = false → service.phase ≠ .replacing → service.reload = none

/-- Where no reload is worked on there is none that could be left over. -/
theorem free_of_none (none : service.reload = none) : service.Free := fun _ _ => none

/-- While something is stopped a reload may be worked on, and nothing is claimed. -/
theorem free_of_stops (stops : service.phase.stops = true) : service.Free := by
  intro still _
  rw [stops] at still
  cases still

/-- A call that is taken up begins without a reload, or with a new one. A service that is busy does
not take it up, and one that is settled has no reload under way. -/
theorem call_free (free : service.Free) (order : Order) : (service.call order).Free := by
  unfold call
  split
  · cases order with
    | build => exact free
    | start =>
      dsimp only
      split
      · exact free
      · exact free_of_none rfl
    | stop =>
      dsimp only
      split
      · exact free_of_stops rfl
      · exact free
    | reload deployment =>
      dsimp only
      split
      · unfold beginReload
        cases service.station.dispatcher.isRunning with
        | true => exact free_of_stops rfl
        | false => exact fun _ other => absurd rfl other
      · exact free
  · exact free

/-- A stop ends in the reload that it is part of, and that ends without one. So no reload is left
over for a later stop to go on with. -/
theorem advance_free (free : service.Free) : service.advance.Free := by
  unfold advance
  cases phase : service.phase with
  | settled => exact free
  | starting count =>
    have none : service.reload = none := free (by rw [phase]; rfl) (by simp [phase])
    dsimp only
    split <;> exact free_of_none none
  | stopping count =>
    dsimp only
    split <;> exact free_of_stops rfl
  | joining count | draining =>
    dsimp only
    split
    · exact free_of_stops rfl
    · exact free
  | closing => exact free_of_stops rfl
  | reopening =>
    cases service.reload with
    | none => exact free_of_none rfl
    | some renewal => exact fun _ other => absurd rfl other
  | replacing =>
    dsimp only
    split
    · rename_i reload
      exact free_of_none reload
    · unfold replace
      dsimp only
      split
      · exact free_of_none rfl
      · split <;> exact free_of_none rfl

/-- No move leaves a reload behind: it is dropped when its call comes to an end. -/
theorem free_after (free : service.Free) (move : Move) : (service.after move).Free := by
  cases move with
  | gather | dispatch | ask | elsewhere => exact free
  | call order => exact call_free free order
  | advance => exact advance_free free
  | push door message =>
    change (service.push door message).Free
    unfold push
    split <;> exact free

/-- So there is none in a run when no call is worked on. -/
theorem run_free (host : String) (moves : List Move) : ((create host).run moves).Free := by
  induction moves using List.reverseRecOn with
  | nil => exact fun _ _ => rfl
  | append_singleton earlier last inductionHypothesis =>
    rw [run_append]
    exact free_after inductionHypothesis last

/-- After any call that is taken up, left to its workers, a service gets to the station that
the call leaves behind when nothing comes in between. -/
theorem call_undisturbed (host : String) (moves : List Move)
    (permitted : (create host).Permitted moves)
    (settled : ((create host).run moves).phase = .settled) (order : Order) :
    let service := (create host).run moves
    (service.call order).GetsTo (service.station.perform order.asCall) .settled none := by
  intro service
  have free : service.reload = none :=
    run_free host moves (by rw [settled]; rfl) (by simp [settled])
  exact call_gets (run_books host permitted).1 settled free order

end Service

end RelayTree
