import RelayTree.Proofs.Dispatcher.Traces
import RelayTree.Proofs.Service.Custody

/-!
# Every message is counted once

Each of the four routers of a host counts the messages that it routes, as routed or as dropped.
A message that goes through the dispatcher is counted there, and once more by the strategy that
the dispatcher picks, and both count the same way, for there is one result. A message for which
the dispatcher has no strategy is counted by the dispatcher alone.

A `Handling` is what the counters should have of one message, written down beside the run: who had
it, and what came of it. All counts are modulo 2^64, as the counters are.
-/

namespace RelayTree

/-- One counter each for forwarded messages and for others has gone on by a message for every
result. -/
structure Counters.Counts (before : Counters) (results : List (Except Failure Delivery))
    (after : Counters) : Prop where
  routed : after.routed = before.routed + UInt64.ofNat (results.countP Station.isForwarded)
  dropped : after.dropped = before.dropped + UInt64.ofNat (results.countP (!Station.isForwarded ·))

namespace Counters

variable {before middle after : Counters} {first second : List (Except Failure Delivery)}

/-- Of no message nothing is counted, so counters that stay the same have counted nothing. -/
theorem counts_nothing (counters : Counters) : counters.Counts [] counters := ⟨by simp, by simp⟩

/-- What is counted in two stretches is counted in both together. The counts are sums modulo 2^64,
for which no bound is needed. -/
theorem counts_trans (earlier : before.Counts first middle) (later : middle.Counts second after) :
    before.Counts (first ++ second) after where
  routed := by
    rw [later.routed, earlier.routed, List.countP_append, UInt64.ofNat_add, UInt64.add_assoc]
  dropped := by
    rw [later.dropped, earlier.dropped, List.countP_append, UInt64.ofNat_add, UInt64.add_assoc]

/-- A tally is a count of one, on the side that its result belongs to. -/
theorem counts_tally (before : Counters) (result : Except Failure Delivery) :
    before.Counts [result] (Station.tally result before) := by
  match result with
  | .ok .forwarded => exact ⟨rfl, (UInt64.add_zero _).symm⟩
  | .ok .dropped => exact ⟨(UInt64.add_zero _).symm, rfl⟩
  | .error _ => exact ⟨(UInt64.add_zero _).symm, rfl⟩

end Counters

/-! ## Who counts what -/

/-- What happens at a host: a move of its service, or a router is given a message or a question. -/
inductive Deed where
  | move (move : Move)
  | route (router : Router) (message : Message)
  | ask (router : Router) (host : String)

/-- A strategy is given a message past the dispatcher, so that the dispatcher does not count it. -/
def Deed.isDirect : Deed → Bool
  | .route (.strategy _) _ => true
  | _ => false

/-- What became of a message that was routed: whether the dispatcher had it, which strategy had
it, if one had, and what came of it. -/
structure Handling where
  dispatched : Bool
  strategy : Option Strategy
  result : Except Failure Delivery

namespace Handling

/-- A router had the message, be it as the dispatcher or as the strategy that was picked or
asked. -/
def wasAt (handling : Handling) : Router → Bool
  | .dispatcher => handling.dispatched
  | .strategy strategy => handling.strategy = some strategy

/-- The dispatcher refused the message before it had picked a strategy, so that no strategy counts
it. -/
def turnedAway (handling : Handling) : Bool := handling.dispatched && handling.strategy.isNone

/-- What came of the messages that a router had, in the order in which it had them. -/
def resultsAt (router : Router) (ledger : List Handling) : List (Except Failure Delivery) :=
  (ledger.filter (·.wasAt router)).map (·.result)

/-- What a router had in two stretches is what it had in the one and then in the other. -/
theorem results_append (router : Router) (first second : List Handling) :
    resultsAt router (first ++ second) = resultsAt router first ++ resultsAt router second := by
  simp [resultsAt]

end Handling

namespace Station

/-- What becomes of a message that a router is given, as it goes on record. It is read off the
station before the message is routed. -/
def handling (station : Station) (router : Router) (message : Message) : Handling where
  dispatched := router = .dispatcher
  strategy :=
    match router with
    | .dispatcher => (station.dispatcher.select message).toOption
    | .strategy strategy => some strategy
  result := (station.routeBy router message).result

end Station

namespace Service

/-- The service after a deed, be it a move of the service or something that is done past its
dispatcher. -/
def perform (service : Service) : Deed → Service
  | .move move => service.after move
  | .route router message =>
    { service with station := (service.station.routeBy router message).state }
  | .ask router host => { service with station := (service.station.reachBy router host).2 }

/-- The messages that are routed in a deed. A move routes one only where the loop takes a step with
a message in its hand. -/
def handlings (service : Service) : Deed → List Handling
  | .move .dispatch => service.station.loopHand.map (service.station.handling .dispatcher)
  | .move _ => []
  | .route router message => [service.station.handling router message]
  | .ask .. => []

/-- The service after deeds in order, whatever came of each. -/
def performAll (service : Service) (deeds : List Deed) : Service := deeds.foldl perform service

/-- The messages that are routed in deeds in order. The record is written beside the run, and no
deed looks at it. -/
def ledger : Service → List Deed → List Handling
  | _, [] => []
  | service, deed :: rest => service.handlings deed ++ (service.perform deed).ledger rest

end Service

/-! ## What is not counted -/

/-- Of a change of one set of counters the others take no notice. -/
theorem RouteBook.counters_count (book : RouteBook) (strategy other : Strategy)
    (change : Counters → Counters) :
    (book.count strategy change).counters other =
      if other = strategy then change (book.counters other) else book.counters other := by
  cases strategy <;> cases other <;> rfl

/-- A look-up is no message: it counts a hit or a miss and nothing as routed or dropped. -/
theorem RouteBook.resolve_uncounted (book : RouteBook) (current target : String)
    (strategy : Strategy) :
    (book.counters strategy).Counts [] ((book.resolveDown current target).2.counters strategy) := by
  have looked : ∃ change, (book.resolveDown current target).2.counters strategy =
      (book.count .downward change).counters strategy ∧
        (change = Counters.addHit ∨ change = Counters.addMiss) := by
    unfold resolveDown
    split
    · exact ⟨_, rfl, .inl rfl⟩
    · refine ⟨Counters.addMiss, ?_, .inr rfl⟩
      split
      · rfl
      · cases strategy <;> rfl
  obtain ⟨change, same, kind⟩ := looked
  rw [same, counters_count]
  split
  · rcases kind with rfl | rfl <;> exact ⟨(UInt64.add_zero _).symm, (UInt64.add_zero _).symm⟩
  · exact Counters.counts_nothing _

namespace Exchange

/-- A question is no message, whichever strategy is asked and whichever counters are looked at. -/
theorem reaches_uncounted (exchange : Exchange) (asked strategy : Strategy) (host : String) :
    (exchange.book.counters strategy).Counts []
      ((exchange.reaches asked host).2.book.counters strategy) := by
  cases asked with
  | onHost | upward => exact Counters.counts_nothing _
  | downward => exact RouteBook.resolve_uncounted exchange.book exchange.desk.host host strategy

/-- A strategy counts its message, by what came of it, and the others count nothing. -/
theorem route_counted (exchange : Exchange) (asked strategy : Strategy) (message : Message) :
    (exchange.book.counters strategy).Counts
      (if strategy = asked then [(exchange.route asked message).result] else [])
      ((exchange.route asked message).state.book.counters strategy) := by
  have looked := reaches_uncounted exchange asked strategy message.target.host
  rw [(route_passes exchange asked message).book, RouteBook.counters_count]
  split
  · exact Counters.counts_trans looked (Counters.counts_tally ..)
  · exact looked

end Exchange

namespace Station

/-- No router has counted a message. It says so of all four at once, since every move but a routing
leaves all of them alone. -/
def Uncounted (before after : Station) : Prop :=
  ∀ router, (before.countersOf router).Counts [] (after.countersOf router)

variable {before middle after : Station}

/-- Where nothing was counted in two stretches, nothing was counted in both. -/
theorem uncounted_trans (first : before.Uncounted middle) (second : middle.Uncounted after) :
    before.Uncounted after := fun router => Counters.counts_trans (first router) (second router)

/-- Counters that are the same have counted nothing, whatever else is different at the station. Most
steps of a service leave them alone, so this settles most cases of what follows. -/
theorem uncounted_same
    (book : after.dispatcher.book.counters = before.dispatcher.book.counters)
    (counters : after.dispatcher.counters = before.dispatcher.counters) :
    before.Uncounted after := by
  intro router
  have same : after.countersOf router = before.countersOf router := by
    cases router with
    | dispatcher => exact counters
    | strategy strategy => exact congrFun book strategy
  rw [same]
  exact Counters.counts_nothing _

/-- No question is counted, whomever it is for. A downward look-up changes a hit or a miss, which
are not messages. -/
theorem reach_uncounted (station : Station) (router : Router) (host : String) :
    station.Uncounted (station.reachBy router host).2 := by
  have adopted (strategy : Strategy) :
      station.Uncounted (station.adopt (station.exchange.reaches strategy host).2) := by
    intro counting
    cases counting with
    | dispatcher => exact Counters.counts_nothing _
    | strategy other => exact Exchange.reaches_uncounted station.exchange strategy other host
  cases router with
  | strategy strategy => exact adopted strategy
  | dispatcher =>
    rw [reachBy, canReach]
    split
    · exact uncounted_same rfl rfl
    · exact adopted _

/-- A build counts nothing, whether it succeeds or fails. The book that comes with a new tree has
the counters of the book before. -/
theorem build_uncounted (station : Station) (roster : Roster) :
    station.Uncounted (station.build roster).state := by
  cases outcome : (station.build roster).result with
  | error failure =>
    rw [build_failed outcome]
    exact uncounted_same rfl rfl
  | ok =>
    obtain ⟨tree, _, _, state⟩ := build_succeeded outcome
    rw [state]
    refine uncounted_same (funext fun strategy => ?_) rfl
    cases strategy <;> rfl

/-- A change of a forwarder counts nothing, since counters are no part of the workers. -/
theorem adjust_uncounted (station : Station) (position : Nat) (change : Forwarder → Forwarder) :
    station.Uncounted (station.adjust position change) := by
  unfold adjust
  split <;> exact uncounted_same rfl rfl

/-- A step of a forwarder counts nothing: a message is counted when it is routed and not when it is
carried. -/
theorem merge_uncounted (station : Station) (position : Nat) :
    station.Uncounted (station.mergeStep position) := by
  unfold mergeStep
  split <;> exact uncounted_same rfl rfl

/-! ## What is counted -/

/-- A message that a router is given is counted once by each router that has it. If the dispatcher
is given the message, it counts the result that the strategy has counted, and other strategies count
nothing. If a strategy is given it, the dispatcher does not get to know of it. -/
theorem route_by_counted (station : Station) (asked router : Router) (message : Message) :
    (station.countersOf router).Counts
      (Handling.resultsAt router [station.handling asked message])
      ((station.routeBy asked message).state.countersOf router) := by
  cases asked with
  | strategy asked =>
    cases router with
    | dispatcher => exact Counters.counts_nothing _
    | strategy strategy =>
      have counted := Exchange.route_counted station.exchange asked strategy message
      have results : Handling.resultsAt (.strategy strategy)
          [station.handling (.strategy asked) message] =
          if strategy = asked then [(station.exchange.route asked message).result] else [] := by
        by_cases same : strategy = asked
        · subst same
          simp [Handling.resultsAt, Handling.wasAt, handling, routeBy, Outcome.within]
        · simp [Handling.resultsAt, Handling.wasAt, handling, same, Ne.symm same]
      rw [results]
      exact counted
  | dispatcher =>
    cases router with
    | dispatcher =>
      have counted := Counters.counts_tally station.dispatcher.counters
        (station.route message).result
      rw [← route_counters] at counted
      exact counted
    | strategy strategy =>
      cases selected : station.dispatcher.select message with
      | error failure =>
        have results : Handling.resultsAt (.strategy strategy)
            [station.handling .dispatcher message] = [] := by
          simp [Handling.resultsAt, Handling.wasAt, handling, selected, Except.toOption]
        have state : (station.routeBy .dispatcher message).state =
            station.count (tally (.error failure)) := by
          simp only [routeBy, route, selected]
          rfl
        rw [results, state]
        exact Counters.counts_nothing _
      | ok picked =>
        have counted := Exchange.route_counted station.exchange picked strategy message
        have result : (station.route message).result =
            (station.exchange.route picked message).result := by
          simp only [route, selected]
        have results : Handling.resultsAt (.strategy strategy)
            [station.handling .dispatcher message] =
            if strategy = picked then [(station.exchange.route picked message).result] else [] := by
          by_cases same : strategy = picked
          · subst same
            simp [Handling.resultsAt, Handling.wasAt, handling, routeBy, selected,
              Except.toOption, result]
          · simp [Handling.resultsAt, Handling.wasAt, handling, selected, Except.toOption,
              same, Ne.symm same]
        have state : (station.routeBy .dispatcher message).state.countersOf (.strategy strategy) =
            (station.exchange.route picked message).state.book.counters strategy := by
          simp only [routeBy, route, selected]
          rfl
        rw [results, state]
        exact counted

end Station

namespace Service

/-- A call that is made counts nothing yet, be it accepted or refused. Apart from a build, a call
that is accepted only begins something, and the steps that follow it are counted for themselves. -/
theorem call_uncounted (service : Service) (order : Order) :
    service.station.Uncounted (service.call order).station := by
  have nothing : service.station.Uncounted service.station := Station.uncounted_same rfl rfl
  unfold call
  split
  · cases order with
    | start =>
      dsimp only
      split
      · exact nothing
      · exact Station.uncounted_same rfl rfl
    | stop =>
      dsimp only
      split <;> exact nothing
    | build roster => exact Station.build_uncounted service.station roster
    | reload deployment =>
      dsimp only
      split <;> exact nothing
  · exact nothing

/-- Putting a deployment in place counts nothing, however far it gets. It is a build and then
registrations, and no strategy is asked for anything in either. -/
theorem replace_uncounted (service : Service) (reload : Reload) :
    service.station.Uncounted (service.replace reload).station := by
  have replaced : service.station.Uncounted
      ((service.station.build reload.deployment.hosts).andThen fun station _ =>
        station.replaceModules reload.deployment).state :=
    Outcome.andThen_keeps (service.station.Uncounted ·) (Station.build_uncounted _ _)
      fun station _ first => Station.uncounted_trans first (Station.uncounted_same rfl rfl)
  unfold replace
  dsimp only
  split
  · exact replaced
  · split
    · exact Station.uncounted_trans replaced (Station.uncounted_same rfl rfl)
    · exact replaced

/-- No other step of a call counts anything either, by cases on the phase it has come to. -/
theorem advance_uncounted (service : Service) :
    service.station.Uncounted service.advance.station := by
  have nothing : service.station.Uncounted service.station := Station.uncounted_same rfl rfl
  unfold advance
  cases service.phase with
  | settled => exact nothing
  | starting count =>
    dsimp only
    split
    · exact Station.adjust_uncounted _ _ _
    · unfold Station.beginLoop
      dsimp only
      split <;> exact Station.uncounted_same rfl rfl
  | stopping count =>
    dsimp only
    split
    · exact Station.adjust_uncounted _ _ _
    · exact nothing
  | joining count =>
    dsimp only
    split
    · exact Station.adjust_uncounted _ _ _
    · exact nothing
  | closing => exact Station.uncounted_same rfl rfl
  | draining =>
    dsimp only
    split
    · exact Station.uncounted_same rfl rfl
    · exact nothing
  | reopening => exact Station.uncounted_same rfl rfl
  | replacing =>
    dsimp only
    split
    · exact nothing
    · exact replace_uncounted service _

/-- The loop routes what it holds, and that is counted by the dispatcher and by the strategy that it
picks. -/
theorem dispatch_counted (service : Service) (router : Router) :
    (service.station.countersOf router).Counts
      (Handling.resultsAt router (service.handlings (.move .dispatch)))
      (service.station.loopStep.countersOf router) := by
  have nothing (station : Station)
      (same : station.dispatcher.book = service.station.dispatcher.book)
      (counters : station.dispatcher.counters = service.station.dispatcher.counters) :
      (service.station.countersOf router).Counts [] (station.countersOf router) :=
    Station.uncounted_same (congrArg RouteBook.counters same) counters router
  rw [handlings, Station.loopHand, Station.loopStep]
  cases service.station.dispatcher.workers with
  | none => exact nothing _ rfl rfl
  | some workers =>
    dsimp only
    cases workers.loop with
    | done => exact nothing _ rfl rfl
    | waiting =>
      dsimp only
      split <;> exact nothing _ rfl rfl
    | holding message =>
      have counted := Station.route_by_counted service.station .dispatcher router message
      dsimp only
      rw [Station.route_with_workers]
      cases router <;> exact counted

/-- Every deed counts the messages that are routed in it, and nothing else. Besides messages that
somebody gives to a router there are those that the loop hands to the dispatcher; questions, calls
and forwarders route nothing. -/
theorem perform_counted (service : Service) (deed : Deed) (router : Router) :
    (service.station.countersOf router).Counts
      (Handling.resultsAt router (service.handlings deed))
      ((service.perform deed).station.countersOf router) := by
  cases deed with
  | route asked message => exact Station.route_by_counted service.station asked router message
  | ask asked host => exact Station.reach_uncounted service.station asked host router
  | move move =>
    cases move with
    | dispatch => exact dispatch_counted service router
    | gather door => exact Station.merge_uncounted service.station _ router
    | call order => exact call_uncounted service order router
    | advance => exact advance_uncounted service router
    | ask host => exact Station.reach_uncounted service.station .dispatcher host router
    | elsewhere board users queues => exact Station.uncounted_same rfl rfl router
    | push door message =>
      have same : service.station.Uncounted (service.push door message).station := by
        unfold push
        split <;> exact Station.uncounted_same rfl rfl
      exact same router

/-- Deeds in order count what is on record of them, by induction on the deeds. -/
theorem perform_all_counted (service : Service) (deeds : List Deed) (router : Router) :
    (service.station.countersOf router).Counts
      (Handling.resultsAt router (service.ledger deeds))
      ((service.performAll deeds).station.countersOf router) := by
  induction deeds generalizing service with
  | nil => exact Counters.counts_nothing _
  | cons deed rest inductionHypothesis =>
    rw [ledger, Handling.results_append]
    exact Counters.counts_trans (perform_counted service deed router) (inductionHypothesis _)

end Service

/-! ## The dispatcher and its strategies -/

namespace Handling

/-- The dispatcher had the message, and if it was forwarded then by some strategy. -/
structure Dispatched (handling : Handling) : Prop where
  dispatched : handling.dispatched = true
  picked : Station.isForwarded handling.result = true → handling.strategy ≠ none

/-- What a message contributes to a router's number of results of some kind. -/
def share (kind : Except Failure Delivery → Bool) (handling : Handling) (router : Router) : Nat :=
  if handling.wasAt router && kind handling.result then 1 else 0

/-- How many results of some kind a router had, as a number and not modulo anything. -/
def countAt (kind : Except Failure Delivery → Bool) (ledger : List Handling) (router : Router) :
    Nat :=
  (resultsAt router ledger).countP kind

/-- The sum of a number over the strategies, which is compared with that of the dispatcher. It is a
sum of natural numbers, before anything is taken modulo 2^64. -/
def overStrategies (number : Router → Nat) : Nat :=
  number (.strategy .onHost) + number (.strategy .upward) + number (.strategy .downward)

/-- One message more adds its share to the count, which is one if the router had it with such a
result and nothing otherwise. -/
theorem count_at_cons (kind : Except Failure Delivery → Bool) (handling : Handling)
    (rest : List Handling) (router : Router) :
    countAt kind (handling :: rest) router =
      share kind handling router + countAt kind rest router := by
  rw [countAt, resultsAt, List.filter_cons, share]
  by_cases was : handling.wasAt router = true
  · by_cases counts : kind handling.result = true
    · simp [countAt, resultsAt, was, counts, Nat.add_comm]
    · simp [countAt, resultsAt, was, counts]
  · simp [countAt, resultsAt, was]

/-- A message that the dispatcher had was had by one strategy, or it was turned away. Forwarded ones
were not turned away, so turned away messages stand with the dropped ones only. -/
theorem shares_add_up {handling : Handling} (dispatched : handling.Dispatched) :
    share Station.isForwarded handling .dispatcher =
        overStrategies (share Station.isForwarded handling) ∧
      share (!Station.isForwarded ·) handling .dispatcher =
        overStrategies (share (!Station.isForwarded ·) handling) +
          if handling.turnedAway then 1 else 0 := by
  obtain ⟨had, picked⟩ := dispatched
  obtain ⟨wasDispatched, strategy, result⟩ := handling
  obtain rfl : wasDispatched = true := had
  cases strategy with
  | none =>
    have lost : Station.isForwarded result = false := by
      rw [← Bool.not_eq_true]
      exact fun passed => picked passed rfl
    simp [share, overStrategies, wasAt, turnedAway, lost]
  | some strategy =>
    cases strategy <;> simp [share, overStrategies, wasAt, turnedAway]

/-- So the numbers of the strategies add up to those of the dispatcher. They are added up message by
message, as natural numbers; what becomes of them modulo 2^64 is not looked at here. -/
theorem counts_add_up {ledger : List Handling}
    (dispatched : ∀ handling ∈ ledger, handling.Dispatched) :
    countAt Station.isForwarded ledger .dispatcher =
        overStrategies (countAt Station.isForwarded ledger) ∧
      countAt (!Station.isForwarded ·) ledger .dispatcher =
        overStrategies (countAt (!Station.isForwarded ·) ledger) + ledger.countP turnedAway := by
  induction ledger with
  | nil => exact ⟨rfl, rfl⟩
  | cons handling rest inductionHypothesis =>
    obtain ⟨forwarded, others⟩ := inductionHypothesis fun other member =>
      dispatched other (List.mem_cons_of_mem _ member)
    obtain ⟨forwardedNow, othersNow⟩ := shares_add_up (dispatched handling List.mem_cons_self)
    simp only [overStrategies] at forwarded others forwardedNow othersNow ⊢
    simp only [count_at_cons, List.countP_cons]
    omega

end Handling

namespace Service

/-- What the dispatcher routes is forwarded by the strategy that it picks, with the same result.
Only a refusal comes without strategy. -/
theorem handling_dispatched (station : Station) (message : Message) :
    (station.handling .dispatcher message).Dispatched where
  dispatched := rfl
  picked := by
    intro forwarded
    simp only [Station.handling, Station.routeBy, Station.route] at forwarded ⊢
    cases selected : station.dispatcher.select message with
    | error failure =>
      rw [selected] at forwarded
      cases forwarded
    | ok strategy => simp [Except.toOption]

/-- Unless strategies are given messages directly, the dispatcher has all of them. This is an
induction on the deeds in which the service changes from deed to deed, while the condition is about
the deeds alone. -/
theorem ledger_dispatched (service : Service) (deeds : List Deed)
    (through : ∀ deed ∈ deeds, deed.isDirect = false) :
    ∀ handling ∈ service.ledger deeds, handling.Dispatched := by
  induction deeds generalizing service with
  | nil => simp [ledger]
  | cons deed rest inductionHypothesis =>
    intro handling member
    rcases List.mem_append.mp member with now | later
    · have own := through deed List.mem_cons_self
      cases deed with
      | ask => cases now
      | route router message =>
        cases router with
        | strategy => cases own
        | dispatcher =>
          obtain rfl := List.mem_singleton.mp now
          exact handling_dispatched service.station message
      | move move =>
        cases move with
        | dispatch =>
          obtain ⟨message, _, rfl⟩ := List.mem_map.mp now
          exact handling_dispatched service.station message
        | push | gather | call | advance | ask | elsewhere => cases now
    · exact inductionHypothesis (service.perform deed)
        (fun deed member => through deed (List.mem_cons_of_mem _ member)) handling later

/-- The counters of all four routers of a host account for every message, whatever happens at the
host in whatever order. Each router has counted each message that it had once, as routed if it was
forwarded and as dropped if not; so does every further message that any router is given, and no
question counts. As long as strategies get their messages from the dispatcher only, it has routed
what the three have routed together, and has dropped what they have dropped together and what it
turned away itself.

Proof: a ledger is written beside the run, with one entry for each message that some router had. By
induction on the deeds every router has counted just its own entries. An entry of the dispatcher is
also an entry of the strategy that it picked, with the same result, or of no strategy if the message
was turned away. So the sums are compared on the ledger as natural numbers, entry by entry, and only
the outcome is taken modulo 2^64. -/
theorem every_message_counted_once (host : String) (deeds : List Deed) :
    let station := ((create host).performAll deeds).station
    let ledger := (create host).ledger deeds
    (∀ router, Counters.zero.Counts (Handling.resultsAt router ledger)
      (station.countersOf router)) ∧
    (∀ router message, let outcome := station.routeBy router message
      (station.countersOf router).Counts [outcome.result] (outcome.state.countersOf router)) ∧
    (∀ asked name router, (station.countersOf router).Counts []
      ((station.reachBy asked name).2.countersOf router)) ∧
    ((∀ deed ∈ deeds, deed.isDirect = false) →
      (station.countersOf .dispatcher).routed =
          (station.countersOf (.strategy .onHost)).routed +
          (station.countersOf (.strategy .upward)).routed +
          (station.countersOf (.strategy .downward)).routed ∧
        (station.countersOf .dispatcher).dropped =
          (station.countersOf (.strategy .onHost)).dropped +
          (station.countersOf (.strategy .upward)).dropped +
          (station.countersOf (.strategy .downward)).dropped +
          UInt64.ofNat (ledger.countP Handling.turnedAway)) := by
  intro station ledger
  have counted (router : Router) :
      Counters.zero.Counts (Handling.resultsAt router ledger) (station.countersOf router) := by
    have all := perform_all_counted (create host) deeds router
    cases router with
    | dispatcher => exact all
    | strategy strategy => cases strategy <;> exact all
  refine ⟨counted, fun router message => ?_, fun asked name router => ?_, fun through => ?_⟩
  · have once := Station.route_by_counted station router router message
    cases router with
    | dispatcher => exact once
    | strategy strategy =>
      have own : Handling.resultsAt (.strategy strategy)
          [station.handling (.strategy strategy) message] =
          [(station.routeBy (.strategy strategy) message).result] := by
        simp [Handling.resultsAt, Handling.wasAt, Station.handling]
      rwa [own] at once
  · exact Station.reach_uncounted station asked name router
  · obtain ⟨forwarded, others⟩ := Handling.counts_add_up
      (ledger_dispatched (create host) deeds through)
    have routed (router : Router) : (station.countersOf router).routed =
        UInt64.ofNat (Handling.countAt Station.isForwarded ledger router) :=
      (counted router).routed.trans (UInt64.zero_add _)
    have dropped (router : Router) : (station.countersOf router).dropped =
        UInt64.ofNat (Handling.countAt (!Station.isForwarded ·) ledger router) :=
      (counted router).dropped.trans (UInt64.zero_add _)
    simp only [routed, dropped, ← UInt64.ofNat_add]
    exact ⟨congrArg UInt64.ofNat forwarded, congrArg UInt64.ofNat others⟩

/-- A host is built and gets three messages: one for itself, one for a client that is not
connected, and one for a host that nobody has described. -/
def threeMessages : List Deed :=
  let hosts : Roster := ⟨RoutingTree.quartet, RoutingTree.quartet_distinct⟩
  let own : Message :=
    ⟨"a", "", ⟨"", ""⟩, ⟨"Server2", ""⟩, "", 0, .control ⟨.connectedToServer, "", ""⟩⟩
  let stray : Message := ⟨"b", "", ⟨"", ""⟩, ⟨"Nowhere", ""⟩, "", 0, .data .empty⟩
  [.move (.call (.build hosts)), .route .dispatcher own, .route .dispatcher Station.undeliverable,
    .route .dispatcher stray]

/-- The first is routed, the second is dropped by a strategy, and the third is turned away. -/
theorem three_messages_add_up :
    let station := ((create "Server2").performAll threeMessages).station
    (∀ deed ∈ threeMessages, deed.isDirect = false) ∧
      (station.countersOf .dispatcher).routed = 1 ∧ (station.countersOf .dispatcher).dropped = 2 ∧
      (station.countersOf (.strategy .downward)).dropped = 1 ∧
      (station.countersOf .dispatcher).dropped =
        (station.countersOf (.strategy .onHost)).dropped +
        (station.countersOf (.strategy .upward)).dropped +
        (station.countersOf (.strategy .downward)).dropped + 1 := by
  intro station
  have through : ∀ deed ∈ threeMessages, deed.isDirect = false := by decide
  obtain ⟨_, _, _, sums⟩ := every_message_counted_once "Server2" threeMessages
  obtain ⟨_, dropped⟩ := sums through
  have away : ((create "Server2").ledger threeMessages).countP Handling.turnedAway = 1 := by rfl
  rw [away] at dropped
  exact ⟨through, rfl, rfl, rfl, dropped⟩

end Service

end RelayTree
