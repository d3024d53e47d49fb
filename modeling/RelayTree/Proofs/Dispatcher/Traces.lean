import RelayTree.Dispatcher.Router
import RelayTree.Proofs.Dispatcher.Reachability

/-!
# What a message leaves behind

A strategy first looks for the way to the target of a message, as it also does when it is asked
whether it reaches a host, and in the end it counts the message once. `Passes` says that between
the two nothing happens to the book, and that nothing at all happens to desk and queues unless
the message is forwarded. So a message that is refused or dropped leaves no trace but what was
counted and what the look-up remembered. `lasting` is the station without these.
-/

namespace RelayTree

/-! ## The strategies -/

/-- What is not forwarded is counted as dropped, be it refused or dropped. -/
theorem Station.tally_unforwarded {result : Except Failure Delivery}
    (unforwarded : result ≠ .ok .forwarded) : tally result = Counters.addDropped := by
  match result with
  | .ok .forwarded => exact absurd rfl unforwarded
  | .ok .dropped => rfl
  | .error _ => rfl

namespace Exchange

/-- A strategy has counted what came of a message, and unless it forwarded the message it has
changed nothing else. -/
structure Passes (exchange : Exchange) (strategy : Strategy)
    (outcome : Outcome Exchange Delivery) : Prop where
  book : outcome.state.book = exchange.book.count strategy (Station.tally outcome.result)
  unforwarded : outcome.result ≠ .ok .forwarded →
    outcome.state.desk = exchange.desk ∧ outcome.state.queues = exchange.queues

variable {exchange : Exchange} {strategy : Strategy} {message : Message}

/-- Log events are no change of anything that is looked at here. -/
theorem after_passes {outcome : Outcome Exchange Delivery} (events : List Event)
    (passes : exchange.Passes strategy outcome) :
    exchange.Passes strategy (outcome.after events) := ⟨passes.book, passes.unforwarded⟩

/-- A message that is forwarded may change desk and queues, and counts as routed in the book. -/
theorem forwarded_passes {changed : Exchange} (book : changed.book = exchange.book) :
    exchange.Passes strategy (changed.forwarded strategy) :=
  ⟨congrArg (·.count strategy Counters.addRouted) book, absurd rfl⟩

/-- A message that is dropped is counted, and nothing else happens. -/
theorem dropped_passes : exchange.Passes strategy (exchange.dropped strategy) :=
  ⟨rfl, fun _ => ⟨rfl, rfl⟩⟩

/-- A message that is refused is counted as dropped, and nothing else happens. -/
theorem refused_passes (failure : Failure) :
    exchange.Passes strategy (exchange.refused strategy failure) := ⟨rfl, fun _ => ⟨rfl, rfl⟩⟩

/-- A queue takes the message, or it is dropped; in either case it is counted once. -/
theorem queued_passes (taken : Option QueueStore) (closed : Event) :
    exchange.Passes strategy (exchange.queued strategy taken closed) := by
  cases taken with
  | none => exact after_passes _ dropped_passes
  | some queues => exact forwarded_passes rfl

/-- An administrative message goes to the control queue, or is dropped. -/
theorem control_passes (exchange : Exchange) (message : Message) :
    exchange.Passes .onHost (exchange.deliverControl message) := by
  unfold deliverControl
  split
  · exact after_passes _ (forwarded_passes rfl)
  · exact after_passes _ dropped_passes

/-- A publication that is refused has not come to its subscribers, and has fixed no type. One that
is accepted is always forwarded, and then nothing is asked about traces. -/
theorem publication_passes (exchange : Exchange) (message : Message) :
    exchange.Passes .onHost (exchange.deliverPublication message) := by
  cases accepted : exchange.desk.board.channels.accept message with
  | error failure =>
    have refused : exchange.desk.board.publish exchange.queues message =
        .fail (exchange.desk.board, exchange.queues) failure := by
      simp only [Switchboard.publish, accepted]
    rw [deliverPublication, refused]
    exact after_passes _ (refused_passes failure)
  | ok found =>
    obtain ⟨name, subscribers, channels⟩ := found
    obtain ⟨copies, counted⟩ := Switchboard.copies_counted exchange.desk.board.registry name
      message subscribers exchange.queues
    simp only [deliverPublication, Switchboard.publish, accepted, Outcome.within, counted]
    exact after_passes _ (forwarded_passes rfl)

/-- A message for a module goes to the runtime of the module. It is dropped if the queue is closed,
and refused if there is no such runtime. -/
theorem module_passes (exchange : Exchange) (message : Message) :
    exchange.Passes .onHost (exchange.deliverToModule message) := by
  unfold deliverToModule
  split
  · exact refused_passes _
  · exact after_passes _ (queued_passes ..)

/-- Delivery on the host makes no look-up, so its book differs by the count alone. -/
theorem here_passes (exchange : Exchange) (message : Message) :
    exchange.Passes .onHost (exchange.deliverOnHost message) := by
  unfold deliverOnHost
  split
  · exact control_passes exchange message
  · split
    · exact publication_passes exchange message
    · exact module_passes exchange message

/-- Sending upward makes no look-up that is remembered, so its book differs by the count alone. -/
theorem up_passes (exchange : Exchange) (message : Message) :
    exchange.Passes .upward (exchange.sendUpward message) := by
  unfold sendUpward
  split
  · exact after_passes _ (queued_passes ..)
  · exact refused_passes _

/-- Copies for users are counted as one message, however many there are. -/
theorem to_users_passes (exchange : Exchange) (message : Message) :
    exchange.Passes .downward (exchange.sendToUsers message) := by
  unfold sendToUsers
  split
  · exact after_passes _ dropped_passes
  · exact after_passes _ (forwarded_passes rfl)

/-- Sending by the next hop counts the message once, whichever of the four cases is met. -/
theorem via_passes (exchange : Exchange) (message : Message) (hop : String) :
    exchange.Passes .downward (exchange.sendVia message hop) := by
  unfold sendVia
  split
  · exact after_passes _ dropped_passes
  · exact after_passes _ dropped_passes
  · exact after_passes _ (queued_passes ..)
  · exact refused_passes _

/-- The way down is looked up first. What follows is told from the book that the look-up leaves. -/
theorem down_passes (exchange : Exchange) (message : Message) :
    (exchange.resolveDown message.target.host).2.Passes .downward
      (exchange.sendDownward message) := by
  unfold sendDownward
  split
  · rename_i found
    rw [found]
    exact to_users_passes ..
  · rename_i found
    rw [found]
    exact via_passes ..
  · rename_i found
    rw [found]
    exact refused_passes _

/-- A strategy looks the target up, and counts what came of the message. -/
theorem route_passes (exchange : Exchange) (strategy : Strategy) (message : Message) :
    (exchange.reaches strategy message.target.host).2.Passes strategy
      (exchange.route strategy message) := by
  cases strategy with
  | onHost => exact here_passes exchange message
  | upward => exact up_passes exchange message
  | downward => exact down_passes exchange message

end Exchange

/-! ## What lasts -/

/-- The counters without all that is counted of messages that are not forwarded. -/
def Counters.lasting (counters : Counters) : Counters :=
  { Counters.zero with routed := counters.routed }

/-- The book without remembered paths, with what lasts of its counters. Two books that differ only
by look-ups and drops have the same. -/
def RouteBook.lasting (book : RouteBook) : RouteBook where
  tree := book.tree
  cache := .empty
  onHost := book.onHost.lasting
  upward := book.upward.lasting
  downward := book.downward.lasting

/-- The station with what lasts of its counters, and without remembered paths. Its desk and its
queues stay what they are, and so does whether it is running. -/
def Station.lasting (station : Station) : Station :=
  { station with
    dispatcher :=
      { station.dispatcher with
        book := station.dispatcher.book.lasting
        counters := station.dispatcher.counters.lasting } }

namespace RouteBook

/-- That a message was dropped is no part of what lasts. -/
@[simp] theorem lasting_dropped (book : RouteBook) (strategy : Strategy) :
    (book.count strategy Counters.addDropped).lasting = book.lasting := by
  cases strategy <;> rfl

/-- A look-up is remembered and counted, and neither of these lasts. -/
@[simp] theorem lasting_resolve (book : RouteBook) (current target : String) :
    (book.resolveDown current target).2.lasting = book.lasting := by
  unfold resolveDown
  split
  · rfl
  · split <;> rfl

end RouteBook

namespace Exchange

variable {exchange : Exchange} {strategy : Strategy} {message : Message}

/-- To ask for a host is a look-up, which changes no desk, no queue, and nothing that lasts of the
book. -/
theorem reaches_frame (exchange : Exchange) (strategy : Strategy) (host : String) :
    (exchange.reaches strategy host).2.desk = exchange.desk ∧
      (exchange.reaches strategy host).2.queues = exchange.queues ∧
      (exchange.reaches strategy host).2.book.lasting = exchange.book.lasting := by
  cases strategy with
  | onHost | upward => exact ⟨rfl, rfl, rfl⟩
  | downward => exact ⟨rfl, rfl, RouteBook.lasting_resolve exchange.book exchange.desk.host host⟩

/-- A strategy that does not forward a message leaves the desk, the queues and what lasts of
the book as they were. -/
theorem unforwarded_frame
    (unforwarded : (exchange.route strategy message).result ≠ .ok .forwarded) :
    (exchange.route strategy message).state.desk = exchange.desk ∧
      (exchange.route strategy message).state.queues = exchange.queues ∧
      (exchange.route strategy message).state.book.lasting = exchange.book.lasting := by
  have passes := route_passes exchange strategy message
  obtain ⟨desk, queues⟩ := passes.unforwarded unforwarded
  obtain ⟨sameDesk, sameQueues, sameBook⟩ := reaches_frame exchange strategy message.target.host
  refine ⟨desk.trans sameDesk, queues.trans sameQueues, ?_⟩
  rw [passes.book, Station.tally_unforwarded unforwarded, RouteBook.lasting_dropped, sameBook]

end Exchange

/-! ## The dispatcher -/

namespace Station

/-- What a strategy that does not forward a message leaves of a station. -/
theorem adopt_unforwarded {station : Station} {strategy : Strategy} {message : Message}
    (unforwarded : (station.exchange.route strategy message).result ≠ .ok .forwarded) :
    (station.adopt (station.exchange.route strategy message).state).lasting = station.lasting := by
  obtain ⟨desk, queues, book⟩ := Exchange.unforwarded_frame unforwarded
  unfold adopt lasting
  dsimp only
  rw [desk, queues, book]
  rfl

/-- No router, whatever it is asked to route in whatever state, leaves a trace of a message that
it does not forward: desk, queues, tree, table and workers are as they were, and only counts of
look-ups and of what was not forwarded, and remembered paths, can differ.

Proof: each strategy `Passes` its message, which leaves a look-up and one count as the only changes
to the book, and desk and queues as they were unless the message is forwarded. Both changes are in
what `lasting` leaves out. The dispatcher adds one count of its own. The state is arbitrary, so this
holds in particular before anything was built. -/
theorem unforwarded_leaves_no_trace (station : Station) (router : Router) (message : Message)
    (unforwarded : (station.routeBy router message).result ≠ .ok .forwarded) :
    (station.routeBy router message).state.lasting = station.lasting := by
  cases router with
  | strategy strategy => exact adopt_unforwarded unforwarded
  | dispatcher =>
    rw [routeBy] at unforwarded ⊢
    cases selected : station.dispatcher.select message with
    | error failure =>
      have refused : station.route message =
          .fail (station.count (tally (.error failure))) failure := by
        simp only [route, selected]
      rw [refused]
      rfl
    | ok strategy =>
      simp only [route, selected] at unforwarded ⊢
      rw [tally_unforwarded unforwarded]
      exact adopt_unforwarded unforwarded

/-- A message for a client that is not connected, and so cannot be forwarded. -/
def undeliverable : Message := ⟨"m", "", ⟨"", ""⟩, ⟨"Client2", "M"⟩, "user", 0, .data .empty⟩

/-- It is dropped. The way to the client was looked up and is remembered now; apart from that and
from the counts the station is the same. -/
theorem absent_client_leaves_no_trace :
    let station := after "Server2" [.build ⟨RoutingTree.quartet, RoutingTree.quartet_distinct⟩]
    let outcome := station.routeBy .dispatcher undeliverable
    outcome.result ≠ .ok .forwarded ∧ outcome.state.dispatcher.book.cache.size = 1 ∧
      station.dispatcher.book.cache.size = 0 ∧ outcome.state.lasting = station.lasting := by
  intro station outcome
  have dropped : outcome.result = .ok .dropped := by rfl
  have unforwarded : outcome.result ≠ .ok .forwarded := by
    rw [dropped]
    simp
  have untraced : outcome.state.lasting = station.lasting :=
    unforwarded_leaves_no_trace station .dispatcher undeliverable unforwarded
  exact ⟨unforwarded, rfl, rfl, untraced⟩

end Station

end RelayTree
