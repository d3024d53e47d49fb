import RelayTree.Exchange.History
import RelayTree.Proofs.Dispatcher.Accounting

/-!
# Messages for hosts out of reach

The strategies that lead away from a host first look for the way to the target of a message, and
it is the same look-up as the one that answers whether they reach a host. So what they do not reach
they refuse, as unreachable, with one message counted as dropped and nothing on any queue. That
holds with any tree or none and for any remembered paths, and also when the strategy was just asked
for the target.

Delivery on the host makes no look-up. It never refuses a message as unreachable, and whatever host
a message names, what comes of it is what comes of it under the name of the own host.
-/

namespace RelayTree

/-- The message with another target host and with everything else as it is, the target module
included. -/
def Message.addressedTo (message : Message) (host : String) : Message :=
  { message with target := { message.target with host := host } }

/-- What was looked up once is found again, be it that it was remembered or that there was no tree
to remember it from. -/
theorem RouteBook.resolve_again (book : RouteBook) (current target : String) :
    ((book.resolveDown current target).2.resolveDown current target).1 =
      (book.resolveDown current target).1 := by
  cases remembered : book.cache.get? target with
  | some path =>
    have unchanged : (book.resolveDown current target).2.cache = book.cache := by
      simp only [resolveDown, remembered]
      rfl
    rw [resolveDown, unchanged]
    simp only [resolveDown, remembered]
  | none =>
    cases installed : book.tree with
    | none => simp [resolveDown, remembered, installed, count]
    | some tree => simp [resolveDown, remembered, installed, count]

namespace Exchange

variable {exchange : Exchange} {strategy : Strategy} {message : Message}

/-- A strategy refuses a message for a host that it does not reach. -/
structure Refuses (exchange : Exchange) (strategy : Strategy) (message : Message) : Prop where
  result : (exchange.route strategy message).result =
    .error (.unreachable strategy exchange.desk.host message.target.host)
  queues : (exchange.route strategy message).state.queues = exchange.queues
  desk : (exchange.route strategy message).state.desk = exchange.desk
  dropped : ((exchange.route strategy message).state.book.counters strategy).dropped =
    (exchange.book.counters strategy).dropped + 1
  routed : ((exchange.route strategy message).state.book.counters strategy).routed =
    (exchange.book.counters strategy).routed

/-- The refusal itself is what there is to see: queues and desk stay, and the message is counted,
with every message that is not forwarded. -/
theorem refuses_of_result (refused : (exchange.route strategy message).result =
      .error (.unreachable strategy exchange.desk.host message.target.host)) :
    exchange.Refuses strategy message := by
  have unforwarded : (exchange.route strategy message).result ≠ .ok .forwarded := by
    rw [refused]
    simp
  obtain ⟨desk, queues, _⟩ := unforwarded_frame unforwarded
  have counted := route_counted exchange strategy strategy message
  rw [if_pos rfl, refused] at counted
  exact ⟨refused, queues, desk, counted.dropped, counted.routed.trans (UInt64.add_zero _)⟩

/-- A question changes neither the host nor the answer, so whoever asks first and then sends gets
what the question has told. -/
theorem reaches_again (exchange : Exchange) (strategy : Strategy) (host : String) :
    (exchange.reaches strategy host).2.desk = exchange.desk ∧
      ((exchange.reaches strategy host).2.reaches strategy host).1 =
        (exchange.reaches strategy host).1 := by
  cases strategy with
  | onHost | upward => exact ⟨rfl, rfl⟩
  | downward =>
    exact ⟨rfl, congrArg Option.isSome
      (RouteBook.resolve_again exchange.book exchange.desk.host host)⟩

/-- A strategy that leads away refuses what it does not reach. The look-up of the message is the one
that would have answered the question. -/
theorem away_refuses (away : strategy ≠ .onHost)
    (unreached : (exchange.reaches strategy message.target.host).1 = false) :
    exchange.Refuses strategy message := by
  apply refuses_of_result
  cases strategy with
  | onHost => exact absurd rfl away
  | upward =>
    have closed : ¬ exchange.reachesUpward message.target.host = true := by
      rw [Bool.not_eq_true]
      exact unreached
    rw [route, sendUpward, if_neg closed]
    rfl
  | downward =>
    obtain ⟨path, book, looked⟩ : ∃ path book, exchange.resolveDown message.target.host =
        (path, { exchange with book := book }) := ⟨_, _, rfl⟩
    have pathless : path = none := by
      change (exchange.resolveDown message.target.host).1.isSome = false at unreached
      simpa [looked] using unreached
    subst pathless
    rw [route, sendDownward, looked]
    rfl

/-- Delivery on the host refuses nothing as unreachable, as it makes no look-up. -/
theorem here_unrefused (exchange : Exchange) (message : Message) :
    ¬ exchange.Refuses .onHost message :=
  fun refuses => deliver_directed refuses.result trivial

/-- One queue forwards a message unless it is closed, and then the message is dropped. There is no
third outcome. -/
theorem queued_on (exchange : Exchange) (strategy : Strategy) (queue : QueueId)
    (message : Message) (closed : Event) :
    (exchange.queued strategy (exchange.queues.pushBack? queue message) closed).result =
      .ok (if (exchange.queues.read queue).closed then .dropped else .forwarded) := by
  cases shut : (exchange.queues.read queue).closed with
  | true =>
    rw [QueueStore.push_back_closed shut]
    rfl
  | false =>
    rw [QueueStore.push_open shut]
    rfl

/-- What comes of a publication is decided by its sender: whether the sender has bound the channel,
for publishing, with this type. -/
theorem publication_result (exchange : Exchange) (message : Message) :
    (exchange.deliverPublication message).result =
      (exchange.desk.board.channels.accept message).map fun _ => .forwarded := by
  cases accepted : exchange.desk.board.channels.accept message with
  | error failure =>
    simp only [deliverPublication, Switchboard.publish, accepted]
    rfl
  | ok found =>
    obtain ⟨name, subscribers, channels⟩ := found
    obtain ⟨copies, counted⟩ := Switchboard.copies_counted exchange.desk.board.registry name
      message subscribers exchange.queues
    simp only [deliverPublication, Switchboard.publish, accepted, Outcome.within, counted]
    rfl

/-- Delivery on the host does not look at the target host, so a message for another host is
delivered like one for this host. -/
theorem here_whatever_host (exchange : Exchange) (message : Message) (host : String) :
    (exchange.route .onHost (message.addressedTo host)).result =
        (exchange.route .onHost message).result ∧
      (exchange.route .onHost (message.addressedTo host)).state.book =
        (exchange.route .onHost message).state.book := by
  have result : (exchange.deliverOnHost (message.addressedTo host)).result =
      (exchange.deliverOnHost message).result := by
    have control : (message.addressedTo host).isControl = message.isControl := rfl
    have target : (message.addressedTo host).target.module = message.target.module := rfl
    unfold deliverOnHost
    rw [control, target]
    split
    · unfold deliverControl
      cases shut : (exchange.queues.read exchange.desk.board.control).closed with
      | true => rw [QueueStore.push_front_closed shut, QueueStore.push_front_closed shut]; rfl
      | false => rw [QueueStore.push_front_open shut, QueueStore.push_front_open shut]; rfl
    · split
      · rw [publication_result, publication_result]
        rfl
      · unfold deliverToModule
        rw [target]
        split
        · rfl
        · exact (queued_on ..).trans (queued_on ..).symm
  refine ⟨result, ?_⟩
  rw [(route_passes exchange .onHost _).book, (route_passes exchange .onHost _).book]
  exact congrArg (fun came => exchange.book.count .onHost (Station.tally came)) result

/-- Given a message for a host that it does not reach, a strategy refuses it exactly if it leads
away from the host: whatever its tree, its remembered paths and the queues are, and also right
after it was asked for the host. Delivery on the host does with the message what it does with the
same message for the own host.

Proof: to ask twice is to get the same answer twice, so the second moment comes down to the first
one. Both strategies that lead away begin with the look-up that answers the question, and refuse if
it finds no way. The third one has no such step. It never reads the host of a message, and so its
outcome is compared with that under the own name, case by case. Trees, remembered paths and queues
are arbitrary here, and need not belong together. -/
theorem refused_unless_on_host (exchange : Exchange) (strategy : Strategy) (message : Message)
    (unreached : (exchange.reaches strategy message.target.host).1 = false) (later : Exchange)
    (moment : later = exchange ∨ later = (exchange.reaches strategy message.target.host).2) :
    (later.Refuses strategy message ↔ strategy ≠ .onHost) ∧
      (strategy = .onHost →
        let own := later.route strategy (message.addressedTo later.desk.host)
        (later.route strategy message).result = own.result ∧
          (later.route strategy message).state.book = own.state.book) := by
  have still : (later.reaches strategy message.target.host).1 = false := by
    rcases moment with rfl | rfl
    · exact unreached
    · rw [(reaches_again exchange strategy message.target.host).2]
      exact unreached
  refine ⟨⟨?_, fun away => away_refuses away still⟩, ?_⟩
  · rintro refuses rfl
    exact here_unrefused later message refuses
  · rintro rfl
    obtain ⟨result, book⟩ := here_whatever_host later message later.desk.host
    exact ⟨result.symm, book.symm⟩

/-- A host in the middle of the tree, with a module in a runtime. -/
def middle : Exchange :=
  after "Server2" .empty
    [.serve (.enroll "M" "class" .empty), .serve (.place "M" "runtime")]
    [.install RoutingTree.quartet]

/-- Data for a module of that name on a host, whichever host that is. -/
def parcel (host : String) : Message := ⟨"m", "", ⟨"", ""⟩, ⟨host, "M"⟩, "", 0, .data .empty⟩

/-- The way up and the way down refuse what lies in the other direction. -/
theorem middle_refuses :
    (middle.reaches .upward "Client2").1 = false ∧
      (middle.reaches .downward "Server1").1 = false ∧
      middle.Refuses .upward (parcel "Client2") ∧
      (middle.reaches .downward "Server1").2.Refuses .downward (parcel "Server1") := by
  have up : (middle.reaches .upward "Client2").1 = false := by rfl
  have down : (middle.reaches .downward "Server1").1 = false := by rfl
  have away {strategy : Strategy} (other : strategy = .upward ∨ strategy = .downward) :
      strategy ≠ .onHost := by
    rintro rfl
    rcases other with other | other <;> cases other
  exact ⟨up, down,
    ((refused_unless_on_host middle .upward (parcel "Client2") up _ (.inl rfl)).1).mpr
      (away (.inl rfl)),
    ((refused_unless_on_host middle .downward (parcel "Server1") down _ (.inr rfl)).1).mpr
      (away (.inr rfl))⟩

/-- Delivery on the host gives its own module what is for a module on another host. So not every
strategy refuses what it does not reach, and the host of a message is no protection here. -/
theorem foreign_message_delivered :
    ¬ ∀ (host : String) (store : QueueStore) (errands : List Errand) (uses : List RouteBook.Use)
      (strategy : Strategy) (message : Message),
      ((after host store errands uses).reaches strategy message.target.host).1 = false →
        (after host store errands uses).Refuses strategy message := by
  intro refusing
  have unreached : (middle.reaches .onHost "Client2").1 = false := by rfl
  have refuses : middle.Refuses .onHost (parcel "Client2") :=
    refusing "Server2" .empty _ _ .onHost (parcel "Client2") unreached
  have delivered : (middle.route .onHost (parcel "Client2")).result = .ok .forwarded := by rfl
  cases refuses.result.symm.trans delivered

end Exchange

end RelayTree
