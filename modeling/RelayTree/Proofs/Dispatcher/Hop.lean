import RelayTree.Proofs.Dispatcher.Coherence
import RelayTree.Proofs.Queue.Turn

/-!
# One hop

What a host with a coherent dispatcher does with a data message for some host of the
tree, as long as the queues involved are open and each client is connected once: it
puts the message unchanged on exactly one queue. `Outlet` says which one, from the
links of the tree alone. The table, the strategy and the remembered paths of the
host only appear in the proof that it is the right one.
-/

namespace RelayTree

/-- The queue of a module is the queue of some runtime, and is listed with these. -/
theorem Registry.output_queue_listed {registry : Registry} {module : String} {queue : QueueId}
    (runs : registry.outputQueue? module = some queue) : queue ∈ registry.runtimes.values := by
  simp only [outputQueue?, bind, Option.bind_eq_some_iff] at runs
  obtain ⟨_, _, runtime, _, found⟩ := runs
  exact List.mem_map.mpr ⟨(runtime, queue), SortedMap.mem_entries_iff.mpr found, rfl⟩

/-! ## What is found -/

namespace RouteBook

/-- A book with a tree, whose remembered answers are those of this tree. -/
structure Follows (book : RouteBook) (current : String) (tree : RoutingTree) : Prop where
  installed : book.tree = some tree
  cached : ∀ {target : String} {answer : Option (List String)},
    book.cache.get? target = some answer →
      ∀ path, answer = some path ↔ tree.routeBetween current target = .ok ⟨path, .down⟩

/-- Such a book finds just the downward paths of the tree, remembered or not. -/
theorem follows_answer {book : RouteBook} {current : String} {tree : RoutingTree}
    (follows : book.Follows current tree) {target : String} {path : List String} :
    (book.resolveDown current target).1 = some path ↔
      tree.routeBetween current target = .ok ⟨path, .down⟩ := by
  unfold resolveDown
  cases found : book.cache.get? target with
  | some answer => exact follows.cached found path
  | none =>
    rw [follows.installed]
    exact path_down_iff tree current target path

/-! ## What is counted as dropped -/

/-- How many messages each strategy has dropped, which is what must not change when a message is
passed on. -/
def drops (book : RouteBook) : List UInt64 :=
  [book.onHost.dropped, book.upward.dropped, book.downward.dropped]

/-- A message that is passed on is counted as routed and not as dropped. -/
@[simp] theorem drops_routed (book : RouteBook) (strategy : Strategy) :
    (book.count strategy Counters.addRouted).drops = book.drops := by
  cases strategy <;> rfl

/-- A look-up drops nothing, whether it finds a path or not. -/
@[simp] theorem drops_resolve (book : RouteBook) (current target : String) :
    (book.resolveDown current target).2.drops = book.drops := by
  unfold resolveDown
  split
  · rfl
  · split <;> rfl

end RouteBook

/-- How many messages a dispatcher and each of its strategies have dropped, the dispatcher first. -/
def Dispatcher.drops (dispatcher : Dispatcher) : List UInt64 :=
  dispatcher.counters.dropped :: dispatcher.book.drops

/-! ## The strategies -/

namespace Exchange

/-- A strategy forwarded a message: it is on the queue, and apart from that only
counters and remembered paths have changed. -/
structure Forwards (exchange : Exchange) (message : Message) (queue : QueueId)
    (outcome : Outcome Exchange Delivery) : Prop where
  result : outcome.result = .ok .forwarded
  desk : outcome.state.desk = exchange.desk
  queues : outcome.state.queues = exchange.queues.append queue message
  drops : outcome.state.book.drops = exchange.book.drops

variable {exchange : Exchange} {message : Message} {queue : QueueId}

/-- A queue that takes the message is all it needs: the message is on that queue then, and counts as
forwarded. -/
theorem queued_forwards (strategy : Strategy) (closed : Event)
    (opened : (exchange.queues.read queue).closed = false) :
    exchange.Forwards message queue
      (exchange.queued strategy (exchange.queues.pushBack? queue message) closed) := by
  rw [QueueStore.push_open opened]
  exact ⟨rfl, rfl, rfl, RouteBook.drops_routed ..⟩

/-- Log events do not change what was done, so those before and after can be left out of the
account. -/
theorem after_forwards {outcome : Outcome Exchange Delivery} (events : List Event)
    (forwards : exchange.Forwards message queue outcome) :
    exchange.Forwards message queue (outcome.after events) :=
  ⟨forwards.result, forwards.desk, forwards.queues, forwards.drops⟩

/-- Upward, where the route starts up and the queue to the server is open. -/
theorem up_forwards (leads : exchange.reachesUpward message.target.host = true)
    (opened : (exchange.queues.read exchange.desk.uplink.toServer).closed = false) :
    exchange.Forwards message exchange.desk.uplink.toServer (exchange.sendUpward message) := by
  rw [sendUpward, if_pos leads]
  exact after_forwards _ (queued_forwards .upward _ opened)

/-- On the host, to a module that has a runtime whose queue is open. -/
theorem here_forwards (data : message.isControl = false) (addressed : message.target.module ≠ "")
    (runs : exchange.desk.board.registry.outputQueue? message.target.module = some queue)
    (opened : (exchange.queues.read queue).closed = false) :
    exchange.Forwards message queue (exchange.deliverOnHost message) := by
  have meant : message.target.module.isEmpty = false := by simpa using addressed
  rw [deliverOnHost, data, meant]
  simp only [Bool.false_eq_true, if_false, deliverToModule, runs]
  exact after_forwards _ (queued_forwards .onHost _ opened)

/-- Downward, along a path whose first host is connected once. The last hop copies the
message to every user of the target, and there is one; the hops before it insist on
exactly one. -/
theorem down_forwards {hop : String} {rest : List String}
    (resolved : (exchange.book.resolveDown exchange.desk.host message.target.host).1 =
      some (hop :: rest))
    (ends : rest = [] → hop = message.target.host) (broadcast : message.userToken = "")
    (single : exchange.desk.users.queuesOf hop = .ok [queue])
    (opened : (exchange.queues.read queue).closed = false) :
    exchange.Forwards message queue (exchange.sendDownward message) := by
  obtain ⟨book, looked⟩ : ∃ book, exchange.book.resolveDown exchange.desk.host
      message.target.host = (some (hop :: rest), book) := ⟨_, Prod.ext resolved rfl⟩
  have kept : book.drops = exchange.book.drops := by
    have whole := RouteBook.drops_resolve exchange.book exchange.desk.host message.target.host
    rwa [looked] at whole
  have lookup : exchange.resolveDown message.target.host =
      (some (hop :: rest), { exchange with book := book }) := by
    simp [resolveDown, looked]
  -- The exchange after the look-up differs from the one before in its book only.
  have transfer : ∀ outcome, Forwards { exchange with book := book } message queue outcome →
      exchange.Forwards message queue outcome := fun _ forwards =>
    ⟨forwards.result, forwards.desk, forwards.queues, forwards.drops.trans kept⟩
  rw [sendDownward, lookup]
  apply transfer
  cases rest with
  | nil =>
    have target := ends rfl
    subst target
    have meant : message.isBroadcast = true := by simp [Message.isBroadcast, broadcast]
    simp only [sendToUsers, addressedQueues, meant, if_true, single, copyToUsers,
      QueueStore.push_open opened]
    exact after_forwards _ ⟨rfl, rfl, rfl, RouteBook.drops_routed ..⟩
  | cons second rest =>
    simp only [sendVia, single]
    exact after_forwards _ (queued_forwards .downward _ opened)

end Exchange

/-! ## Which queue a message goes to -/

/-- A client that is connected once has one queue, under the empty token. So whoever asks for its
queues by its name finds what is found under the key. -/
theorem UserDirectory.queues_of_single {directory : UserDirectory} {client : String}
    {queue : QueueId} (once : directory.tokens client = [""])
    (connected : directory.queueOf ⟨client, ""⟩ = .ok queue) :
    directory.queuesOf client = .ok [queue] := by
  have listed : directory.byHost.get? client = some [""] := by
    cases found : directory.byHost.get? client with
    | none => simp [tokens, found] at once
    | some tokens => simpa [UserDirectory.tokens, found] using once
  cases found : directory.byKey.get? ⟨client, ""⟩ with
  | none => simp [queueOf, found] at connected
  | some user =>
    have own : user.queue = queue := by simpa [queueOf, found] using connected
    simp [queuesOf, listed, found, own]

/-- The queue that a message for a host of the tree leaves a desk by: the one to the
server, the one to the next client below, or the one of the target module's runtime. -/
inductive Desk.Outlet (desk : Desk) (tree : RoutingTree) (message : Message) :
    QueueId → Prop where
  | up {server : String} (onward : tree.Onward desk.host message.target.host .up server) :
      Outlet desk tree message desk.uplink.toServer
  | down {client : String} {queue : QueueId}
      (onward : tree.Onward desk.host message.target.host .down client)
      (once : desk.users.tokens client = [""])
      (connected : desk.users.queueOf ⟨client, ""⟩ = .ok queue) : Outlet desk tree message queue
  | here {queue : QueueId} (arrived : message.target.host = desk.host)
      (runs : desk.board.registry.outputQueue? message.target.module = some queue) :
      Outlet desk tree message queue

/-- A message with data for a module of some host of the tree, for all of its users. One
that names no module is a publication, which has no module for its target. -/
structure Message.Routable (message : Message) (tree : RoutingTree) : Prop where
  data : message.isControl = false
  broadcast : message.userToken = ""
  addressed : message.target.module ≠ ""
  known : message.target.host ∈ tree.hosts

namespace Station

/-- A dispatcher forwarded a message: it is on the queue, and nothing else at the host
has changed but counters and remembered paths. -/
structure Forwards (station : Station) (message : Message) (queue : QueueId)
    (outcome : Outcome Station Delivery) : Prop where
  result : outcome.result = .ok .forwarded
  desk : outcome.state.desk = station.desk
  queues : outcome.state.queues = station.queues.append queue message
  inbound : outcome.state.dispatcher.inbound = station.dispatcher.inbound
  workers : outcome.state.dispatcher.workers = station.dispatcher.workers
  drops : outcome.state.dispatcher.drops = station.dispatcher.drops
  keeps : station.Keeps outcome.state

variable {station : Station} {roster : Roster} {tree : RoutingTree} {message : Message}
  {queue : QueueId}

/-- The table of a coherent dispatcher has a strategy for every host of the tree. -/
theorem select_known (built : station.dispatcher.BuiltFrom station.desk.host roster tree)
    (known : message.target.host ∈ tree.hosts) :
    station.dispatcher.select message =
      .ok (classify station.desk.host (tree.descendants station.desk.host)
        message.target.host) := by
  have found := built.classified message.target.host
  rw [if_pos known] at found
  have named : message.target.host.isEmpty = false := by
    simpa using RoutingTree.accepted_named built.accepted _ known
  have filled : station.dispatcher.table.isEmpty = false := by
    have member := SortedMap.mem_entries_iff.mpr found
    rw [SortedMap.isEmpty, List.isEmpty_eq_false_iff]
    exact List.ne_nil_of_mem member
  simp [Dispatcher.select, Dispatcher.strategy?, named, filled, found]

/-- What the strategy that was selected does, the dispatcher does. It adds a count of its own, which
is no drop. -/
theorem route_forwards {strategy : Strategy}
    (selected : station.dispatcher.select message = .ok strategy)
    (forwards : station.exchange.Forwards message queue
      (station.exchange.route strategy message)) :
    station.Forwards message queue (station.route message) := by
  have keeps := keeps_route station message
  have unfolded : station.route message =
      ⟨(station.exchange.route strategy message).result,
        (station.adopt (station.exchange.route strategy message).state).count
          (tally (station.exchange.route strategy message).result),
        .dispatched message strategy :: (station.exchange.route strategy message).events⟩ := by
    simp [route, selected]
  rw [unfolded] at keeps ⊢
  refine ⟨forwards.result, forwards.desk, forwards.queues, rfl, rfl, ?_, keeps⟩
  rw [forwards.result]
  exact congrArg (station.dispatcher.counters.dropped :: ·) forwards.drops

/-- A coherent dispatcher finds just the downward paths of the tree, remembered or not. -/
theorem resolve_down_iff (built : station.dispatcher.BuiltFrom station.desk.host roster tree)
    {target : String} {path : List String} :
    (station.dispatcher.book.resolveDown station.desk.host target).1 = some path ↔
      tree.routeBetween station.desk.host target = .ok ⟨path, .down⟩ :=
  RouteBook.follows_answer ⟨built.installed, built.cached⟩

/-- A coherent dispatcher puts a message on the outlet for it, provided that its queue is open. The
cases are the three kinds of outlets, each with the strategy that the table must have for it. -/
theorem route_outlet (built : station.dispatcher.BuiltFrom station.desk.host roster tree)
    (routable : message.Routable tree) (outlet : station.desk.Outlet tree message queue)
    (opened : (station.queues.read queue).closed = false) :
    station.Forwards message queue (station.route message) := by
  have sound := RoutingTree.accepted_sound built.accepted
  have selected := select_known built routable.known
  cases outlet with
  | up onward =>
    have other := RoutingTree.onward_apart sound built.described routable.known onward
    have route := RoutingTree.route_of_onward sound built.described routable.known other onward
    rw [RoutingTree.classify_onward sound built.described routable.known other onward] at selected
    refine route_forwards selected (Exchange.up_forwards ?_ opened)
    simp [Exchange.reachesUpward, RouteBook.leadsUp, exchange, built.installed, route]
  | @down client queue onward once connected =>
    have other := RoutingTree.onward_apart sound built.described routable.known onward
    have route := RoutingTree.route_of_onward sound built.described routable.known other onward
    rw [RoutingTree.classify_onward sound built.described routable.known other onward] at selected
    have single := UserDirectory.queues_of_single once connected
    refine route_forwards selected
      (Exchange.down_forwards ((resolve_down_iff built).mpr route) ?_ routable.broadcast single opened)
    intro last
    by_contra different
    have present := RoutingTree.onward_described sound onward
    obtain ⟨_, next, further⟩ := RoutingTree.onward_exists sound present routable.known different
    rw [RoutingTree.waypoints_of_onward sound present routable.known different further] at last
    cases last
  | here arrived runs =>
    rw [arrived] at selected
    have onHost : classify station.desk.host (tree.descendants station.desk.host)
        station.desk.host = .onHost := if_pos rfl
    rw [onHost] at selected
    exact route_forwards selected
      (Exchange.here_forwards routable.data routable.addressed runs opened)

end Station

end RelayTree
