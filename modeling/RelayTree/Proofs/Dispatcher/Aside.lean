import RelayTree.Dispatcher.Lifecycle
import RelayTree.Proofs.Dispatcher.Hop

/-!
# Queues that routing does not touch

A host passes messages on through its outlets: the queues to its runtimes, to its clients,
to the server above, and the control queue. What any other queue holds makes no difference
to what becomes of a message, and is the same afterwards. Both are one statement here. A
queue can be put into a state, be it that of a queue that was never created, before or
after a message is routed, and the outcome is the same.
-/

namespace RelayTree

namespace QueueStore

/-- The store with a queue in some state, or without it. Taking `none` for a state lets one lemma
speak of a queue that was emptied and of one that was never created. -/
def put (store : QueueStore) (id : QueueId) : Option (Queue Message) → QueueStore
  | some queue => store.write id queue
  | none => { store with queues := store.queues.erase id }

variable {store : QueueStore} {id other : QueueId} {entry : Option (Queue Message)}

/-- Putting sets one entry and leaves every other entry as it was, which is all that the lemmas
below know about it. -/
@[simp] theorem get?_put :
    (store.put id entry).queues.get? other =
      if other = id then entry else store.queues.get? other := by
  cases entry with
  | none => simp [put]
  | some queue => simp [put, write]

/-- The first free identity is not affected, so that a queue that is created later gets the same
identity either way. -/
@[simp] theorem put_next : (store.put id entry).next = store.next := by cases entry <;> rfl

/-- Stores with the same entries are the same: besides the entries a store has only the first free
identity. -/
theorem ext_entries {left right : QueueStore} (next : left.next = right.next)
    (same : ∀ id, left.queues.get? id = right.queues.get? id) : left = right := by
  cases left
  cases right
  cases next
  rw [QueueStore.mk.injEq]
  exact ⟨SortedMap.ext_get? same, rfl⟩

/-- Putting a queue as it is changes nothing, so that a statement about a queue put aside can be
turned into one about the store itself. -/
theorem put_self (store : QueueStore) (id : QueueId) :
    store.put id (store.queues.get? id) = store := by
  apply ext_entries put_next
  intro other
  rw [get?_put]
  split
  · rename_i same
    rw [same]
  · rfl

/-- Of two entries for one queue the later one stands. With `put_self` this undoes a change: put the
queue aside, route, and put it back. -/
theorem put_put {latter : Option (Queue Message)} :
    (store.put id entry).put id latter = store.put id latter := by
  apply ext_entries (by simp)
  intro other
  simp only [get?_put]
  split <;> rfl

/-- Writing a queue is putting it: the two are one thing where a queue is there afterwards, and only
`put` can also take one away. -/
theorem write_eq_put (store : QueueStore) (id : QueueId) (queue : Queue Message) :
    store.write id queue = store.put id (some queue) := rfl

/-- Other queues read as before, whether the queue that was put holds something, is closed, or is
gone. -/
theorem read_put (apart : other ≠ id) : (store.put id entry).read other = store.read other := by
  simp [read, apart]

/-- Writing one queue and putting another can be done in either order. Every step of a route writes
outlets only, and this is why it can be moved past a queue that is none. -/
theorem write_put (apart : other ≠ id) (queue : Queue Message) :
    (store.put id entry).write other queue = (store.write other queue).put id entry := by
  apply ext_entries (by simp [write])
  intro third
  by_cases here : third = id
  · subst here
    simp [write, apart.symm]
  · simp [write, here]

/-- A message goes to the back of another queue just as it would have, and it is refused in the same
cases, since only the state of that other queue is looked at. -/
theorem push_back_put (apart : other ≠ id) (message : Message) :
    (store.put id entry).pushBack? other message =
      (store.pushBack? other message).map (·.put id entry) := by
  rw [pushBack?, pushBack?, read_put apart, Option.map_map]
  congr 1
  funext queue
  exact write_put apart queue

/-- The same at the front of a queue, which is where administrative messages go. -/
theorem push_front_put (apart : other ≠ id) (message : Message) :
    (store.put id entry).pushFront? other message =
      (store.pushFront? other message).map (·.put id entry) := by
  rw [pushFront?, pushFront?, read_put apart, Option.map_map]
  congr 1
  funext queue
  exact write_put apart queue

end QueueStore

/-- The queues that a host passes messages on by: its control queue, the queue to the server, the
runtimes of its modules, and the users that are connected to it. -/
def Desk.outlets (desk : Desk) : List QueueId :=
  desk.board.control :: desk.uplink.toServer ::
    (desk.board.registry.runtimes.values ++ desk.users.byKey.values.map (·.queue))

/-- Types that channels agree on open no outlet and close none, so a publication leaves the outlets
of its host as they were. -/
theorem Desk.Settles.outlets {before after : Desk} (settles : before.Settles after) :
    after.outlets = before.outlets := by
  obtain ⟨channels, rfl⟩ := settles
  rfl

namespace UserDirectory

variable {directory : UserDirectory} {queue : QueueId}

/-- The queue of a user belongs to somebody who is connected, so it is among the queues of the
directory. -/
theorem queue_of_listed {key : UserKey} (found : directory.queueOf key = .ok queue) :
    queue ∈ directory.byKey.values.map (·.queue) := by
  cases user : directory.byKey.get? key with
  | none => simp [queueOf, user] at found
  | some remote =>
    obtain rfl : remote.queue = queue := by simpa [queueOf, user] using found
    refine List.mem_map.mpr ⟨remote, ?_, rfl⟩
    exact List.mem_map.mpr ⟨(key, remote), SortedMap.mem_entries_iff.mpr user, rfl⟩

/-- So do the queues of all users of a host, each of which was found under the key of one of
them. -/
theorem queues_of_listed {host : String} {queues : List QueueId}
    (found : directory.queuesOf host = .ok queues) (member : queue ∈ queues) :
    queue ∈ directory.byKey.values.map (·.queue) := by
  unfold queuesOf at found
  split at found
  · cases found
  · cases found
    obtain ⟨token, _, named⟩ := List.mem_filterMap.mp member
    obtain ⟨remote, user, rfl⟩ := Option.map_eq_some_iff.mp named
    have own : directory.queueOf ⟨host, token⟩ = .ok remote.queue := by
      simp only [queueOf, user]
    exact queue_of_listed own

end UserDirectory

/-! ## Publications -/

section Copies

variable {id : QueueId} {entry : Option (Queue Message)}

/-- Copies go to runtimes only. By induction on the subscribers a queue that is no runtime can be
put aside before or after all copies are made, and the count of copies is the same. -/
theorem Switchboard.copy_to_each_put {registry : Registry} (apart : id ∉ registry.runtimes.values)
    (connection : String) (message : Message) (subscribers : List Endpoint) (queues : QueueStore) :
    copyToEach registry connection message subscribers (queues.put id entry) =
      (copyToEach registry connection message subscribers queues).within (·.put id entry) := by
  induction subscribers generalizing queues with
  | nil => rfl
  | cons subscriber rest inductionHypothesis =>
    rw [copyToEach, copyToEach]
    cases runs : registry.outputQueue? subscriber.module with
    | none =>
      simp only [inductionHypothesis]
      rfl
    | some queue =>
      have other : queue ≠ id := fun same => apart (same ▸ Registry.output_queue_listed runs)
      simp only [QueueStore.push_back_put other]
      cases queues.pushBack? queue (copyFor subscriber message) with
      | none => exact inductionHypothesis queues
      | some queues =>
        simp only [Option.map_some, inductionHypothesis]
        rfl

/-- A publication first settles the type of its channel, for which no queue is looked at, and then
makes copies, for which only runtimes are. -/
theorem Switchboard.publish_put {board : Switchboard} (apart : id ∉ board.registry.runtimes.values)
    (queues : QueueStore) (message : Message) :
    board.publish (queues.put id entry) message =
      (board.publish queues message).within fun state => (state.1, state.2.put id entry) := by
  unfold publish
  cases board.channels.accept message with
  | error failure => rfl
  | ok accepted =>
    simp only [copy_to_each_put apart]
    rfl

/-- Copies for users go to the queues that were addressed and to no other, and how many of them took
one does not depend on the rest of the store. -/
theorem Exchange.copy_to_users_put {addressed : List QueueId} (apart : id ∉ addressed)
    (message : Message) (queues : QueueStore) :
    copyToUsers message addressed (queues.put id entry) =
      ((copyToUsers message addressed queues).1.put id entry,
        (copyToUsers message addressed queues).2) := by
  induction addressed generalizing queues with
  | nil => rfl
  | cons queue rest inductionHypothesis =>
    obtain ⟨other, others⟩ := not_or.mp (List.mem_cons.not.mp apart)
    rw [copyToUsers, copyToUsers, QueueStore.push_back_put (Ne.symm other)]
    cases queues.pushBack? queue message with
    | none => simp only [Option.map_none, inductionHypothesis others]
    | some queues => exact inductionHypothesis others queues

end Copies

/-! ## The strategies -/

namespace Exchange

/-- The exchange with a queue in some state and everything else as it is. The lemmas below move this
out of every operation of an exchange. -/
def withQueue (exchange : Exchange) (id : QueueId) (entry : Option (Queue Message)) : Exchange :=
  { exchange with queues := exchange.queues.put id entry }

variable {exchange : Exchange} {id : QueueId} {entry : Option (Queue Message)} {message : Message}

/-- Whether the queue for a message took it is all that matters: the answer, the event and the
counter are decided by that, and the queue put aside is carried along. -/
theorem queued_put (strategy : Strategy) (taken : Option QueueStore) (closed : Event) :
    (exchange.withQueue id entry).queued strategy (taken.map (·.put id entry)) closed =
      (exchange.queued strategy taken closed).within (·.withQueue id entry) := by
  cases taken <;> rfl

/-- A message goes up by the queue to the server, which is an outlet. So it does not go by the queue
that was put aside, and whether the server is on its way is not a matter of queues. -/
theorem up_put (apart : id ∉ exchange.desk.outlets) :
    (exchange.withQueue id entry).sendUpward message =
      (exchange.sendUpward message).within (·.withQueue id entry) := by
  have other : exchange.desk.uplink.toServer ≠ id := by
    rintro rfl
    exact apart (by simp [Desk.outlets])
  have reaches : (exchange.withQueue id entry).reachesUpward message.target.host =
      exchange.reachesUpward message.target.host := rfl
  rw [sendUpward, sendUpward, reaches]
  split
  · have pushed : (exchange.withQueue id entry).queues.pushBack?
        (exchange.withQueue id entry).desk.uplink.toServer message =
        (exchange.queues.pushBack? exchange.desk.uplink.toServer message).map (·.put id entry) :=
      QueueStore.push_back_put other message
    rw [pushed, queued_put]
    rfl
  · rfl

/-- A message for control goes to the control queue, which is an outlet. It goes to the head of it,
and this is the only push of that kind. -/
theorem control_put (apart : id ∉ exchange.desk.outlets) :
    (exchange.withQueue id entry).deliverControl message =
      (exchange.deliverControl message).within (·.withQueue id entry) := by
  have other : exchange.desk.board.control ≠ id := by
    rintro rfl
    exact apart (by simp [Desk.outlets])
  have pushed : (exchange.withQueue id entry).queues.pushFront?
      (exchange.withQueue id entry).desk.board.control message =
      (exchange.queues.pushFront? exchange.desk.board.control message).map (·.put id entry) :=
    QueueStore.push_front_put other message
  rw [deliverControl, deliverControl, pushed]
  cases exchange.queues.pushFront? exchange.desk.board.control message <;> rfl

/-- A publication goes to the runtimes of the subscribers, all of which are outlets, and a refusal
looks at no queue at all. -/
theorem publication_put (apart : id ∉ exchange.desk.outlets) :
    (exchange.withQueue id entry).deliverPublication message =
      (exchange.deliverPublication message).within (·.withQueue id entry) := by
  have runtimes : id ∉ exchange.desk.board.registry.runtimes.values := fun member =>
    apart (by simp [Desk.outlets, member])
  have published : (exchange.withQueue id entry).desk.board.publish
      (exchange.withQueue id entry).queues message =
      (exchange.desk.board.publish exchange.queues message).within
        fun state => (state.1, state.2.put id entry) :=
    Switchboard.publish_put runtimes exchange.queues message
  rw [deliverPublication, deliverPublication, published]
  dsimp only [Outcome.within]
  cases (exchange.desk.board.publish exchange.queues message).result <;> rfl

/-- A message for one module goes to the runtime it is registered with, which is an outlet. A module
without a runtime gets nothing, with or without the queue aside. -/
theorem module_put (apart : id ∉ exchange.desk.outlets) :
    (exchange.withQueue id entry).deliverToModule message =
      (exchange.deliverToModule message).within (·.withQueue id entry) := by
  have same : (exchange.withQueue id entry).desk = exchange.desk := rfl
  rw [deliverToModule, deliverToModule, same]
  cases runs : exchange.desk.board.registry.outputQueue? message.target.module with
  | none => rfl
  | some queue =>
    have other : queue ≠ id := by
      rintro rfl
      exact apart (by simp [Desk.outlets, Registry.output_queue_listed runs])
    have pushed : (exchange.withQueue id entry).queues.pushBack? queue message =
        (exchange.queues.pushBack? queue message).map (·.put id entry) :=
      QueueStore.push_back_put other message
    simp only [pushed, queued_put]
    rfl

/-- What is delivered on the own host is a control message, a publication or a message for one
module. Each of the three was treated above. -/
theorem here_put (apart : id ∉ exchange.desk.outlets) :
    (exchange.withQueue id entry).deliverOnHost message =
      (exchange.deliverOnHost message).within (·.withQueue id entry) := by
  unfold deliverOnHost
  split
  · exact control_put apart
  · split
    · exact publication_put apart
    · exact module_put apart

/-- The users that a message is meant for are connected, be it one user or all users of a host, and
their queues are outlets. -/
theorem addressed_listed {addressed : List QueueId}
    (found : exchange.addressedQueues message = .ok addressed) {queue : QueueId}
    (member : queue ∈ addressed) : queue ∈ exchange.desk.outlets := by
  have listed : queue ∈ exchange.desk.users.byKey.values.map (·.queue) := by
    unfold addressedQueues at found
    split at found
    · exact UserDirectory.queues_of_listed found member
    · cases single : exchange.desk.users.queueOf ⟨message.target.host, message.userToken⟩ with
      | error failure => simp [single, Except.map] at found
      | ok own =>
        rw [single] at found
        cases found
        obtain rfl := List.mem_singleton.mp member
        exact UserDirectory.queue_of_listed single
  simp [Desk.outlets, listed]

/-- A message for users goes to the queues addressed by it. The store was not looked at to find
them, so they are the same with the queue put aside. -/
theorem to_users_put (apart : id ∉ exchange.desk.outlets) :
    (exchange.withQueue id entry).sendToUsers message =
      (exchange.sendToUsers message).within (·.withQueue id entry) := by
  have same : (exchange.withQueue id entry).addressedQueues message =
      exchange.addressedQueues message := rfl
  rw [sendToUsers, sendToUsers, same]
  cases found : exchange.addressedQueues message with
  | error reason => rfl
  | ok addressed =>
    have others : id ∉ addressed := fun member => apart (addressed_listed found member)
    have copied : copyToUsers message addressed (exchange.withQueue id entry).queues =
        ((copyToUsers message addressed exchange.queues).1.put id entry,
          (copyToUsers message addressed exchange.queues).2) :=
      copy_to_users_put others message exchange.queues
    simp only [copied]
    rfl

/-- The next hop is one of the users of this host, or it is not connected and the message goes
nowhere. -/
theorem via_put (apart : id ∉ exchange.desk.outlets) (hop : String) :
    (exchange.withQueue id entry).sendVia message hop =
      (exchange.sendVia message hop).within (·.withQueue id entry) := by
  have same : (exchange.withQueue id entry).desk = exchange.desk := rfl
  rw [sendVia, sendVia, same]
  rcases found : exchange.desk.users.queuesOf hop with _ | _ | ⟨queue, _ | _⟩
  · rfl
  · rfl
  · have listed := UserDirectory.queues_of_listed found (List.mem_singleton_self queue)
    have other : queue ≠ id := by
      rintro rfl
      exact apart (by simp [Desk.outlets, listed])
    have pushed : (exchange.withQueue id entry).queues.pushBack? queue message =
        (exchange.queues.pushBack? queue message).map (·.put id entry) :=
      QueueStore.push_back_put other message
    simp only [pushed, queued_put]
    rfl
  · rfl

/-- Sending downward looks up the route first. The look-up reads the book and the name of the host,
so it comes to the same answer, and each end of the route was treated above. -/
theorem down_put (apart : id ∉ exchange.desk.outlets) :
    (exchange.withQueue id entry).sendDownward message =
      (exchange.sendDownward message).within (·.withQueue id entry) := by
  obtain ⟨path, book, looked⟩ : ∃ path book,
      exchange.book.resolveDown exchange.desk.host message.target.host = (path, book) :=
    ⟨_, _, rfl⟩
  have before : exchange.resolveDown message.target.host =
      (path, { exchange with book := book }) := by
    simp [resolveDown, looked]
  have after : (exchange.withQueue id entry).resolveDown message.target.host =
      (path, { exchange with book := book }.withQueue id entry) := by
    simp [resolveDown, withQueue, looked]
  rw [sendDownward, sendDownward, before, after]
  obtain _ | _ | ⟨hop, _ | _⟩ := path
  · rfl
  · rfl
  · exact @to_users_put { exchange with book := book } id entry message apart
  · exact @via_put { exchange with book := book } id entry message apart hop

/-- No strategy looks at a queue that is not an outlet: what comes of a message, and everything that
is different afterwards, does not depend on what such a queue holds or whether there is one. -/
theorem route_put (apart : id ∉ exchange.desk.outlets) (strategy : Strategy) (message : Message) :
    (exchange.withQueue id entry).route strategy message =
      (exchange.route strategy message).within (·.withQueue id entry) := by
  cases strategy with
  | onHost => exact here_put apart
  | upward => exact up_put apart
  | downward => exact down_put apart

end Exchange

/-! ## The dispatcher -/

namespace Station

/-- The station with a queue in some state and everything else as it is, its workers included. -/
def withQueue (station : Station) (id : QueueId) (entry : Option (Queue Message)) : Station :=
  { station with queues := station.queues.put id entry }

variable {station : Station} {id : QueueId}

/-- Routing does not look at a queue that is not an outlet. Which strategy is selected depends on
the message and the table, and the strategy asks the exchange. -/
theorem route_put (apart : id ∉ station.desk.outlets) (entry : Option (Queue Message))
    (message : Message) :
    (station.withQueue id entry).route message =
      (station.route message).within (·.withQueue id entry) := by
  have selected : (station.withQueue id entry).dispatcher.select message =
      station.dispatcher.select message := rfl
  rw [route, route, selected]
  cases station.dispatcher.select message with
  | error failure => rfl
  | ok strategy =>
    have exchange : (station.withQueue id entry).exchange =
        station.exchange.withQueue id entry := rfl
    have handled : (station.exchange.withQueue id entry).route strategy message =
        (station.exchange.route strategy message).within (·.withQueue id entry) :=
      Exchange.route_put apart strategy message
    simp only [exchange, handled]
    rfl

/-- Routing does not look at the workers either: it can be done while they are in any stage, and
they are in that stage afterwards. -/
theorem route_with_workers (station : Station) (workers : Option Workers) (message : Message) :
    (station.withWorkers workers).route message =
      (station.route message).within (·.withWorkers workers) := by
  have selected : (station.withWorkers workers).dispatcher.select message =
      station.dispatcher.select message := rfl
  rw [route, route, selected]
  cases station.dispatcher.select message <;> rfl

/-- The outlets are the same after a message was routed, since routing settles channels and opens or
closes no queue. -/
theorem route_outlets (station : Station) (message : Message) :
    (station.route message).state.desk.outlets = station.desk.outlets :=
  (keeps_route station message).desk.outlets

/-- What is in a queue that is not an outlet stays there. The queue is put aside and back again, and
routing commutes with the first of the two. -/
theorem route_leaves (apart : id ∉ station.desk.outlets) (message : Message) :
    (station.route message).state.queues.read id = station.queues.read id := by
  have unchanged : station.withQueue id (station.queues.queues.get? id) = station := by
    rw [withQueue, QueueStore.put_self]
  have routed := congrArg Outcome.state
    (route_put apart (station.queues.queues.get? id) message)
  rw [unchanged] at routed
  have entry := congrArg (fun later : Station => later.queues.queues.get? id) routed
  simp only [Outcome.within, withQueue, QueueStore.get?_put, if_true] at entry
  rw [QueueStore.read, QueueStore.read, entry]

/-- Routing several messages does not look at such a queue either. The induction is on the messages,
and the queue is still no outlet for the later ones since outlets stay. -/
theorem route_each_put (entry : Option (Queue Message)) (messages : List Message)
    (station : Station) (apart : id ∉ station.desk.outlets) :
    (station.withQueue id entry).routeEach messages =
      (station.routeEach messages).withQueue id entry := by
  induction messages generalizing station with
  | nil => rfl
  | cons message rest inductionHypothesis =>
    rw [routeEach, routeEach, route_put apart]
    apply inductionHypothesis
    rw [route_outlets]
    exact apart

end Station

end RelayTree
