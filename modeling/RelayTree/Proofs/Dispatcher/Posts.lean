import RelayTree.Proofs.Dispatcher.Reports

/-!
# What a strategy posts

What a strategy does to the queues with a message can be told beforehand. `posts` lists the copies
that it makes, each with the queue that the copy is put on, and takes them from the desk and from
the answer to the look-up, not from the queues. So what a queue gets depends on no other queue.
Only administrative messages are not covered: they go to the head of the control queue.
-/

namespace RelayTree

/-! ## The mail of one queue -/

namespace Queue

variable {α : Type}

/-- Items are put behind those that wait; a closed queue takes none, and is left as it is. -/
def offer (queue : Queue α) (items : List α) : Queue α :=
  if queue.closed then queue else { queue with items := queue.items ++ items }

/-- To be offered nothing changes no queue, be it an open one or a closed one. -/
@[simp] theorem offer_nil (queue : Queue α) : queue.offer [] = queue := by
  unfold offer
  split
  · rfl
  · rw [List.append_nil]

/-- Items can be offered in two parts, since the first part does not close the queue. -/
theorem offer_append (queue : Queue α) (first second : List α) :
    queue.offer (first ++ second) = (queue.offer first).offer second := by
  cases shut : queue.closed with
  | true => simp [offer, shut]
  | false => simp [offer, shut]

end Queue

/-- The copies that are for a queue, in the order in which they are posted. -/
def QueueId.mail (queue : QueueId) (posts : List (QueueId × Message)) : List Message :=
  posts.filterMap fun post => if post.1 = queue then some post.2 else none

namespace QueueId

variable {queue : QueueId} {copy : Message} {posts : List (QueueId × Message)}

/-- A copy is in the mail of a queue if it was posted to that queue. -/
theorem mem_mail : copy ∈ queue.mail posts ↔ (queue, copy) ∈ posts := by
  simp [mail, List.mem_filterMap]

/-- The mail of a queue from two lists of copies is that from the first, and then that from the
second. -/
theorem mail_append (queue : QueueId) (first second : List (QueueId × Message)) :
    queue.mail (first ++ second) = queue.mail first ++ queue.mail second :=
  List.filterMap_append

/-- A queue that no copy is for has no mail, whatever is posted to others. -/
theorem mail_none (elsewhere : ∀ post ∈ posts, post.1 ≠ queue) : queue.mail posts = [] := by
  rw [mail, List.filterMap_eq_nil_iff]
  exact fun post member => if_neg (elsewhere post member)

/-- Copies for other queues are none of its mail, however many there are. -/
theorem mail_others {others : List QueueId} (absent : queue ∉ others) :
    queue.mail (others.map (·, copy)) = [] := by
  refine mail_none fun post posted same => absent ?_
  obtain ⟨other, member, rfl⟩ := List.mem_map.mp posted
  exact same ▸ member

/-- Of copies for different queues it gets its own, and that once, since the queues are all
different. -/
theorem mail_copies {addressed : List QueueId} (distinct : addressed.Nodup)
    (member : queue ∈ addressed) : queue.mail (addressed.map (·, copy)) = [copy] := by
  obtain ⟨before, after, rfl⟩ := List.append_of_mem member
  obtain ⟨_, rest, apart⟩ := List.nodup_append.mp distinct
  have earlier : queue ∉ before := fun there => apart _ there _ List.mem_cons_self rfl
  have own : queue.mail [(queue, copy)] = [copy] := by simp [mail]
  rw [List.map_append, mail_append, mail_others earlier, List.map_cons, ← List.singleton_append,
    mail_append, mail_others (List.nodup_cons.mp rest).1, own]
  rfl

end QueueId

namespace QueueStore

/-- A message that is pushed is mail for its queue and for no other. A closed queue refuses it, as
it would when offered its mail. -/
theorem read_push_back (store : QueueStore) (id queue : QueueId) (message : Message) :
    ((store.pushBack? id message).getD store).read queue =
      (store.read queue).offer (queue.mail [(id, message)]) := by
  by_cases here : id = queue
  · subst here
    cases shut : (store.read id).closed with
    | true => simp [push_back_closed shut, Queue.offer, shut]
    | false => simp [push_open shut, append, QueueId.mail, Queue.offer, shut]
  · have none : queue.mail [(id, message)] = [] := QueueId.mail_none (by simpa using here)
    rw [none, Queue.offer_nil]
    unfold pushBack?
    cases (store.read id).pushBack? message with
    | none => rfl
    | some pushed => exact (read_write ..).trans (if_neg (Ne.symm here))

/-- Each queue is offered its mail, by induction on what is posted. So what a queue gets does not
depend on any other one. -/
theorem read_push_each (posts : List (QueueId × Message)) (store : QueueStore) (queue : QueueId) :
    (store.pushEach posts).read queue = (store.read queue).offer (queue.mail posts) := by
  induction posts generalizing store with
  | nil => exact (Queue.offer_nil _).symm
  | cons post rest inductionHypothesis =>
    rw [pushEach, inductionHypothesis, read_push_back, ← Queue.offer_append, ← QueueId.mail_append,
      List.singleton_append]

/-- Copies can be posted in two parts, one after the other. -/
theorem push_each_append (first second : List (QueueId × Message)) (store : QueueStore) :
    store.pushEach (first ++ second) = (store.pushEach first).pushEach second := by
  induction first generalizing store with
  | nil => rfl
  | cons post rest inductionHypothesis => exact inductionHypothesis _

/-- Messages are put on queues that are there, and so no queue is created by posting. -/
@[simp] theorem push_each_next (posts : List (QueueId × Message)) (store : QueueStore) :
    (store.pushEach posts).next = store.next := by
  induction posts generalizing store with
  | nil => rfl
  | cons post rest inductionHypothesis =>
    rw [pushEach, inductionHypothesis]
    unfold pushBack?
    cases (store.read post.1).pushBack? post.2 <;> rfl

end QueueStore

/-! ## What each strategy posts -/

namespace Exchange

/-- The copies for the subscribers of a publication, or none where its channel refuses it. -/
def publicationPosts (exchange : Exchange) (message : Message) : List (QueueId × Message) :=
  match exchange.desk.board.channels.accept message with
  | .ok (_, subscribers, _) => exchange.desk.board.registry.posts message subscribers
  | .error _ => []

/-- What is posted to the runtimes of the host: nothing of an administrative message, copies of a
publication, and the message itself for a module that runs. -/
def postsHere (exchange : Exchange) (message : Message) : List (QueueId × Message) :=
  if message.isControl then []
  else if message.target.module.isEmpty then exchange.publicationPosts message
  else
    match exchange.desk.board.registry.outputQueue? message.target.module with
    | some queue => [(queue, message)]
    | none => []

/-- What is posted to the server above, which is the message if its route starts upwards. -/
def postsUp (exchange : Exchange) (message : Message) : List (QueueId × Message) :=
  if exchange.reachesUpward message.target.host then [(exchange.desk.uplink.toServer, message)]
  else []

/-- The users that get a message: those it is for if their host is connected directly, and the one
user of the next hop otherwise. -/
def recipients (exchange : Exchange) (message : Message) : List QueueId :=
  match (exchange.resolveDown message.target.host).1 with
  | some [_] =>
    match exchange.addressedQueues message with
    | .ok queues => queues
    | .error _ => []
  | some (hop :: _ :: _) =>
    match exchange.desk.users.queuesOf hop with
    | .ok [queue] => [queue]
    | _ => []
  | _ => []

/-- What a strategy posts, each copy with the queue it is for. -/
def posts (exchange : Exchange) (message : Message) : Strategy → List (QueueId × Message)
  | .onHost => exchange.postsHere message
  | .upward => exchange.postsUp message
  | .downward => (exchange.recipients message).map (·, message)

variable {exchange : Exchange} {strategy : Strategy} {message : Message} {queue : QueueId}

/-- A queue that refuses a message is left alone, so posting says what is done in either case. -/
theorem queued_posts (closed : Event) :
    (exchange.queued strategy (exchange.queues.pushBack? queue message) closed).state.queues =
      exchange.queues.pushEach [(queue, message)] := by
  rw [QueueStore.pushEach, QueueStore.pushEach]
  cases exchange.queues.pushBack? queue message <;> rfl

/-- A publication posts its copies to the subscribers, whichever of them can take one. The number of
copies that it returns is not looked at, only where they go. -/
theorem publication_posted (exchange : Exchange) (message : Message) :
    (exchange.deliverPublication message).state.queues =
      exchange.queues.pushEach (exchange.publicationPosts message) := by
  unfold deliverPublication publicationPosts Switchboard.publish
  cases exchange.desk.board.channels.accept message with
  | error failure => rfl
  | ok found =>
    obtain ⟨name, subscribers, channels⟩ := found
    dsimp only
    rw [← Switchboard.copy_to_each_posts _ name]
    split <;> rfl

/-- What is sent upward is posted to the server, or nowhere if the route does not start upwards. -/
theorem up_posted (exchange : Exchange) (message : Message) :
    (exchange.sendUpward message).state.queues =
      exchange.queues.pushEach (exchange.postsUp message) := by
  unfold sendUpward postsUp
  split
  · exact queued_posts _
  · rfl

/-- The answer to the look-up says how a message goes on, and the users that get it are those the
answer leads to. -/
theorem down_posted (exchange : Exchange) (message : Message) :
    (exchange.sendDownward message).state.queues =
      exchange.queues.pushEach ((exchange.recipients message).map (·, message)) := by
  obtain ⟨path, book, looked⟩ : ∃ path book, exchange.resolveDown message.target.host =
      (path, { exchange with book := book }) := ⟨_, _, rfl⟩
  rw [sendDownward, recipients, looked]
  obtain _ | _ | ⟨hop, _ | _⟩ := path
  · rfl
  · rfl
  · have same : addressedQueues { exchange with book := book } message =
        exchange.addressedQueues message := rfl
    simp only [sendToUsers, same]
    cases exchange.addressedQueues message with
    | error reason => rfl
    | ok addressed => exact copy_to_users_posts message addressed exchange.queues
  · simp only [sendVia]
    rcases exchange.desk.users.queuesOf hop with _ | _ | ⟨queue, _ | _⟩
    · rfl
    · rfl
    · exact @queued_posts { exchange with book := book } .downward message queue _
    · rfl

/-- Administrative messages are posted to no queue but the control queue, and of all others
the queues get what is posted. -/
theorem here_posted (apart : queue ≠ exchange.desk.board.control) :
    (exchange.deliverOnHost message).state.queues.read queue =
      (exchange.queues.read queue).offer (queue.mail (exchange.postsHere message)) := by
  unfold deliverOnHost postsHere
  split
  · have unchanged : (exchange.deliverControl message).state.queues.read queue =
        exchange.queues.read queue := by
      cases shut : (exchange.queues.read exchange.desk.board.control).closed with
      | true =>
        rw [deliverControl, QueueStore.push_front_closed shut]
        rfl
      | false =>
        rw [deliverControl, QueueStore.push_front_open shut]
        exact (QueueStore.read_update ..).trans (if_neg apart)
    exact unchanged.trans (Queue.offer_nil _).symm
  · split
    · rw [publication_posted, QueueStore.read_push_each]
    · unfold deliverToModule
      split
      · rename_i unknown
        rw [unknown]
        exact (Queue.offer_nil _).symm
      · rename_i runtime runs
        rw [runs]
        exact (congrArg (·.read queue) (queued_posts _)).trans (QueueStore.read_push_each ..)

/-- Apart from the control queue, a queue is offered its part of what a strategy posts. -/
theorem route_posted (strategy : Strategy) (message : Message)
    (apart : queue ≠ exchange.desk.board.control) :
    (exchange.route strategy message).state.queues.read queue =
      (exchange.queues.read queue).offer (queue.mail (exchange.posts message strategy)) := by
  cases strategy with
  | onHost => exact here_posted apart
  | upward => exact (congrArg (·.read queue) (up_posted ..)).trans (QueueStore.read_push_each ..)
  | downward =>
    exact (congrArg (·.read queue) (down_posted ..)).trans (QueueStore.read_push_each ..)

end Exchange

namespace Station

/-- What the dispatcher posts by the strategy that it picks, and nothing where it picks none. -/
def posts (station : Station) (message : Message) : List (QueueId × Message) :=
  match station.dispatcher.select message with
  | .ok strategy => station.exchange.posts message strategy
  | .error _ => []

/-- The dispatcher itself puts nothing on a queue. Only the control queue is left out, as messages
go to its head. -/
theorem dispatch_posted {station : Station} {queue : QueueId} (message : Message)
    (apart : queue ≠ station.desk.board.control) :
    (station.route message).state.queues.read queue =
      (station.queues.read queue).offer (queue.mail (station.posts message)) := by
  cases selected : station.dispatcher.select message with
  | error failure =>
    simp only [route, posts, selected]
    exact (Queue.offer_nil _).symm
  | ok strategy =>
    simp only [route, posts, selected]
    exact @Exchange.route_posted station.exchange queue strategy message apart

end Station

end RelayTree
