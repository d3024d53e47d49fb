import RelayTree.Exchange.History
import RelayTree.Proofs.Desk.Owners
import RelayTree.Proofs.Dispatcher.Traces

/-!
# One user's messages and another's

Users of the same client share its name, its path and its remembered answer, but no queue. So a
message for one of them cannot show in the queue of another, not even by what it leaves behind:
a look-up remembers the answer that the next one would have found anyway. The main theorem says
this of two runs. If their messages are the same apart from those for other users of the client,
then so is what the queue of the user holds in the end.

The tree comes in at one point only. A message for a host further down is put on the one queue
of the next hop, whomever it is for, and the next hop is not the target.
-/

namespace RelayTree

/-! ## Paths and remembered answers -/

/-- On the way down to a host that is not connected directly, the next hop is another host. -/
theorem RoutingTree.next_hop_apart {tree : RoutingTree} (sound : tree.Sound)
    {source target hop second : String} {rest : List String}
    (route : tree.routeBetween source target = .ok ⟨hop :: second :: rest, .down⟩) :
    hop ≠ target := by
  have other : target ∈ tree.hosts := leads_described ⟨_, route⟩
  have present : source ∈ tree.hosts := by
    by_contra unknown
    have refused : tree.contains source = false := by simpa [contains] using unknown
    simp [routeBetween, refused] at route
  have apart : source ≠ target := by
    rintro rfl
    simp [routeBetween, contains, present] at route
  obtain ⟨direction, next, onward⟩ := onward_exists sound present other apart
  have first := route.symm.trans (route_of_onward sound present other apart onward)
  simp only [Except.ok.injEq, Route.mk.injEq, List.cons.injEq] at first
  obtain ⟨⟨rfl, further⟩, _⟩ := first
  rintro rfl
  rw [waypoints_self] at further
  cases further

namespace RouteBook

/-- The tree is sound, and every remembered path is that of some sound tree, be it an earlier
one. -/
structure Sound (book : RouteBook) (current : String) : Prop where
  installed : ∀ {tree : RoutingTree}, book.tree = some tree → tree.Sound
  remembered : ∀ {target : String} {path : List String},
    book.cache.get? target = some (some path) →
    ∃ tree : RoutingTree, tree.Sound ∧ tree.routeBetween current target = .ok ⟨path, .down⟩

variable {book later : RouteBook} {current target : String}

/-- What is remembered from a sound tree is a path of it, so soundness stays while the book only
grows. -/
theorem sound_grows (sound : book.Sound current) (grows : book.Grows current later) :
    later.Sound current where
  installed := fun found => sound.installed (grows.tree ▸ found)
  remembered := fun found => by
    rcases grows.answers found with earlier | ⟨tree, installed, answer⟩
    · exact sound.remembered earlier
    · exact ⟨tree, sound.installed installed, (path_down_iff ..).mp answer.symm⟩

/-- Every use of a book keeps it sound: what can be installed was accepted before, and what is
remembered comes from it. -/
theorem used_sound (use : Use) (sound : book.Sound current) :
    (book.used current use).Sound current := by
  cases use with
  | install hosts =>
    rw [used]
    split
    · rename_i tree accepted
      refine ⟨fun found => ?_, sound.remembered⟩
      obtain rfl : tree = _ := Option.some.inj found
      exact RoutingTree.accepted_sound accepted
    · exact sound
  | forget => exact ⟨sound.installed, fun found => by simp [used, forget] at found⟩
  | resolve target => exact sound_grows sound (grows_resolve ..)
  | count strategy change => exact sound_grows sound (grows_count ..)

/-- Whatever a book was used for, its paths are those of sound trees. -/
theorem after_sound (current : String) (uses : List Use) : (after current uses).Sound current := by
  have kept (book : RouteBook) (sound : book.Sound current) :
      (uses.foldl (used current) book).Sound current := by
    induction uses generalizing book with
    | nil => exact sound
    | cons use rest inductionHypothesis => exact inductionHypothesis _ (used_sound use sound)
  exact kept .empty ⟨fun found => (nomatch found), fun found => by simp [empty] at found⟩

/-- An answer is a path of some sound tree, be it the one that is installed or an earlier one that
was remembered from. -/
theorem answer_sound (sound : book.Sound current) {path : List String}
    (answer : (book.resolveDown current target).1 = some path) :
    ∃ tree : RoutingTree, tree.Sound ∧ tree.routeBetween current target = .ok ⟨path, .down⟩ := by
  unfold resolveDown at answer
  split at answer
  · rename_i remembered
    exact sound.remembered (remembered.trans (congrArg some answer))
  · split at answer
    · cases answer
    · rename_i tree installed
      exact ⟨tree, sound.installed installed, (path_down_iff ..).mp answer⟩

/-- Counting changes no answer, as answers are made from the cache and the tree. -/
theorem answer_count (book : RouteBook) (strategy : Strategy) (change : Counters → Counters) :
    ((book.count strategy change).resolveDown current target).1 =
      (book.resolveDown current target).1 := by
  simp only [resolveDown, count_cache, count_tree]
  cases book.cache.get? target with
  | some answer => rfl
  | none => cases book.tree <;> rfl

/-- What a look-up remembers is what would have been answered, so no later answer depends on whether
it was made. -/
theorem answer_resolve (book : RouteBook) (current asked target : String) :
    ((book.resolveDown current asked).2.resolveDown current target).1 =
      (book.resolveDown current target).1 := by
  cases remembered : book.cache.get? asked with
  | some answer =>
    have counted : (book.resolveDown current asked).2 = book.count .downward Counters.addHit := by
      simp only [resolveDown, remembered]
    rw [counted, answer_count]
  | none =>
    cases installed : book.tree with
    | none =>
      have counted : (book.resolveDown current asked).2 = book.count .downward Counters.addMiss := by
        simp only [resolveDown, remembered, installed]
      rw [counted, answer_count]
    | some tree =>
      simp only [resolveDown, remembered, installed, count_cache, SortedMap.get?_insert, count_tree]
      by_cases same : target = asked
      · rw [if_pos same, same, remembered]
      · rw [if_neg same]
        cases book.cache.get? target <;> rfl

end RouteBook

/-! ## Who gets a message -/

namespace Message

/-- Whether a message is for a user of the same client, but not for this one. -/
def isForOther (key : UserKey) (message : Message) : Bool :=
  message.target.host = key.host && !message.isBroadcast && message.userToken ≠ key.userToken

end Message

namespace Exchange

/-- Send messages down one after the other, whatever comes of each. A message that is refused or
dropped still leaves its look-up behind for the next ones. -/
def sendEach (exchange : Exchange) : List Message → Exchange
  | [] => exchange
  | message :: rest => (exchange.route .downward message).state.sendEach rest

variable {exchange : Exchange} {message : Message} {queue : QueueId}

/-- Where messages go is not changed by sending one: users and links stay, and answers do not depend
on what was remembered. -/
theorem recipients_kept (exchange : Exchange) (sent message : Message) :
    (exchange.sendDownward sent).state.recipients message = exchange.recipients message := by
  obtain ⟨channels, desk⟩ := (keeps_down exchange sent).desk
  have book := (down_passes exchange sent).book
  have answer : ((exchange.sendDownward sent).state.resolveDown message.target.host).1 =
      (exchange.resolveDown message.target.host).1 := by
    simp only [resolveDown, book, desk]
    rw [RouteBook.answer_count, RouteBook.answer_resolve]
  have users : (exchange.sendDownward sent).state.desk.users = exchange.desk.users := by rw [desk]
  simp only [recipients, addressedQueues, answer, users]

/-- Messages in order are put on the queues of those who get them now. The first of them changes no
answer to a later look-up, so the recipients of all can be told beforehand. -/
theorem send_each_posted (messages : List Message) (exchange : Exchange) :
    (exchange.sendEach messages).queues =
      exchange.queues.pushEach
        (messages.flatMap fun message => exchange.posts message .downward) := by
  induction messages generalizing exchange with
  | nil => rfl
  | cons message rest inductionHypothesis =>
    have kept : (fun later => (exchange.sendDownward message).state.posts later .downward) =
        fun later => exchange.posts later .downward := by
      funext later
      rw [posts, posts, recipients_kept]
    rw [sendEach, inductionHypothesis, route, kept, down_posted, ← QueueStore.push_each_append]
    rfl

/-- The queue of a user gets nothing that is meant for another user of the client. If it did, the
other one would own it as well, or the next hop on the way to the client would be the client. -/
theorem other_not_received (owned : exchange.desk.Owned exchange.queues)
    (sound : exchange.book.Sound exchange.desk.host) {key : UserKey}
    (registered : exchange.desk.users.queueOf key = .ok queue)
    (other : message.isForOther key = true) : queue ∉ exchange.recipients message := by
  simp only [Message.isForOther, Bool.and_eq_true, decide_eq_true_eq, Bool.not_eq_true'] at other
  obtain ⟨⟨client, single⟩, apart⟩ := other
  have owns := Desk.user_owns registered
  intro received
  rcases recipient_owner received with ⟨token, owner, meant⟩ | ⟨hop, _, _, token, answer, owner⟩
  · cases owned.sole owns owner
    exact apart (meant single).symm
  · cases owned.sole owns owner
    obtain ⟨tree, shape, route⟩ := RouteBook.answer_sound sound answer
    exact RoutingTree.next_hop_apart shape route client.symm

/-- The mail that messages bring to a user is that of the messages that are not for another user
of the client. -/
theorem user_mail (owned : exchange.desk.Owned exchange.queues)
    (sound : exchange.book.Sound exchange.desk.host) {key : UserKey}
    (registered : exchange.desk.users.queueOf key = .ok queue) (messages : List Message) :
    queue.mail (messages.flatMap fun message => exchange.posts message .downward) =
      queue.mail ((messages.filter fun message => !message.isForOther key).flatMap
        fun message => exchange.posts message .downward) := by
  induction messages with
  | nil => rfl
  | cons message rest inductionHypothesis =>
    rw [List.flatMap_cons, QueueId.mail_append, inductionHypothesis]
    cases other : message.isForOther key with
    | true =>
      have nothing : queue.mail (exchange.posts message .downward) = [] :=
        QueueId.mail_others (other_not_received owned sound registered other)
      rw [nothing, List.filter_cons_of_neg (by simp [other]), List.nil_append]
    | false =>
      rw [List.filter_cons_of_pos (by simp [other]), List.flatMap_cons, QueueId.mail_append]

/-- Whatever happened at a host before, two runs whose messages are the same apart from those for
other users of a client leave the same in the queue of a user of this client.

Proof: all that is sent is put down as a list of messages for queues, which depends on the book only
by its answers, and these do not change while messages are sent. What is for another user of the
client brings nothing to the queue of this one. It goes to other owners, or to the next hop of a
path, which is not its target and so not this client. Leaving such messages out therefore changes
nothing in the queue, and what is left is the same in both runs. That each queue has one owner holds
after all errands and is not assumed. -/
theorem users_isolated (host : String) (store : QueueStore) (errands : List Errand)
    (uses : List RouteBook.Use) (key : UserKey) {queue : QueueId} {first second : List Message}
    (registered : (after host store errands uses).desk.users.queueOf key = .ok queue)
    (alike : first.filter (fun message => !message.isForOther key) =
      second.filter (fun message => !message.isForOther key)) :
    ((after host store errands uses).sendEach first).queues.read queue =
      ((after host store errands uses).sendEach second).queues.read queue := by
  have owned := Desk.after_owned host store errands
  have sound := RouteBook.after_sound host uses
  have named : (Desk.after host store errands).1.host = host := Desk.after_host host store errands
  have own := @user_mail (after host store errands uses) queue owned (named.symm ▸ sound) key
    registered
  rw [send_each_posted, send_each_posted, QueueStore.read_push_each, QueueStore.read_push_each,
    own first, own second, alike]

/-- A user of a client that another user shares. -/
def alice : UserKey := ⟨"Client2", "alice"⟩

/-- A server with this user and another one on the same client, and with the tree of four hosts. -/
def shared : Exchange :=
  after "Server2" .empty [.connect alice "d1", .connect ⟨"Client2", "bob"⟩ "d2"]
    [.install RoutingTree.quartet]

/-- A message for one of them, or for both where it has no token. -/
def note (userToken : String) : Message :=
  ⟨"m", "", ⟨"", ""⟩, ⟨"Client2", "M"⟩, userToken, 0, .data .empty⟩

/-- One of them gets its own messages and those for both, no matter how many come for the other
one, and when. -/
theorem shared_client_isolated :
    let first := [note "bob", note "alice", note ""]
    let second := [note "alice", note "bob", note "bob", note ""]
    shared.desk.users.queueOf alice = .ok ⟨5⟩ ∧
      first.filter (fun message => !message.isForOther alice) =
        second.filter (fun message => !message.isForOther alice) ∧
      (shared.sendEach first).queues.read ⟨5⟩ = (shared.sendEach second).queues.read ⟨5⟩ ∧
      ((shared.sendEach second).queues.read ⟨5⟩).items = [note "alice", note ""] := by
  intro first second
  have registered : shared.desk.users.queueOf alice = .ok ⟨5⟩ := by rfl
  have alike : first.filter (fun message => !message.isForOther alice) =
      second.filter (fun message => !message.isForOther alice) := by decide
  have same : (shared.sendEach first).queues.read ⟨5⟩ = (shared.sendEach second).queues.read ⟨5⟩ :=
    users_isolated "Server2" .empty _ _ alice registered alike
  exact ⟨registered, alike, same, rfl⟩

end Exchange

end RelayTree
