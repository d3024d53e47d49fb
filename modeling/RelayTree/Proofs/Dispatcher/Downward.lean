import RelayTree.Proofs.Desk.Users
import RelayTree.Proofs.Dispatcher.Privacy
import RelayTree.Proofs.Dispatcher.Refusals
import RelayTree.Proofs.Tree.Ancestry

/-!
# What is sent down

What the strategy that leads down does with a message follows from the tree and from the keys of
the connected users. Neither what it remembers nor how the directory lists its users makes a
difference, as long as what is remembered comes from this tree. `Prescribed` says what is done for
each position of the target: elsewhere, directly below, or further down, where it depends on how
often the one client on the way there is connected.

That each of the users meant gets one copy, and nobody else one, rests on what holds of every desk:
the directory has each user once, and no queue has two owners.
-/

namespace RelayTree

namespace RoutingTree

variable {tree : RoutingTree} (sound : tree.Sound) {source target : String}
  (present : source ∈ tree.hosts)

include sound present

/-- Routes lead down to the hosts below, and to no other. Where the tree is sound, the position of
the target decides it alone. -/
theorem route_down_iff :
    (∃ path, tree.routeBetween source target = .ok ⟨path, .down⟩) ↔ tree.Below target source := by
  rw [below_iff_apart sound]
  constructor
  · rintro ⟨path, route⟩
    have lower := (leads_down_iff sound present).mp ⟨path, route⟩
    have known := leads_described ⟨path, route⟩
    obtain ⟨apart, above⟩ := (mem_descendants sound known present).mp lower
    exact ⟨apart, (mem_chain_iff sound known).mp above⟩
  · rintro ⟨apart, above⟩
    have known : target ∈ tree.hosts := by
      rcases Relation.ReflTransGen.cases_head above with same | ⟨server, connects, _⟩
      · exact absurd same apart
      · exact described_of_parent connects
    exact (leads_down_iff sound present).mpr
      ((mem_descendants sound known present).mpr ⟨apart, (mem_chain_iff sound known).mpr above⟩)

/-- The route to a host directly below has only this host on it. -/
theorem route_to_client (connects : tree.ConnectsTo target source) :
    tree.routeBetween source target = .ok ⟨[target], .down⟩ := by
  have known := described_of_parent connects
  have onward : tree.Onward source target .down target :=
    .down (self_mem_chain sound known) connects
  rw [route_of_onward sound present known (onward_apart sound present known onward) onward,
    waypoints_self]

/-- The route to a host further down starts with the one client that is above that host. Any client
above it is the first host of the route, and a route has only one first host, so there is no
other. -/
theorem route_over_client (lower : tree.Below target source)
    (apart : ¬ tree.ConnectsTo target source) :
    ∃ hop second rest, tree.routeBetween source target = .ok ⟨hop :: second :: rest, .down⟩ ∧
      ∀ other, tree.ConnectsTo other source ∧ tree.Below target other ↔ other = hop := by
  obtain ⟨path, route⟩ := (route_down_iff sound present).mpr lower
  have known := leads_described ⟨path, route⟩
  have different := ((below_iff_apart sound).mp lower).1
  -- Whichever client is above the target, the route starts with it.
  have begins {client : String} (connects : tree.ConnectsTo client source)
      (above : tree.AtOrAbove client target) : path = client :: tree.waypoints client target := by
    have onward : tree.Onward source target .down client :=
      .down ((mem_chain_iff sound known).mpr above) connects
    have found := route_of_onward sound present known (Ne.symm different) onward
    cases route.symm.trans found
    rfl
  obtain ⟨hop, above, connects⟩ := Relation.TransGen.tail'_iff.mp lower
  have onTheWay : tree.Below target hop := by
    refine (below_iff_apart sound).mpr ⟨?_, above⟩
    rintro rfl
    exact apart connects
  have between : hop ≠ target := Ne.symm ((below_iff_apart sound).mp onTheWay).1
  have described := described_of_parent connects
  obtain ⟨_, second, next⟩ := onward_exists sound described known between
  have goesOn := waypoints_of_onward sound described known between next
  refine ⟨hop, second, tree.waypoints second target, ?_, fun other => ⟨?_, ?_⟩⟩
  · rw [route, begins connects above, goesOn]
  · rintro ⟨also, across⟩
    have same := (begins connects above).symm.trans (begins also across.to_reflTransGen)
    exact (List.cons.inj same).1.symm
  · rintro rfl
    exact ⟨connects, onTheWay⟩

end RoutingTree

/-- A message without a token is for all users of its target, and one with a token for the user who
has it. -/
def Message.IsFor (message : Message) (key : UserKey) : Prop :=
  key.host = message.target.host ∧
    (message.userToken = "" ∨ key.userToken = message.userToken)

namespace Exchange

/-- Some of the users got a message: their open queues have it behind what waits there, and no
other queue has changed. -/
structure HandsTo (exchange : Exchange) (users : UserKey → Prop) (message : Message)
    (later : QueueStore) : Prop where
  given : ∀ key queue, users key → exchange.desk.users.queueOf key = .ok queue →
    later.read queue = (exchange.queues.read queue).offer [message]
  apart : ∀ queue, (∀ key, users key → exchange.desk.users.queueOf key ≠ .ok queue) →
    later.read queue = exchange.queues.read queue

/-- What is done with a message that has to go over a client: it depends on the users of the
client, whoever the message is for. -/
def PassesOver (exchange : Exchange) (hop : String) (message : Message)
    (outcome : Outcome Exchange Delivery) : Prop :=
  match exchange.desk.users.usersOf hop with
  | [] => outcome.result = .ok .dropped ∧ outcome.state.queues = exchange.queues
  | [user] => ∃ queue, exchange.desk.users.queueOf user = .ok queue ∧
      outcome.result =
        .ok (if (exchange.queues.read queue).closed then .dropped else .forwarded) ∧
      exchange.HandsTo (· = user) message outcome.state.queues
  | several => outcome.result = .error (.ambiguousNextHop hop several.length) ∧
      outcome.state.queues = exchange.queues

/-- What a tree and the connected users prescribe for a message, by the position of the target. The
last case depends on how often the one client on the way is connected. -/
structure Prescribed (exchange : Exchange) (tree : RoutingTree) (message : Message)
    (outcome : Outcome Exchange Delivery) : Prop where
  elsewhere : ¬ tree.Below message.target.host exchange.desk.host →
    outcome.result =
      .error (.unreachable .downward exchange.desk.host message.target.host) ∧
    outcome.state.queues = exchange.queues
  direct : tree.ConnectsTo message.target.host exchange.desk.host →
    exchange.HandsTo message.IsFor message outcome.state.queues ∧
      ((∀ key, message.IsFor key → exchange.desk.users.byKey.contains key = false) →
        outcome.result = .ok .dropped) ∧
      ∀ key, message.IsFor key → exchange.desk.users.byKey.contains key = true →
        outcome.result = .ok .forwarded
  further : tree.Below message.target.host exchange.desk.host →
    ¬ tree.ConnectsTo message.target.host exchange.desk.host →
    ∃ hop, (∀ other, tree.ConnectsTo other exchange.desk.host ∧
        tree.Below message.target.host other ↔ other = hop) ∧
      exchange.PassesOver hop message outcome

variable {exchange : Exchange} {message : Message} {users : UserKey → Prop}
  {addressed : List QueueId}

/-- Copies on the queues of some users hand the message to them, one copy to each that takes any,
and nothing to anybody else. -/
theorem posted_hands (addresses : exchange.desk.users.Addresses users addressed) :
    exchange.HandsTo users message (exchange.queues.pushEach (addressed.map (·, message))) where
  given := fun key queue meant found => by
    rw [QueueStore.read_push_each,
      QueueId.mail_copies addresses.distinct ((addresses.owners queue).mpr ⟨key, meant, found⟩)]
  apart := fun queue others => by
    rw [QueueStore.read_push_each, QueueId.mail_others, Queue.offer_nil]
    intro member
    obtain ⟨key, meant, found⟩ := (addresses.owners queue).mp member
    exact others key meant found

section Connected

variable (owned : exchange.desk.Owned exchange.queues) (mirrored : exchange.desk.users.Mirrored)

include owned mirrored

/-- Either nobody that the message is for is connected, or their queues are found. A message for all
users of a client is for those that the directory lists, and one for a single user needs no list. -/
theorem addressed_users (message : Message) :
    (∃ reason, exchange.addressedQueues message = .error reason ∧
      ∀ key, message.IsFor key → exchange.desk.users.byKey.contains key = false) ∨
    ∃ addressed, exchange.addressedQueues message = .ok addressed ∧
      exchange.desk.users.Addresses message.IsFor addressed ∧
      ∃ key, message.IsFor key ∧ exchange.desk.users.byKey.contains key = true := by
  cases broadcast : message.isBroadcast with
  | true =>
    have bare : message.userToken = "" := by simpa [Message.isBroadcast] using broadcast
    have meant (key : UserKey) (connected : exchange.desk.users.byKey.contains key = true) :
        key ∈ exchange.desk.users.usersOf message.target.host ↔ message.IsFor key := by
      simp [UserDirectory.mem_users, Message.IsFor, bare, connected]
    simp only [addressedQueues, broadcast, if_true]
    cases users : exchange.desk.users.usersOf message.target.host with
    | nil =>
      refine .inl ⟨_, UserDirectory.queues_of_nobody mirrored users, fun key isFor => ?_⟩
      by_contra connected
      rw [Bool.not_eq_false] at connected
      have user := (meant key connected).mpr isFor
      rw [users] at user
      cases user
    | cons first rest =>
      obtain ⟨addressed, found, _, addresses⟩ :=
        Desk.client_queues owned mirrored (by rw [users]; exact List.cons_ne_nil first rest)
      have user : first ∈ exchange.desk.users.usersOf message.target.host :=
        users ▸ List.mem_cons_self
      have connected := (UserDirectory.mem_users.mp user).1
      exact .inr ⟨addressed, found, UserDirectory.addresses_congr addresses meant, first,
        (meant first connected).mp user, connected⟩
  | false =>
    have only (key : UserKey) : message.IsFor key ↔
        key = ⟨message.target.host, message.userToken⟩ := by
      have named : message.userToken ≠ "" := by simpa [Message.isBroadcast] using broadcast
      cases key
      simp [Message.IsFor, named]
    simp only [addressedQueues, broadcast]
    cases own : exchange.desk.users.queueOf ⟨message.target.host, message.userToken⟩ with
    | error reason =>
      refine .inl ⟨reason, rfl, fun key meant => Bool.not_eq_true _ ▸ fun connected => ?_⟩
      rw [(only key).mp meant] at connected
      obtain ⟨queue, found⟩ := UserDirectory.connected_iff.mp connected
      cases own.symm.trans found
    | ok queue =>
      have addresses := UserDirectory.addresses_congr (UserDirectory.addresses_single own)
        fun key _ => (only key).symm
      exact .inr ⟨[queue], rfl, addresses, _, (only _).mpr rfl,
        UserDirectory.connected_iff.mpr ⟨queue, own⟩⟩

/-- A message for a host directly below goes to those of its users that it is for, and is dropped
if there are none. -/
theorem down_to_client {client : String}
    (answer : (exchange.resolveDown message.target.host).1 = some [client]) :
    exchange.HandsTo message.IsFor message (exchange.sendDownward message).state.queues ∧
      ((∀ key, message.IsFor key → exchange.desk.users.byKey.contains key = false) →
        (exchange.sendDownward message).result = .ok .dropped) ∧
      ∀ key, message.IsFor key → exchange.desk.users.byKey.contains key = true →
        (exchange.sendDownward message).result = .ok .forwarded := by
  obtain ⟨book, looked⟩ := resolve_answered answer
  have sent : exchange.sendDownward message =
      sendToUsers { exchange with book := book } message := by
    rw [sendDownward, looked]
  have same : addressedQueues { exchange with book := book } message =
      exchange.addressedQueues message := rfl
  rw [down_posted, recipients, answer]
  rcases addressed_users owned mirrored message with ⟨reason, unfound, absent⟩ |
    ⟨addressed, found, addresses, first, meant, connected⟩
  · have result : (exchange.sendDownward message).result = .ok .dropped := by
      rw [sent, sendToUsers, same, unfound]
      rfl
    simp only [unfound]
    refine ⟨posted_hands (UserDirectory.addresses_nobody absent), fun _ => result, ?_⟩
    intro key meant connected
    rw [absent key meant] at connected
    cases connected
  · have result : (exchange.sendDownward message).result = .ok .forwarded := by
      rw [sent, sendToUsers, same, found]
      rfl
    simp only [found]
    refine ⟨posted_hands addresses, fun absent => ?_, fun _ _ _ => result⟩
    rw [absent first meant] at connected
    cases connected

/-- A message for a host further down goes over the client on the way there. It is put on the queue
of that client's one user. With no user it is dropped, and with several the next hop is not
unique. -/
theorem down_over_client {hop second : String} {rest : List String}
    (answer : (exchange.resolveDown message.target.host).1 = some (hop :: second :: rest)) :
    exchange.PassesOver hop message (exchange.sendDownward message) := by
  obtain ⟨book, looked⟩ := resolve_answered answer
  have sent : exchange.sendDownward message =
      sendVia { exchange with book := book } message hop := by
    rw [sendDownward, looked]
  have posted := down_posted exchange message
  rw [recipients, answer] at posted
  unfold PassesOver
  rw [posted, sent, sendVia]
  cases users : exchange.desk.users.usersOf hop with
  | nil =>
    simp only [UserDirectory.queues_of_nobody mirrored users]
    exact ⟨rfl, rfl⟩
  | cons user others =>
    obtain ⟨addressed, found, length, addresses⟩ :=
      Desk.client_queues owned mirrored (by rw [users]; exact List.cons_ne_nil user others)
    rw [users] at length addresses
    simp only [found]
    cases others with
    | nil =>
      obtain ⟨queue, rfl⟩ := List.length_eq_one_iff.mp length
      have single := UserDirectory.addresses_congr addresses fun key _ => List.mem_singleton
      obtain ⟨_, rfl, own⟩ := (single.owners queue).mp List.mem_cons_self
      refine ⟨queue, own, ?_, posted_hands single⟩
      exact queued_on { exchange with book := book } .downward queue message _
    | cons second rest =>
      obtain ⟨_, _, rfl⟩ := List.exists_cons_of_length_eq_add_one length
      obtain ⟨_, _, rfl⟩ := List.exists_cons_of_length_eq_add_one (Nat.succ.inj length)
      refine ⟨?_, rfl⟩
      rw [← length]
      rfl

end Connected

/-- Whatever came and went at the desk of a host of the tree, the strategy that leads down does
with every message what is prescribed, if what it remembers comes from this tree.

Proof: what the look-up answers is the way down in the tree, since the book follows the tree. Where
the target lies decides what this answer is: nothing, the client alone, or a path over one client.
In the first case the message is refused. In the others the users of this client are addressed, and
the directory has each of them once, with a queue of its own. Users, devices and queues are the
outcome of arbitrary errands. -/
theorem downward_prescribed (host : String) (store : QueueStore) (errands : List Errand)
    {hosts : List Host} {tree : RoutingTree} (accepted : RoutingTree.ofHosts hosts = .ok tree)
    (described : host ∈ tree.hosts) {book : RouteBook} (follows : book.Follows host tree)
    (message : Message) :
    let exchange : Exchange :=
      ⟨(Desk.after host store errands).1, (Desk.after host store errands).2, book⟩
    exchange.Prescribed tree message (exchange.route .downward message) := by
  intro exchange
  have sound := RoutingTree.accepted_sound accepted
  have named : exchange.desk.host = host := Desk.after_host host store errands
  have owned : exchange.desk.Owned exchange.queues := Desk.after_owned host store errands
  have mirrored : exchange.desk.users.Mirrored := Desk.after_mirrored host store errands
  have answers (path : List String) : (exchange.resolveDown message.target.host).1 = some path ↔
      tree.routeBetween host message.target.host = .ok ⟨path, .down⟩ := by
    rw [← RouteBook.follows_answer follows, ← named]
    rfl
  refine ⟨?_, ?_, ?_⟩ <;> rw [named]
  · intro apart
    have unreached : (exchange.reaches .downward message.target.host).1 = false := by
      change (exchange.resolveDown message.target.host).1.isSome = false
      rw [Option.isSome_eq_false_iff, Option.isNone_iff_eq_none, Option.eq_none_iff_forall_not_mem]
      exact fun path answer => apart
        ((RoutingTree.route_down_iff sound described).mp ⟨path, (answers path).mp answer⟩)
    have refuses := away_refuses (by simp) unreached
    exact ⟨named ▸ refuses.result, refuses.queues⟩
  · intro connects
    exact down_to_client owned mirrored
      ((answers _).mpr (RoutingTree.route_to_client sound described connects))
  · intro lower apart
    obtain ⟨hop, second, rest, route, sole⟩ :=
      RoutingTree.route_over_client sound described lower apart
    exact ⟨hop, sole, down_over_client owned mirrored ((answers _).mpr route)⟩

/-- A root server with one user of the server below it, which is the way to all hosts below that
one. -/
def relaying : List Errand := [.connect ⟨"Server2", "relay"⟩ "d1"]

/-- The book of the root server, before any look-up, with the tree of four hosts installed. -/
def rootBook : RouteBook :=
  RouteBook.empty.install ⟨RoutingTree.linksOf RoutingTree.quartet, "Server1"⟩

/-- This user gets a message for another user further down: the next hop has to pass it on, whoever
it is meant for. -/
theorem relay_gets_what_is_for_others :
    let exchange : Exchange :=
      ⟨(Desk.after "Server1" .empty relaying).1, (Desk.after "Server1" .empty relaying).2, rootBook⟩
    let tree : RoutingTree := ⟨RoutingTree.linksOf RoutingTree.quartet, "Server1"⟩
    RoutingTree.ofHosts RoutingTree.quartet = .ok tree ∧ "Server1" ∈ tree.hosts ∧
      rootBook.Follows "Server1" tree ∧
      exchange.desk.users.queueOf ⟨"Server2", "relay"⟩ = .ok ⟨5⟩ ∧
      (exchange.route .downward (note "alice")).result = .ok .forwarded ∧
      exchange.HandsTo (· = ⟨"Server2", "relay"⟩) (note "alice")
        (exchange.route .downward (note "alice")).state.queues := by
  intro exchange tree
  have accepted : RoutingTree.ofHosts RoutingTree.quartet = .ok tree := rfl
  have described : "Server1" ∈ tree.hosts := by decide
  have follows : rootBook.Follows "Server1" tree := ⟨rfl, fun found => by cases found⟩
  have outer : tree.ConnectsTo "Server2" "Server1" := rfl
  have under : tree.ConnectsTo "Client2" "Server2" := rfl
  have lower : tree.Below "Client2" "Server1" := .head under (.single outer)
  have apart : ¬ tree.ConnectsTo "Client2" "Server1" := fun connects =>
    absurd (RoutingTree.connects_unique under connects) (by decide)
  obtain ⟨hop, sole, passes⟩ := (downward_prescribed "Server1" .empty relaying accepted described
    follows (note "alice")).further lower apart
  obtain rfl := (sole "Server2").mp ⟨outer, .single under⟩
  obtain ⟨queue, own, result, hands⟩ := passes
  cases own
  exact ⟨accepted, described, follows, rfl, result, hands⟩

end Exchange

end RelayTree
