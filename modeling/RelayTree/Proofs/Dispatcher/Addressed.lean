import RelayTree.Proofs.Dispatcher.Coherence
import RelayTree.Proofs.Desk.Owners

/-!
# How messages for modules are addressed

A dispatcher puts only such messages on the queue of a runtime as are addressed to its own host.
But a publication is not put there itself. Each subscriber gets a copy, and the copy is addressed
to the subscriber on the host that the publication comes from. This is the host of the subscriber
as long as only modules of this host publish. The sender of a publication is looked up by its
module and channel alone, though. So one that has come from another host, from a module that goes
by the name of a publisher here, is copied as well, and its copies bear the name of the other
host. These are the only exceptions.
-/

namespace RelayTree

/-- A publication that comes from another host, and is delivered on this one because a route has led
it here. -/
def Message.Foreign (host : String) (message : Message) : Prop :=
  message.isControl = false ∧ message.target.module = "" ∧ message.source.host ≠ host

/-- What is put on the queue of a runtime at a host comes from a message for the host, and is
addressed to the host itself unless the message is a publication from elsewhere. -/
structure Message.Delivers (host : String) (message copy : Message) : Prop where
  meant : message.target.host = host
  rendered : message.Renders copy
  addressed : copy.target.host = host ↔ ¬ message.Foreign host

/-! ## The strategies -/

namespace Exchange

variable {exchange : Exchange} {message copy : Message} {queue : QueueId} {name host : String}

/-- What is posted to a runtime at the target host of a message is the message itself if it names
a module, and otherwise a copy that is addressed to the host of the sender. -/
theorem here_delivers (meant : message.target.host = host)
    (posted : (queue, copy) ∈ exchange.postsHere message) : message.Delivers host copy := by
  unfold postsHere at posted
  split at posted
  · cases posted
  · rename_i data
    split at posted
    · rename_i everybody
      have empty := String.isEmpty_iff.mp everybody
      unfold publicationPosts at posted
      split at posted
      · obtain ⟨subscriber, _, chosen⟩ := List.mem_filterMap.mp posted
        obtain ⟨runtime, _, same⟩ := Option.map_eq_some_iff.mp chosen
        cases same
        refine ⟨meant, .inr ⟨subscriber, rfl⟩, ?_⟩
        simp [Message.Foreign, Switchboard.copyFor, data, empty]
      · cases posted
    · rename_i addressed
      have named : message.target.module ≠ "" := fun empty =>
        addressed (String.isEmpty_iff.mpr empty)
      split at posted
      · cases List.mem_singleton.mp posted
        exact ⟨meant, .inl rfl, by simp [Message.Foreign, meant, named]⟩
      · cases posted

/-- The strategies that lead to other hosts post nothing to a runtime, since the queue of a runtime
belongs to nobody else. -/
theorem posted_here {strategy : Strategy} (sole : exchange.desk.SoleOwner (.runtime name) queue)
    (posted : (queue, copy) ∈ exchange.posts message strategy) :
    strategy = .onHost ∧ (queue, copy) ∈ exchange.postsHere message := by
  cases strategy with
  | onHost => exact ⟨rfl, posted⟩
  | upward =>
    simp only [posts, postsUp] at posted
    split at posted
    · cases List.mem_singleton.mp posted
      cases (sole .toServer).mp rfl
    · cases posted
  | downward =>
    obtain ⟨recipient, received, same⟩ := List.mem_map.mp posted
    cases same
    rcases recipient_owner received with ⟨token, owner, _⟩ | ⟨_, _, _, token, _, owner⟩
    · cases (sole _).mp owner
    · cases (sole _).mp owner

end Exchange

/-! ## The dispatcher -/

namespace Station

variable {station : Station} {message copy : Message} {queue : QueueId} {name : String}

/-- Only the host itself is reached on the host, as the table of a coherent station says. With no
table nothing is picked, and the table of a build has this strategy for one name. -/
theorem select_here (coherent : station.Coherent)
    (selected : station.dispatcher.select message = .ok .onHost) :
    message.target.host = station.desk.host := by
  unfold Dispatcher.select at selected
  split at selected
  · cases selected
  · split at selected
    · cases selected
    · split at selected
      · rename_i strategy found
        cases selected
        rcases coherent with ⟨_, table, _⟩ | ⟨roster, tree, built⟩
        · simp [Dispatcher.strategy?, table] at found
        · rw [Dispatcher.strategy?, built.classified] at found
          split at found
          · by_contra apart
            simp only [classify, if_neg apart, Option.some.injEq] at found
            split at found <;> cases found
          · cases found
      · cases selected

/-- Whatever a dispatcher posts to a runtime, it delivers: it is the message itself for a module of
the host, or a copy for a subscriber. -/
theorem posts_deliver (coherent : station.Coherent)
    (sole : station.desk.SoleOwner (.runtime name) queue)
    (posted : (queue, copy) ∈ station.posts message) : message.Delivers station.desk.host copy := by
  unfold posts at posted
  split at posted
  · rename_i strategy selected
    obtain ⟨rfl, here⟩ := Exchange.posted_here sole posted
    exact Exchange.here_delivers (select_here coherent selected) here
  · cases posted

/-- After messages in order the queue of a runtime has got what each of them delivered. The
induction keeps the station steady and the owner of the queue alone, which each message does. A
closed queue gets nothing from any message, and that is a case of the statement too. -/
theorem route_each_delivers (messages : List Message) (station : Station) (steady : station.Steady)
    (sole : station.desk.SoleOwner (.runtime name) queue) :
    ∃ delivered : List (List Message),
      List.Forall₂ (fun message copies => ∀ copy ∈ copies,
        message.Delivers station.desk.host copy) messages delivered ∧
      ((station.routeEach messages).queues.read queue).items =
        (station.queues.read queue).items ++ delivered.flatten := by
  induction messages generalizing station with
  | nil => exact ⟨[], .nil, (List.append_nil _).symm⟩
  | cons message rest inductionHypothesis =>
    have keeps := keeps_route station message
    obtain ⟨delivered, each, items⟩ := inductionHypothesis (station.route message).state
      (steady_kept keeps steady) (Desk.settles_sole keeps.desk sole)
    rw [keeps.host] at each
    have apart : queue ≠ station.desk.board.control := by
      rintro rfl
      cases (sole .control).mp rfl
    have taken := dispatch_posted message apart
    cases shut : (station.queues.read queue).closed with
    | true =>
      refine ⟨[] :: delivered, .cons (by simp) each, ?_⟩
      rw [routeEach, items, taken, Queue.offer, if_pos shut, List.flatten_cons, List.nil_append]
    | false =>
      have now : ∀ copy ∈ queue.mail (station.posts message),
          message.Delivers station.desk.host copy := by
        intro copy listed
        exact posts_deliver steady.coherent sole (QueueId.mem_mail.mp listed)
      refine ⟨queue.mail (station.posts message) :: delivered, .cons now each, ?_⟩
      rw [routeEach, items, taken, Queue.offer, if_neg (by simp [shut]), List.flatten_cons,
        List.append_assoc]

/-- A host at work, with any errands done at its desk and any calls to its dispatcher. -/
def atWork (host : String) (store : QueueStore) (errands : List Errand) (calls : List Call) :
    Station where
  desk := (Desk.after host store errands).1
  dispatcher := (after host calls).dispatcher
  queues := (Desk.after host store errands).2

/-- A host at work is steady, whatever was done at its desk and whichever calls were made. -/
theorem at_work_steady (host : String) (store : QueueStore) (errands : List Errand)
    (calls : List Call) : (atWork host store errands calls).Steady := by
  obtain ⟨coherent, built⟩ := after_steady host calls
  refine ⟨?_, built⟩
  rw [Coherent, after_host] at coherent
  rw [Coherent, atWork, Desk.after_host]
  exact coherent

/-- Whatever messages a dispatcher routes, all that it puts on the queue of a runtime comes from
messages for its host, and is addressed to the host, except for the copies of publications that
have come from other hosts: none of these is addressed to it.

Proof: what one message puts on the queue of a runtime is found by following the dispatcher to the
strategy that delivers here, as no other strategy owns such a queue. The rest is an induction on the
messages, in which each leaves the station steady and the queue with its one owner. Owners and tree
are known from the errands and calls before, which are not restricted in any way. -/
theorem runtimes_addressed_unless_foreign (host : String) (store : QueueStore)
    (errands : List Errand) (calls : List Call) (name : String) {queue : QueueId}
    (runs : (atWork host store errands calls).desk.board.registry.runtimeQueue? name = some queue)
    (messages : List Message) :
    ∃ delivered : List (List Message),
      List.Forall₂ (fun message copies => ∀ copy ∈ copies, message.Delivers host copy) messages
        delivered ∧
      (((atWork host store errands calls).routeEach messages).queues.read queue).items =
        ((atWork host store errands calls).queues.read queue).items ++ delivered.flatten := by
  have sole : (atWork host store errands calls).desk.SoleOwner (.runtime name) queue :=
    Desk.owned_sole (Desk.after_owned host store errands) runs
  obtain ⟨delivered, each, items⟩ := route_each_delivers messages
    (atWork host store errands calls) (at_work_steady host store errands calls) sole
  have named : (atWork host store errands calls).desk.host = host :=
    Desk.after_host host store errands
  rw [named] at each
  exact ⟨delivered, each, items⟩

/-- A server with a module that publishes, and another one that subscribes, both on one
connection. -/
def newsroom : Station :=
  atWork "Server2" .empty
    [.serve (.enroll "A" "class" .empty), .serve (.enroll "B" "class" .empty),
      .serve (.place "B" "runtime"), .serve (.bind ⟨"A", "out"⟩ ⟨"c", .publisher⟩),
      .serve (.bind ⟨"B", "in"⟩ ⟨"c", .subscriber⟩)]
    [.build ⟨RoutingTree.quartet, RoutingTree.quartet_distinct⟩]

/-- A publication by a module of some host that goes by the name of the publisher. -/
def news (host : String) : Message :=
  ⟨"m", "out", ⟨host, "A"⟩, ⟨"Server2", ""⟩, "", 0, .data (.text "t")⟩

/-- The subscriber gets what is published on its own host and what comes from a client, each
addressed to the host that it comes from. -/
theorem newsroom_addresses :
    newsroom.desk.board.registry.runtimeQueue? "runtime" = some ⟨5⟩ ∧
      (∃ delivered : List (List Message),
        List.Forall₂ (fun message copies => ∀ copy ∈ copies, message.Delivers "Server2" copy)
          [news "Server2", news "Client2"] delivered ∧
        ((newsroom.routeEach [news "Server2", news "Client2"]).queues.read ⟨5⟩).items =
          (newsroom.queues.read ⟨5⟩).items ++ delivered.flatten) ∧
      ((newsroom.routeEach [news "Server2", news "Client2"]).queues.read ⟨5⟩).items.map
        (·.target.host) = ["Server2", "Client2"] := by
  have runs : newsroom.desk.board.registry.runtimeQueue? "runtime" = some ⟨5⟩ := by rfl
  exact ⟨runs, runtimes_addressed_unless_foreign "Server2" .empty _ _ "runtime" runs _, by rfl⟩

/-- So not everything that a dispatcher puts on the queue of a runtime is addressed to its host. -/
theorem foreign_publication_misaddressed :
    ¬ ∀ (host : String) (store : QueueStore) (errands : List Errand) (calls : List Call)
      (name : String) (queue : QueueId) (messages : List Message),
      (atWork host store errands calls).desk.board.registry.runtimeQueue? name = some queue →
      ∀ copy ∈ (((atWork host store errands calls).routeEach messages).queues.read queue).items,
        copy ∈ ((atWork host store errands calls).queues.read queue).items ∨
          copy.target.host = host := by
  intro addressed
  have runs : newsroom.desk.board.registry.runtimeQueue? "runtime" = some ⟨5⟩ := by rfl
  have placed : ((newsroom.routeEach [news "Client2"]).queues.read ⟨5⟩).items =
      [Switchboard.copyFor ⟨"B", "in"⟩ (news "Client2")] := by rfl
  have nothing : (newsroom.queues.read ⟨5⟩).items = [] := by rfl
  have claimed : Switchboard.copyFor ⟨"B", "in"⟩ (news "Client2") ∈
        (newsroom.queues.read ⟨5⟩).items ∨
      (Switchboard.copyFor ⟨"B", "in"⟩ (news "Client2")).target.host = "Server2" :=
    addressed "Server2" .empty _ _ "runtime" ⟨5⟩ [news "Client2"] runs _
      (placed ▸ List.mem_singleton_self _)
  rw [nothing] at claimed
  rcases claimed with earlier | named
  · cases earlier
  · simp [Switchboard.copyFor, news] at named

end Station

end RelayTree
