import Mathlib.Algebra.Ring.Nat
import RelayTree.Proofs.Dispatcher.Posts
import RelayTree.Proofs.Switchboard.Agreement
import RelayTree.Switchboard.Requests

/-!
# One copy for each binding

A publication walks the subscribers of its connection in the order of their modules, and of their
channels within a module. Each of them whose runtime has an open queue gets one copy there, and
nobody else gets anything. `FansOut` says so of the queues before and after, without the walk, so
that the order on a queue that several modules share can be read off, as well as what a module gets
that is bound twice. The number that is returned is told in two ways: as the number of subscribers
who can be reached, and as how many messages more wait on all queues together.
`one_copy_per_binding` holds of every switchboard and all queues; that the channels and the runtimes
were set up by requests is not used.
-/

namespace RelayTree

/-! ## How many messages wait -/

/-- A new entry adds its weight, and an entry that it replaces takes its own away. It is put as a
sum on both sides, since natural numbers cannot be taken away from each other without a loss. -/
theorem SortedMap.weight_place {κ ν : Type} [Ord κ] [Std.TransOrd κ] [Std.LawfulEqOrd κ]
    (weight : ν → Nat) (key : κ) (value : ν) {entries : List (κ × ν)}
    (increasing : entries.Pairwise (fun a b => compare a.1 b.1 = .lt)) :
    ((place key value entries).map (weight ·.2)).sum + ((lookup key entries).map weight).getD 0 =
      (entries.map (weight ·.2)).sum + weight value := by
  induction entries with
  | nil => simp [place, lookup]
  | cons entry rest inductionHypothesis =>
    obtain ⟨first, later⟩ := List.pairwise_cons.mp increasing
    have others := inductionHypothesis later
    rw [place, lookup]
    cases order : compare key entry.1 with
    | lt =>
      have absent : lookup key rest = none := lookup_eq_none fun other listed =>
        Std.TransCmp.lt_trans order (first other listed)
      simp only [List.map_cons, List.sum_cons, reduceCtorEq, ↓reduceIte, absent, Option.map_none,
        Option.getD_none]
      omega
    | eq =>
      simp only [List.map_cons, List.sum_cons, ↓reduceIte, Option.map_some, Option.getD_some]
      omega
    | gt =>
      simp only [List.map_cons, List.sum_cons, reduceCtorEq, ↓reduceIte]
      omega

namespace QueueStore

/-- The messages on all queues together, as a sum that can be reasoned about with what is known of
lists. -/
theorem total_eq_sum (store : QueueStore) :
    store.total = (store.queues.entries.map (·.2.length)).sum := by
  rw [total, SortedMap.values, List.foldl_map, List.sum_eq_foldl, List.foldl_map]

/-- One message more on a queue is one more in all, also on a queue that the store did not have an
entry for. -/
theorem total_append (store : QueueStore) (queue : QueueId) (message : Message) :
    (store.append queue message).total = store.total + 1 := by
  have weighed := SortedMap.weight_place Queue.length queue
    { store.read queue with items := (store.read queue).items ++ [message] }
    store.queues.increasing
  have before : ((SortedMap.lookup queue store.queues.entries).map Queue.length).getD 0 =
      (store.read queue).length := by
    rw [read, SortedMap.get?]
    cases SortedMap.lookup queue store.queues.entries <;> rfl
  have longer : Queue.length { store.read queue with
      items := (store.read queue).items ++ [message] } = (store.read queue).length + 1 :=
    List.length_append
  have after : (store.append queue message).total = ((SortedMap.place queue
      { store.read queue with items := (store.read queue).items ++ [message] }
      store.queues.entries).map (·.2.length)).sum := total_eq_sum _
  rw [before, longer] at weighed
  rw [after, total_eq_sum store]
  omega

end QueueStore

/-! ## The order of bindings -/

namespace Endpoint

/-- The order of bindings: by module, and then by channel. Copies are made in this order, which is
the one that two channels of a module get theirs in. -/
def Before (first second : Endpoint) : Prop :=
  first.module < second.module ∨ first.module = second.module ∧ first.channel < second.channel

/-- This is the order that the sets of a connection are kept in. -/
theorem before_iff {first second : Endpoint} :
    first.Before second ↔ compare first second = .lt := by
  have text (left right : String) : compare left right = .lt ↔ left < right :=
    compareOfLessAndEq_eq_lt
  have names : compare first second =
      (compare first.module second.module).then (compare first.channel second.channel) := rfl
  rw [names, Ordering.then_eq_lt, text, text, Std.LawfulEqCmp.compare_eq_iff_eq, Before]

end Endpoint

/-- The parties of a connection are listed in order, and each of them once. -/
theorem Connection.members_in_order (connection : Connection) (role : Role) :
    (connection.members role).Pairwise Endpoint.Before := by
  have ordered (set : SortedSet Endpoint) : set.toList.Pairwise Endpoint.Before :=
    List.pairwise_map.mpr (set.increasing.imp Endpoint.before_iff.mpr)
  cases role with
  | publisher => exact ordered connection.publishers
  | subscriber => exact ordered connection.subscribers

/-- Agreeing on a type changes no party, so the subscribers before and after are the same ones in
the same order. -/
theorem Connection.agree_members {connection agreed : Connection} {name module tag : String}
    (accepted : connection.agree name module tag = .ok agreed) (role : Role) :
    agreed.members role = connection.members role := by
  rw [agree] at accepted
  split at accepted
  · cases accepted
    cases role <;> rfl
  · split at accepted <;> cases accepted
    rfl

/-- A message that is taken goes to the subscribers of the connection that its sender publishes on,
also where it is the one that fixes the type. -/
theorem Channels.accept_subscribers {channels changed : Channels} {message : Message}
    {name : String} {subscribers : List Endpoint}
    (accepted : channels.accept message = .ok (name, subscribers, changed)) :
    subscribers = (channels.connection name).members .subscriber := by
  have publishes := (accept_accepts accepted).1
  simp only [accept, publication_publishes publishes] at accepted
  split at accepted
  · split at accepted <;> cases accepted
    rfl
  · -- The first message on a connection reads the subscribers again when it fixes the type.
    rw [settle] at accepted
    cases there : channels.connections.get? name with
    | none =>
      simp only [there] at accepted
      cases accepted
    | some connection =>
      simp only [there] at accepted
      cases agrees : connection.agree name message.source.module message.tag with
      | error failure =>
        simp only [agrees] at accepted
        cases accepted
      | ok agreed =>
        simp only [agrees] at accepted
        cases accepted
        rw [connection_found there, Connection.agree_members agrees]

namespace Switchboard

variable {registry : Registry} {board : Switchboard} {queues : QueueStore} {message : Message}

/-! ## How many copies are made -/

/-- A module whose runtime has an open queue. It is the one condition under which a subscriber gets
a copy. -/
def Listens (registry : Registry) (queues : QueueStore) (module : String) : Bool :=
  match registry.outputQueue? module with
  | none => false
  | some queue => !(queues.read queue).closed

/-- A copy more on some queue opens or closes none, so whether a later subscriber listens does not
depend on the copies made before. -/
theorem listens_append (queue : QueueId) (copy : Message) (module : String) :
    Listens registry (queues.append queue copy) module = Listens registry queues module := by
  have shut (id : QueueId) :
      ((queues.append queue copy).read id).closed = (queues.read id).closed := by
    rw [QueueStore.append, QueueStore.read_update]
    split
    · rename_i same
      rw [same]
    · rfl
  simp only [Listens, shut]

/-- As many copies are counted as there are subscribers whose runtimes have open queues, and just as
many messages more wait then. -/
theorem copies_of_listeners (connection : String) (subscribers : List Endpoint)
    (queues : QueueStore) :
    let copied := copyToEach registry connection message subscribers queues
    let listeners := subscribers.countP (Listens registry queues ·.module)
    copied.result = .ok listeners ∧ copied.state.total = queues.total + listeners := by
  induction subscribers generalizing queues with
  | nil => exact ⟨rfl, rfl⟩
  | cons subscriber rest inductionHypothesis =>
    rw [copyToEach]
    cases runs : registry.outputQueue? subscriber.module with
    | none =>
      have idle : Listens registry queues subscriber.module = false := by rw [Listens, runs]
      rw [List.countP_cons_of_neg (by simp [idle])]
      exact inductionHypothesis queues
    | some queue =>
      cases shut : (queues.read queue).closed with
      | true =>
        have idle : Listens registry queues subscriber.module = false := by
          simp only [Listens, runs, shut, Bool.not_true]
        simp only [QueueStore.push_back_closed shut]
        rw [List.countP_cons_of_neg (by simp [idle])]
        exact inductionHypothesis queues
      | false =>
        have listens : Listens registry queues subscriber.module = true := by
          simp only [Listens, runs, shut, Bool.not_false]
        have counted : (subscriber :: rest).countP (Listens registry queues ·.module) =
            rest.countP (Listens registry queues ·.module) + 1 := List.countP_cons_of_pos listens
        obtain ⟨returned, total⟩ :=
          inductionHypothesis (queues.append queue (copyFor subscriber message))
        simp only [listens_append, QueueStore.total_append] at returned total
        simp only [QueueStore.push_open shut, Outcome.map]
        constructor
        · rw [returned, counted]
          rfl
        · rw [total, counted]
          omega

/-! ## What one queue gets -/

/-- The copies for the subscribers whose runtime has a queue, in the order of the subscribers. A
copy goes to the module of the subscriber, on the host that the message came from, and under the
subscriber's name for the channel; all else is as in the message. -/
def copiesOn (registry : Registry) (message : Message) (subscribers : List Endpoint)
    (queue : QueueId) : List Message :=
  (subscribers.filter (registry.outputQueue? ·.module = some queue)).map fun subscriber =>
    { message with
      target := ⟨message.source.host, subscriber.module⟩
      channel := subscriber.channel }

/-- These are the mail of the queue: of all that is posted for the subscribers, what the queue gets
are the copies of those whose runtime it belongs to, in their order. -/
theorem mail_of_subscribers (subscribers : List Endpoint) (queue : QueueId) :
    queue.mail (registry.posts message subscribers) =
      copiesOn registry message subscribers queue := by
  rw [QueueId.mail, Registry.posts, List.filterMap_filterMap, copiesOn, ← List.filterMap_eq_map,
    List.filterMap_filter]
  congr 1
  funext subscriber
  cases runs : registry.outputQueue? subscriber.module with
  | none => simp
  | some other =>
    by_cases here : other = queue
    · simp [here, copyFor]
    · simp [here]

/-- A queue on which none of the subscribers runs gets no copy. -/
theorem no_copies_elsewhere {subscribers : List Endpoint} {queue : QueueId}
    (elsewhere : ∀ subscriber ∈ subscribers,
      registry.outputQueue? subscriber.module ≠ some queue) :
    copiesOn registry message subscribers queue = [] := by
  rw [copiesOn, List.map_eq_nil_iff, List.filter_eq_nil_iff]
  intro subscriber listed
  simpa using elsewhere subscriber listed

/-- On the queue of its runtime a module gets as many as it has bindings. Copies for other modules
may be on the same queue, and they are not counted. -/
theorem copies_for_module {module : String} {queue : QueueId} (subscribers : List Endpoint)
    (runs : registry.outputQueue? module = some queue) :
    (copiesOn registry message subscribers queue).countP (·.target.module = module) =
      subscribers.countP (·.module = module) := by
  rw [copiesOn, List.countP_map, List.countP_filter]
  apply List.countP_congr
  intro subscriber _
  simp only [Function.comp_apply, Bool.and_eq_true, decide_eq_true_eq]
  constructor
  · exact And.left
  · rintro rfl
    exact ⟨rfl, runs⟩

/-! ## Publications -/

/-- A message that the channels take is copied to the subscribers they gave, and the channels they
gave are the ones afterwards. -/
theorem publish_taken {name : String} {subscribers : List Endpoint} {channels : Channels}
    (accepted : board.channels.accept message = .ok (name, subscribers, channels)) :
    board.publish queues message =
      (copyToEach board.registry name message subscribers queues).within fun queues =>
        ({ board with channels := channels }, queues) := by
  rw [publish, accepted]

/-- One that they refuse leaves everything as it was, the queues included. -/
theorem publish_refused {failure : Failure}
    (refused : board.channels.accept message = .error failure) :
    board.publish queues message = .fail (board, queues) failure := by
  rw [publish, refused]

/-- A message that was published was taken by the channels, whatever number of copies came of it. -/
theorem accept_published {copies : Nat}
    (published : (board.publish queues message).result = .ok copies) :
    ∃ name subscribers channels,
      board.channels.accept message = .ok (name, subscribers, channels) := by
  cases accepted : board.channels.accept message with
  | error failure =>
    rw [publish_refused accepted] at published
    cases published
  | ok found => exact ⟨found.1, found.2.1, found.2.2, rfl⟩

/-- What a publication on a connection does to the queues, if it returns this number of copies. -/
structure FansOut (board : Switchboard) (message : Message) (before after : QueueStore)
    (name : String) (copies : Nat) : Prop where
  publishes : board.channels.Publishes message name
  inOrder : ((board.channels.connection name).members .subscriber).Pairwise Endpoint.Before
  /-- An open queue has got a copy for each binding of the modules that run there, in the order of
  the bindings and behind everything else. -/
  opened : ∀ queue, (before.read queue).closed = false → after.read queue =
    ⟨(before.read queue).items ++ copiesOn board.registry message
      ((board.channels.connection name).members .subscriber) queue, false⟩
  closed : ∀ queue, (before.read queue).closed = true → after.read queue = before.read queue
  others : ∀ queue, (∀ subscriber ∈ (board.channels.connection name).members .subscriber,
    board.registry.outputQueue? subscriber.module ≠ some queue) →
      after.read queue = before.read queue
  /-- A module that is bound twice gets two copies. -/
  perModule : ∀ module queue, board.registry.outputQueue? module = some queue →
    (before.read queue).closed = false →
      (after.read queue).items.countP (·.target.module = module) =
        (before.read queue).items.countP (·.target.module = module) +
          ((board.channels.connection name).members .subscriber).countP (·.module = module)
  /-- Whoever listens was counted. -/
  counted : copies = ((board.channels.connection name).members .subscriber).countP
    (Listens board.registry before ·.module)
  total : after.total = before.total + copies

/-- A publication that succeeds puts one copy for each subscriber on the queue of its runtime,
unless it has none or that is closed, in the order of the bindings, and returns how many.

Proof: the walk over the subscribers offers each queue, in order, the copies for those who run there
(`mail_of_subscribers`). An open queue takes what it is offered and a closed one takes nothing. The
number returned and the growth of all queues are counted along the same walk. The subscribers are
listed in the order of a sorted map, so no statement about order depends on when they were bound. -/
theorem one_copy_per_binding (board : Switchboard) (queues : QueueStore) (message : Message)
    (copies : Nat) (published : (board.publish queues message).result = .ok copies) :
    ∃ name, board.FansOut message queues (board.publish queues message).state.2 name copies := by
  obtain ⟨name, subscribers, channels, accepted⟩ := accept_published published
  have everyone := Channels.accept_subscribers accepted
  have posted := copy_to_each_posts board.registry name message subscribers queues
  obtain ⟨counted, total⟩ := copies_of_listeners name subscribers queues
  rw [publish_taken accepted] at published ⊢
  obtain rfl := Except.ok.inj (published.symm.trans counted)
  dsimp only [Outcome.within]
  -- Each queue is offered its part of the copies, and only an open one takes it.
  have offered (queue : QueueId) :
      (copyToEach board.registry name message subscribers queues).state.read queue =
        (queues.read queue).offer (copiesOn board.registry message subscribers queue) := by
    rw [posted, QueueStore.read_push_each, mail_of_subscribers]
  subst everyone
  refine ⟨name, ?_⟩
  constructor
  case publishes => exact (Channels.accept_accepts accepted).1
  case inOrder => exact Connection.members_in_order _ _
  case opened =>
    intro queue opened
    rw [offered, Queue.offer, if_neg (by simp [opened]), opened]
  case closed =>
    intro queue shut
    rw [offered, Queue.offer, if_pos shut]
  case others =>
    intro queue elsewhere
    rw [offered, no_copies_elsewhere elsewhere, Queue.offer_nil]
  case perModule =>
    intro module queue runs opened
    rw [offered, Queue.offer, if_neg (by simp [opened]), List.countP_append,
      copies_for_module _ runs]
  case counted => rfl
  case total => exact total

/-- A host with one publisher. Two of its listeners share a runtime, and one of these is bound
twice; a third one runs where the queue was closed, and a fourth one nowhere. -/
def chorus : Switchboard × QueueStore :=
  let (board, queues) := (create .empty).1.serveAll (create .empty).2
    [.enroll "A" "class" .empty, .enroll "K" "class" .empty, .enroll "L" "class" .empty,
      .enroll "M" "class" .empty, .enroll "N" "class" .empty, .bind ⟨"A", "out"⟩ ⟨"c", .publisher⟩,
      .bind ⟨"N", "in"⟩ ⟨"c", .subscriber⟩, .bind ⟨"M", "in"⟩ ⟨"c", .subscriber⟩,
      .bind ⟨"L", "low"⟩ ⟨"c", .subscriber⟩, .bind ⟨"L", "high"⟩ ⟨"c", .subscriber⟩,
      .bind ⟨"K", "in"⟩ ⟨"c", .subscriber⟩, .place "L" "shared", .place "M" "shared",
      .place "K" "shut"]
  (board, queues.close ⟨3⟩)

/-- What the publisher of the example has to say, on its one channel. -/
def tune : Message := ⟨"m", "out", ⟨"S", "A"⟩, ⟨"", ""⟩, "", 0, .data (.text "t")⟩

/-- The shared queue gets three copies in the order of the bindings, and no other one gets any. -/
theorem chorus_copies :
    let published := chorus.1.publish chorus.2 tune
    published.result = .ok 3 ∧
      (∃ name, chorus.1.FansOut tune chorus.2 published.state.2 name 3) ∧
      (published.state.2.read ⟨2⟩).items.map (fun copy => (copy.target.module, copy.channel)) =
        [("L", "high"), ("L", "low"), ("M", "in")] := by
  have returned : (chorus.1.publish chorus.2 tune).result = .ok 3 := by decide +kernel
  have spread := one_copy_per_binding chorus.1 chorus.2 tune 3 returned
  exact ⟨returned, spread, by decide +kernel⟩

end Switchboard

end RelayTree
