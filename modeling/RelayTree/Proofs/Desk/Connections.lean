import Mathlib.Data.List.Induction
import RelayTree.Exchange.History
import RelayTree.Proofs.Desk.Users

/-!
# Users in the order of their connection

Users come and go at a desk, some are refused, and in between everything else happens there. The
list of a client's users is always in the order in which those who are connected last got a
connection. This order is read off the errands themselves, as the place of the latest connection
that did not fail; the list is never sorted, it only grows at its end and loses members.

A user who connects gets a queue that nobody at the desk ever had, and the queue of one who leaves
stays closed until somebody who still holds it opens it again. That rests on what an errand can do
to queues at all: it adds messages, creates a queue, closes one, or is itself the handling of one.
-/

namespace RelayTree

namespace UserDirectory

variable {directory : UserDirectory} {client : String} {key : UserKey} {device : String}
  {queues : QueueStore}

/-- A user that is connected is refused, and all stays as it is. -/
theorem connect_refused (taken : directory.byKey.contains key = true) :
    directory.connect queues key device =
      .fail (directory, queues) (.userAlreadyConnected key.host key.userToken) := if_pos taken

/-- A user that is not connected is let in, with a new queue. -/
theorem connect_accepted (queues : QueueStore) (device : String)
    (fresh : directory.byKey.contains key = false) :
    (directory.connect queues key device).result = .ok ⟨queues.next⟩ ∧
      (directory.connect queues key device).state.2 = queues.create.2 ∧
      (directory.connect queues key device).state.1.queueOf key = .ok ⟨queues.next⟩ := by
  rw [connect, if_neg (Bool.eq_false_iff.mp fresh)]
  refine ⟨rfl, rfl, ?_⟩
  simp [queueOf, QueueStore.create]

/-- A user that is not connected cannot leave, and all stays as it is. -/
theorem disconnect_refused (absent : directory.byKey.contains key = false) :
    directory.disconnect queues key =
      .fail (directory, queues) (.userNotConnected key.host key.userToken) := by
  have missing : directory.byKey.get? key = none := by simpa [SortedMap.contains] using absent
  rw [disconnect, missing]

/-- A user that is connected can leave, and its queue is closed. From then on the user has no
queue. -/
theorem disconnect_accepted {queue : QueueId} (queues : QueueStore)
    (own : directory.queueOf key = .ok queue) :
    (directory.disconnect queues key).result = .ok () ∧
      (directory.disconnect queues key).state.2 = queues.close queue ∧
      (directory.disconnect queues key).state.1.byKey.contains key = false := by
  obtain ⟨user, connected, rfl⟩ := Option.map_eq_some_iff.mp (queue_of_iff.mp own)
  simp [disconnect, connected, SortedMap.contains]

/-- Of users that are all connected the queues are found in the order of the users. That every one
of them has a queue is needed, because users without one are passed over. -/
theorem found_in_order (client : String) {listed : List String}
    (connected : ∀ token ∈ listed, directory.byKey.contains ⟨client, token⟩ = true) :
    List.Forall₂ (fun token queue => directory.queueOf ⟨client, token⟩ = .ok queue) listed
      (listed.filterMap fun token => directory.queue? ⟨client, token⟩) := by
  induction listed with
  | nil => exact .nil
  | cons token rest inductionHypothesis =>
    obtain ⟨queue, own⟩ := connected_iff.mp (connected token List.mem_cons_self)
    rw [List.filterMap_cons, queue_of_iff.mp own]
    exact .cons own (inductionHypothesis fun other later =>
      connected other (List.mem_cons_of_mem _ later))

/-- The queues of a client are found in the order of its list, and there are none to be found
exactly if the list is empty. -/
theorem queues_in_order (mirrored : directory.Mirrored) (client : String) :
    directory.tokens client = [] ∧ directory.queuesOf client = .error (.hostNotConnected client) ∨
      directory.tokens client ≠ [] ∧ ∃ addressed, directory.queuesOf client = .ok addressed ∧
        List.Forall₂ (fun token queue => directory.queueOf ⟨client, token⟩ = .ok queue)
          (directory.tokens client) addressed := by
  have ordered : List.Forall₂ _ (directory.tokens client) _ :=
    found_in_order client fun token listed => (mirrored.listed ⟨client, token⟩).mp listed
  unfold queuesOf
  cases found : directory.byHost.get? client with
  | none => exact .inl ⟨by rw [tokens, found]; rfl, rfl⟩
  | some listed =>
    have same : directory.tokens client = listed := by rw [tokens, found]; rfl
    rw [same] at ordered ⊢
    exact .inr ⟨fun bare => mirrored.inhabited client (bare ▸ found), _, rfl, ordered⟩

/-- A client counts as not connected exactly if none of its users is. Otherwise its list has a
member, and the queues of this one and all others are found. -/
theorem queues_of_nobody_iff (mirrored : directory.Mirrored) (client : String) :
    directory.queuesOf client = .error (.hostNotConnected client) ↔
      ∀ token, directory.byKey.contains ⟨client, token⟩ = false := by
  rcases queues_in_order mirrored client with ⟨bare, failed⟩ | ⟨inhabited, addressed, found, _⟩
  · refine iff_of_true failed fun token => ?_
    rw [← Bool.not_eq_true, ← mirrored.listed, bare]
    exact List.not_mem_nil
  · refine iff_of_false (fun failed => ?_) fun nobody => ?_
    · cases found.symm.trans failed
    · obtain ⟨token, member⟩ := List.exists_mem_of_ne_nil _ inhabited
      cases (nobody token).symm.trans ((mirrored.listed ⟨client, token⟩).mp member)

/-- Of a client with a connected user the queues of all its users are found, in their order. -/
theorem queues_of_somebody (mirrored : directory.Mirrored) {token : String}
    (connected : directory.byKey.contains ⟨client, token⟩ = true) :
    ∃ addressed, directory.queuesOf client = .ok addressed ∧
      List.Forall₂ (fun token queue => directory.queueOf ⟨client, token⟩ = .ok queue)
        (directory.tokens client) addressed := by
  rcases queues_in_order mirrored client with ⟨bare, _⟩ | ⟨_, addressed, found, ordered⟩
  · rw [← mirrored.listed, bare] at connected
    exact absurd connected List.not_mem_nil
  · exact ⟨addressed, found, ordered⟩

/-- Where queues are found there is at least one, since a client without users is not listed. -/
theorem queues_inhabited (mirrored : directory.Mirrored) (client : String) :
    directory.queuesOf client ≠ .ok [] := by
  intro bare
  rcases queues_in_order mirrored client with ⟨_, failed⟩ | ⟨inhabited, addressed, found, ordered⟩
  · cases failed.symm.trans bare
  · cases found.symm.trans bare
    exact inhabited (List.forall₂_nil_right_iff.mp ordered)

end UserDirectory

namespace Desk

variable {desk : Desk} {queues : QueueStore} {queue : QueueId}

/-! ## What errands do to queues -/

/-- Requests to a switchboard put messages on queues, or create one. They never take a message,
close a queue or open one again. -/
theorem serve_queues (board : Switchboard) (queues : QueueStore) (request : Request) :
    (∃ posts, (board.serve queues request).state.2 = queues.pushEach posts) ∨
      (board.serve queues request).state.2 = queues.create.2 := by
  have still : ∃ posts, queues = queues.pushEach posts := ⟨[], rfl⟩
  cases request with
  | enroll module className properties =>
    simp only [Switchboard.serve]
    cases board.registry.add module className properties <;> exact .inl still
  | place module runtime =>
    simp only [Switchboard.serve, Registry.place]
    split
    · exact .inl still
    · simp only [Switchboard.enrolled, Registry.openRuntime, Outcome.ok]
      split
      · exact .inl still
      · exact .inr rfl
  | bind | present | register | clear => exact .inl still
  | publish message =>
    simp only [Switchboard.serve, Switchboard.publish]
    split
    · exact .inl still
    · exact .inl ⟨_, Switchboard.copy_to_each_posts ..⟩

/-- All that an errand can do to the queues: put messages on them, create one, close one, or let its
holder change it. -/
theorem run_queues (desk : Desk) (queues : QueueStore) (errand : Errand) :
    (∃ posts, (desk.run queues errand).2 = queues.pushEach posts) ∨
      (desk.run queues errand).2 = queues.create.2 ∨
      (∃ other, (desk.run queues errand).2 = queues.close other) ∨
      ∃ other change, errand = .handle other change ∧
        (desk.run queues errand).2 = queues.update other change := by
  cases errand with
  | serve request =>
    rcases serve_queues desk.board queues request with posted | created
    · exact .inl posted
    · exact .inr (.inl created)
  | connect key device =>
    cases fresh : desk.users.byKey.contains key with
    | true => exact .inl ⟨[], by rw [run, UserDirectory.connect_refused fresh]; rfl⟩
    | false => exact .inr (.inl (UserDirectory.connect_accepted queues device fresh).2.1)
  | disconnect key =>
    cases connected : desk.users.byKey.contains key with
    | true =>
      obtain ⟨queue, own⟩ := UserDirectory.connected_iff.mp connected
      exact .inr (.inr (.inl ⟨queue, (UserDirectory.disconnect_accepted queues own).2.1⟩))
    | false => exact .inl ⟨[], by rw [run, UserDirectory.disconnect_refused connected]; rfl⟩
  | handle other change => exact .inr (.inr (.inr ⟨other, change, rfl, rfl⟩))
  | createQueue => exact .inr (.inl rfl)

/-- No queue is ever destroyed, so an identity that was given once is never given again. Of the four
things that an errand does to queues only one moves the next identity, and forward. -/
theorem run_next (desk : Desk) (queues : QueueStore) (errand : Errand) :
    queues.next ≤ (desk.run queues errand).2.next := by
  rcases run_queues desk queues errand with ⟨posts, same⟩ | created | ⟨other, closed⟩ |
    ⟨other, change, _, handled⟩
  · exact Nat.le_of_eq ((congrArg QueueStore.next same).trans (QueueStore.push_each_next ..)).symm
  · rw [created]
    exact Nat.le_succ _
  · rw [closed]
    exact Nat.le_refl _
  · rw [handled]
    exact Nat.le_refl _

/-- A queue that was closed stays so, unless somebody handles it. It must be a queue that was
created, since a new one is open. -/
theorem run_closed {errand : Errand} (created : queue.index < queues.next)
    (apart : ∀ change, errand ≠ .handle queue change) (shut : (queues.read queue).closed = true) :
    ((desk.run queues errand).2.read queue).closed = true := by
  rcases run_queues desk queues errand with ⟨posts, same⟩ | opened | ⟨other, closed⟩ |
    ⟨other, change, rfl, handled⟩
  · rw [same, QueueStore.read_push_each, Queue.offer, if_pos shut]
    exact shut
  · have old : queue ≠ ⟨queues.next⟩ := by
      rintro rfl
      exact Nat.lt_irrefl _ created
    have same : queues.create.2.read queue = queues.read queue :=
      (QueueStore.read_write ..).trans (if_neg old)
    rw [opened, same]
    exact shut
  · rw [closed, QueueStore.close, QueueStore.read_update]
    split
    · rfl
    · exact shut
  · have other : queue ≠ other := by
      rintro rfl
      exact apart change rfl
    rw [handled, QueueStore.read_update, if_neg other]
    exact shut

/-- The number of queues that were created only grows in the course of errands, by induction on
them. -/
theorem run_all_next (errands : List Errand) (desk : Desk) (queues : QueueStore) :
    queues.next ≤ (desk.runAll queues errands).2.next := by
  induction errands generalizing desk queues with
  | nil => exact Nat.le_refl _
  | cons errand rest inductionHypothesis =>
    exact Nat.le_trans (run_next desk queues errand) (inductionHypothesis _ _)

/-- A closed queue stays closed in the course of errands as long as nobody handles it, by induction
on them. -/
theorem run_all_closed (errands : List Errand) (created : queue.index < queues.next)
    (apart : ∀ change, .handle queue change ∉ errands)
    (shut : (queues.read queue).closed = true) :
    ((desk.runAll queues errands).2.read queue).closed = true := by
  induction errands generalizing desk queues with
  | nil => exact shut
  | cons errand rest inductionHypothesis =>
    have first : ∀ change, errand ≠ .handle queue change := by
      rintro change rfl
      exact apart change List.mem_cons_self
    refine inductionHypothesis (Nat.lt_of_lt_of_le created (run_next desk queues errand))
      (fun change later => apart change (List.mem_cons_of_mem _ later)) ?_
    exact run_closed created first shut

/-! ## The order of connection -/

section

variable (host : String) (store : QueueStore)

/-- At this place of a history a user got a connection: the errand there was to connect it, and it
did not fail after what was done before. -/
def ConnectsAt (errands : List Errand) (key : UserKey) (place : Nat) : Prop :=
  ∃ device queue, errands[place]? = some (.connect key device) ∧
    let (desk, queues) := after host store (errands.take place)
    (desk.users.connect queues key device).result = .ok queue

/-- The user got a connection there, and none later. Whether it left in between is not asked. -/
structure Latest (errands : List Errand) (key : UserKey) (place : Nat) : Prop where
  connects : ConnectsAt host store errands key place
  last : ∀ later, place < later → ¬ ConnectsAt host store errands key later

/-- The users of each client are listed in the order of their latest connections. Everybody who is
listed got in at some time, and who stands before somebody else got in earlier. -/
structure InOrder (errands : List Errand) (users : UserDirectory) : Prop where
  arrived : ∀ client, ∀ token ∈ users.tokens client,
    ∃ place, Latest host store errands ⟨client, token⟩ place
  ordered : ∀ client, (users.tokens client).Pairwise fun first second => ∀ place later,
    Latest host store errands ⟨client, first⟩ place →
      Latest host store errands ⟨client, second⟩ later → place < later

end

variable {host : String} {store : QueueStore} {errands : List Errand} {errand : Errand}
  {key : UserKey} {place : Nat}

/-- What a history of two parts leaves is what the second part leaves after the first. -/
theorem after_append (host : String) (store : QueueStore) (first second : List Errand) :
    after host store (first ++ second) =
      (after host store first).1.runAll (after host store first).2 second := run_all_append ..

/-- A connection is made at a place of the history, so a place beyond its end is none. -/
theorem connects_at_bound (connects : ConnectsAt host store errands key place) :
    place < errands.length := by
  obtain ⟨_, _, found, _⟩ := connects
  exact (List.getElem?_eq_some_iff.mp found).1

/-- What was connected at a place does not depend on what comes later. -/
theorem connects_at_earlier (early : place < errands.length) :
    ConnectsAt host store (errands ++ [errand]) key place ↔
      ConnectsAt host store errands key place := by
  unfold ConnectsAt
  rw [List.getElem?_append_left early, List.take_append_of_le_length (Nat.le_of_lt early)]

/-- The last errand is a connection if it does not fail where the others have led to. -/
theorem connects_at_last :
    ConnectsAt host store (errands ++ [errand]) key errands.length ↔
      ∃ device queue, errand = .connect key device ∧
        ((after host store errands).1.users.connect (after host store errands).2 key
          device).result = .ok queue := by
  unfold ConnectsAt
  rw [List.getElem?_append_right (Nat.le_refl _), Nat.sub_self, List.take_left]
  simp

/-- A connection of somebody else, or no connection, leaves the latest one of a user. The places
before the last errand mean the same with it and without it, and it is the only new one. -/
theorem latest_earlier
    (other : ¬ ConnectsAt host store (errands ++ [errand]) key errands.length) :
    Latest host store (errands ++ [errand]) key place ↔ Latest host store errands key place := by
  have same (at' : Nat) : ConnectsAt host store (errands ++ [errand]) key at' ↔
      ConnectsAt host store errands key at' := by
    rcases Nat.lt_trichotomy at' errands.length with early | rfl | late
    · exact connects_at_earlier early
    · exact iff_of_false other fun connects => Nat.lt_irrefl _ (connects_at_bound connects)
    · constructor
      · intro connects
        have bound := connects_at_bound connects
        rw [List.length_append, List.length_singleton] at bound
        omega
      · intro connects
        have bound := connects_at_bound connects
        omega
  constructor
  · exact fun latest => ⟨(same place).mp latest.connects, fun later after connects =>
      latest.last later after ((same later).mpr connects)⟩
  · exact fun latest => ⟨(same place).mpr latest.connects, fun later after connects =>
      latest.last later after ((same later).mp connects)⟩

/-- A user that is connected by the last errand has its latest connection there. There is no later
place, and any earlier one is not the latest any more. -/
theorem latest_last (connects : ConnectsAt host store (errands ++ [errand]) key errands.length) :
    Latest host store (errands ++ [errand]) key place ↔ place = errands.length := by
  have none (later : Nat) (after : errands.length < later) :
      ¬ ConnectsAt host store (errands ++ [errand]) key later := by
    intro again
    have bound := connects_at_bound again
    rw [List.length_append, List.length_singleton] at bound
    omega
  constructor
  · intro latest
    have bound := connects_at_bound latest.connects
    rw [List.length_append, List.length_singleton] at bound
    by_contra apart
    exact latest.last errands.length (by omega) connects
  · rintro rfl
    exact ⟨connects, none⟩

/-- Either an errand connects a user, who is put at the end of its list, or it lets nobody in and
at most takes somebody off a list. -/
theorem run_tokens (desk : Desk) (queues : QueueStore) (errand : Errand) :
    (∃ key device, errand = .connect key device ∧ desk.users.byKey.contains key = false ∧
      ∀ client, (desk.run queues errand).1.users.tokens client =
        if client = key.host then desk.users.tokens client ++ [key.userToken]
        else desk.users.tokens client) ∨
      (∀ key device queue, errand = .connect key device →
        (desk.users.connect queues key device).result ≠ .ok queue) ∧
      ∀ client, ((desk.run queues errand).1.users.tokens client).Sublist
        (desk.users.tokens client) := by
  cases errand with
  | connect key device =>
    cases fresh : desk.users.byKey.contains key with
    | true =>
      refine .inr ⟨?_, fun client => ?_⟩
      · rintro _ _ queue ⟨⟩
        rw [UserDirectory.connect_refused fresh]
        intro welcomed
        cases welcomed
      · rw [run, UserDirectory.connect_refused fresh]
        exact List.Sublist.refl _
    | false =>
      exact .inl ⟨key, device, rfl, fresh, fun client =>
        UserDirectory.connect_tokens queues key device client fresh⟩
  | disconnect key =>
    refine .inr ⟨by rintro _ _ _ ⟨⟩, fun client => ?_⟩
    cases connected : desk.users.byKey.get? key with
    | none =>
      have absent : desk.users.byKey.contains key = false := by
        rw [SortedMap.contains, connected]
        rfl
      rw [run, UserDirectory.disconnect_refused absent]
      exact List.Sublist.refl _
    | some user =>
      have tokens := UserDirectory.disconnect_tokens queues key client connected
      rw [run, tokens]
      split
      · exact List.filter_sublist
      · exact List.Sublist.refl _
  | serve | handle | createQueue =>
    exact .inr ⟨by rintro _ _ _ ⟨⟩, fun client => List.Sublist.refl _⟩

/-- Where the last errand let nobody in, an ordered list stays so, also if somebody is gone. -/
theorem in_order_left {users later : UserDirectory} (inOrder : InOrder host store errands users)
    (nobody : ∀ key, ¬ ConnectsAt host store (errands ++ [errand]) key errands.length)
    (left : ∀ client, (later.tokens client).Sublist (users.tokens client)) :
    InOrder host store (errands ++ [errand]) later where
  arrived := fun client token listed => by
    obtain ⟨place, latest⟩ := inOrder.arrived client token ((left client).subset listed)
    exact ⟨place, (latest_earlier (nobody _)).mpr latest⟩
  ordered := fun client => ((inOrder.ordered client).sublist (left client)).imp
    fun before place later one other =>
      before place later ((latest_earlier (nobody _)).mp one) ((latest_earlier (nobody _)).mp other)

/-- Whoever is let in by the last errand comes after all others, whose latest connections stay where
they were. It was not listed before, as it could not have been let in otherwise. -/
theorem in_order_joined {users later : UserDirectory} (inOrder : InOrder host store errands users)
    (connects : ConnectsAt host store (errands ++ [errand]) key errands.length)
    (others : ∀ other, other ≠ key →
      ¬ ConnectsAt host store (errands ++ [errand]) other errands.length)
    (fresh : key.userToken ∉ users.tokens key.host)
    (joined : ∀ client, later.tokens client =
      if client = key.host then users.tokens client ++ [key.userToken] else users.tokens client) :
    InOrder host store (errands ++ [errand]) later := by
  have apart {client token : String} (listed : token ∈ users.tokens client) :
      (⟨client, token⟩ : UserKey) ≠ key := by
    rintro rfl
    exact fresh listed
  have earlier (client : String) : (users.tokens client).Pairwise fun first second =>
      ∀ place later, Latest host store (errands ++ [errand]) ⟨client, first⟩ place →
        Latest host store (errands ++ [errand]) ⟨client, second⟩ later → place < later :=
    (inOrder.ordered client).imp_of_mem fun one other before place later first second =>
      before place later ((latest_earlier (others _ (apart one))).mp first)
        ((latest_earlier (others _ (apart other))).mp second)
  constructor
  · intro client token listed
    by_cases same : (⟨client, token⟩ : UserKey) = key
    · exact ⟨errands.length, same ▸ (latest_last connects).mpr rfl⟩
    · have before : token ∈ users.tokens client := by
        rw [joined] at listed
        split at listed
        · rename_i own
          rcases List.mem_append.mp listed with before | last
          · exact before
          · rw [List.mem_singleton] at last
            subst own last
            exact absurd rfl same
        · exact listed
      obtain ⟨place, latest⟩ := inOrder.arrived client token before
      exact ⟨place, (latest_earlier (others _ same)).mpr latest⟩
  · intro client
    rw [joined]
    split
    · rename_i own
      subst own
      refine List.pairwise_append.mpr ⟨earlier _, List.pairwise_singleton _ _, ?_⟩
      intro first member second last place later one other
      rw [List.mem_singleton] at last
      subst last
      -- The newcomer's place is the last one, and everybody else's an earlier one.
      rw [(latest_last connects).mp other]
      exact connects_at_bound ((latest_earlier (others _ (apart member))).mp one).connects
    · exact earlier client

/-- The lists of users are in the order of connection after any errands. The induction goes from the
last errand back. This one has let a user in, who then stands at the end of a list, or it has let
nobody in, and then nothing has come into any list. -/
theorem after_in_order (host : String) (store : QueueStore) (errands : List Errand) :
    InOrder host store errands (after host store errands).1.users := by
  induction errands using List.reverseRecOn with
  | nil => exact ⟨fun _ _ => nofun, fun _ => List.Pairwise.nil⟩
  | append_singleton errands errand inductionHypothesis =>
    have mirrored := after_mirrored host store errands
    rw [after_append]
    rcases run_tokens (after host store errands).1 (after host store errands).2 errand with
      ⟨key, device, rfl, fresh, joined⟩ | ⟨nobody, left⟩
    · refine in_order_joined inductionHypothesis ?_ ?_ ?_ joined
      · exact connects_at_last.mpr ⟨device, _, rfl, (UserDirectory.connect_accepted _ _ fresh).1⟩
      · rintro other apart connects
        obtain ⟨_, _, same, _⟩ := connects_at_last.mp connects
        exact apart (Errand.connect.inj same).1.symm
      · rw [mirrored.listed, fresh]
        exact Bool.false_ne_true
    · refine in_order_left inductionHypothesis ?_ left
      intro key connects
      obtain ⟨device, queue, same, result⟩ := connects_at_last.mp connects
      exact nobody key device queue same result

/-! ## Everybody who comes and goes -/

/-- No queue has two owners, so users that differ have queues that differ. -/
theorem queues_distinct {client : String} {listed : List String} {addressed : List QueueId}
    (owned : desk.Owned queues) (once : listed.Nodup)
    (ordered : List.Forall₂ (fun token queue => desk.users.queueOf ⟨client, token⟩ = .ok queue)
      listed addressed) : addressed.Nodup := by
  refine (List.rel_nodup ⟨?_, ?_⟩ ordered).mp once
  · intro first queue second one other
    cases owned.sole (user_owns one) (user_owns other)
    rfl
  · intro token first second one other
    exact Except.ok.inj (one.symm.trans other)

section

variable (host : String) (store : QueueStore)

/-- A user who is connected after these errands gets this queue, which nobody had before. -/
structure Welcomed (errands : List Errand) (key : UserKey) (device : String)
    (queue : QueueId) : Prop where
  result : let (desk, queues) := after host store errands
    (desk.users.connect queues key device).result = .ok queue
  free : queue.index = (after host store errands).2.next
  reached : (after host store (errands ++ [.connect key device])).1.users.queueOf key = .ok queue
  bare : (after host store (errands ++ [.connect key device])).2.read queue = .empty
  behind : (after host store (errands ++ [.connect key device])).1.users.tokens key.host =
    (after host store errands).1.users.tokens key.host ++ [key.userToken]
  unheard : ∀ earlier, earlier <+: errands → ∀ owner,
    (after host store earlier).1.queueOf? owner ≠ some queue

/-- A user who is disconnected after these errands is gone, and whatever comes next, its queue is
closed until somebody handles it. -/
structure Dismissed (errands : List Errand) (key : UserKey) (queue : QueueId) : Prop where
  result : let (desk, queues) := after host store errands
    (desk.users.disconnect queues key).result = .ok ()
  gone : (after host store (errands ++ [.disconnect key])).1.users.byKey.contains key = false
  shut : ∀ later, (∀ change, .handle queue change ∉ later) →
    ((after host store (errands ++ .disconnect key :: later)).2.read queue).closed = true

/-- The two lists of users agree and are in order, those who cannot come or go change nothing, and
the queues of a client are those of its users. -/
structure Connections (errands : List Errand) (desk : Desk) (queues : QueueStore) : Prop where
  mirrored : desk.users.Mirrored
  inOrder : InOrder host store errands desk.users
  welcomed : ∀ key device, desk.users.byKey.contains key = false →
    ∃ queue, Welcomed host store errands key device queue
  dismissed : ∀ key queue, desk.users.queueOf key = .ok queue →
    Dismissed host store errands key queue
  present : ∀ key device, desk.users.byKey.contains key = true →
    desk.users.connect queues key device =
      .fail (desk.users, queues) (.userAlreadyConnected key.host key.userToken)
  absent : ∀ key, desk.users.byKey.contains key = false →
    desk.users.disconnect queues key =
      .fail (desk.users, queues) (.userNotConnected key.host key.userToken)
  nobody : ∀ client, desk.users.queuesOf client = .error (.hostNotConnected client) ↔
    ∀ token, desk.users.byKey.contains ⟨client, token⟩ = false
  somebody : ∀ client token, desk.users.byKey.contains ⟨client, token⟩ = true →
    ∃ addressed, desk.users.queuesOf client = .ok addressed ∧ addressed.Nodup ∧
      List.Forall₂ (fun token queue => desk.users.queueOf ⟨client, token⟩ = .ok queue)
        (desk.users.tokens client) addressed
  -- The case of a strategy in which a next hop is listed, but has no queue.
  inhabited : ∀ uses hop,
    (Exchange.after host store errands uses).desk.users.queuesOf hop ≠ .ok []

end

/-- A user that is let in gets a queue with a new identity. -/
theorem connect_welcomed (device : String)
    (fresh : (after host store errands).1.users.byKey.contains key = false) :
    ∃ queue, Welcomed host store errands key device queue := by
  obtain ⟨result, created, reached⟩ :=
    UserDirectory.connect_accepted (after host store errands).2 device fresh
  have tokens := UserDirectory.connect_tokens (after host store errands).2 key device key.host fresh
  refine ⟨_, result, rfl, ?_, ?_, ?_, ?_⟩
  · rw [after_append]
    exact reached
  · rw [after_append]
    refine (congrArg (QueueStore.read · _) created).trans ?_
    exact (QueueStore.read_write ..).trans (if_pos rfl)
  · rw [after_append]
    exact tokens.trans (if_pos rfl)
  · rintro earlier ⟨rest, rfl⟩ owner found
    have old := (after_owned host store earlier).created found
    have more := run_all_next rest (after host store earlier).1 (after host store earlier).2
    rw [← after_append] at more
    exact Nat.lt_irrefl _ (Nat.lt_of_lt_of_le old more)

/-- A user that leaves leaves a closed queue behind, which stays closed until somebody who still
holds it opens it. -/
theorem disconnect_dismissed
    (own : (after host store errands).1.users.queueOf key = .ok queue) :
    Dismissed host store errands key queue := by
  obtain ⟨result, closed, gone⟩ :=
    UserDirectory.disconnect_accepted (after host store errands).2 own
  refine ⟨result, ?_, fun later apart => ?_⟩
  · rw [after_append]
    exact gone
  · have created := (after_owned host store errands).created (user_owns own)
    have more := run_next (after host store errands).1 (after host store errands).2
      (.disconnect key)
    rw [after_append]
    refine run_all_closed later (Nat.lt_of_lt_of_le created more) apart ?_
    refine (congrArg (fun queues : QueueStore => (queues.read queue).closed) closed).trans ?_
    simp [QueueStore.close, Queue.close]

/-- Whoever came and went at a desk, and with whatever success, each client's users are listed in
the order of their latest connections, and its queues are theirs in this order.

Proof: `after_in_order` and `after_mirrored` are inductions on the errands, one for the order of the
lists and one for the match between the two maps of the directory. An errand lets one user in, at
the end of a list, or lets nobody in, and then lists can only lose members. What becomes of a queue
is followed errand by errand as well. Nothing is assumed about the errands, so they include
connections that are refused and queues handled by others. -/
theorem users_listed_in_order (host : String) (store : QueueStore) (errands : List Errand) :
    Connections host store errands (after host store errands).1 (after host store errands).2 := by
  have mirrored := after_mirrored host store errands
  refine
    { mirrored
      inOrder := after_in_order host store errands
      welcomed := fun key device => connect_welcomed device
      dismissed := fun key queue => disconnect_dismissed
      present := fun key device => UserDirectory.connect_refused
      absent := fun key => UserDirectory.disconnect_refused
      nobody := UserDirectory.queues_of_nobody_iff mirrored
      somebody := ?somebody
      inhabited := fun uses => UserDirectory.queues_inhabited mirrored }
  case somebody =>
    intro client token connected
    obtain ⟨addressed, found, ordered⟩ := UserDirectory.queues_of_somebody mirrored connected
    exact ⟨addressed, found,
      queues_distinct (after_owned host store errands) (mirrored.once client) ordered, ordered⟩

end Desk

end RelayTree
