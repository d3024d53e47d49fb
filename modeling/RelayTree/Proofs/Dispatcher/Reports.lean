import RelayTree.Proofs.Dispatcher.Aside
import RelayTree.Proofs.Dispatcher.Reachability

/-!
# What a report says

A strategy reports a message as forwarded or as dropped, or it refuses it. Dropped and refused
messages are on no queue. A forwarded message, or a copy of it for a module, is on an outlet of
the host, with two exceptions: the strategies that make several copies do not look at how many
were taken. A publication none of whose subscribers has an open runtime, and a message for a
client all of whose queues are closed, are reported as forwarded, and nothing has happened.
-/

namespace RelayTree

/-- The message itself, or its copy for a subscriber. This is what may be found of it on a queue of
the host. -/
def Message.Renders (message copy : Message) : Prop :=
  copy = message ∨ ∃ subscriber, copy = Switchboard.copyFor subscriber message

/-- A queue has got copies of a message, at least one, before or behind what it had. -/
def Queue.Gains (message : Message) (before after : Queue Message) : Prop :=
  ∃ ahead behind, ahead ++ behind ≠ [] ∧ (∀ copy ∈ ahead ++ behind, message.Renders copy) ∧
    after.items = ahead ++ before.items ++ behind

/-- A queue that is as it was has got nothing, so a report cannot be true by a copy that was there
before. -/
theorem Queue.not_gains_self (message : Message) (queue : Queue Message) :
    ¬ Queue.Gains message queue queue := by
  rintro ⟨ahead, behind, some, _, items⟩
  have lengths := congrArg List.length items
  simp only [List.length_append] at lengths
  refine some (List.append_eq_nil_iff.mpr ⟨?_, ?_⟩) <;> exact List.length_eq_zero_iff.mp (by omega)

namespace QueueStore

variable {before middle after store : QueueStore} {message copy : Message} {queue : QueueId}

/-- Queues have got copies of a message behind what they had, or are as they were. -/
def Adds (message : Message) (before after : QueueStore) : Prop :=
  ∀ id, ∃ copies, (∀ copy ∈ copies, message.Renders copy) ∧
    (after.read id).items = (before.read id).items ++ copies

/-- Where nothing was put on a queue, only what was there is there. -/
theorem adds_refl (message : Message) (store : QueueStore) : Adds message store store :=
  fun _ => ⟨[], by simp⟩

/-- What is put on queues in two stretches is put behind, or before, what was there in the
beginning. -/
theorem adds_trans (first : Adds message before middle) (second : Adds message middle after) :
    Adds message before after := by
  intro id
  obtain ⟨earlier, rendered, items⟩ := first id
  obtain ⟨later, also, more⟩ := second id
  refine ⟨earlier ++ later, fun copy listed => ?_, by rw [more, items, List.append_assoc]⟩
  exact (List.mem_append.mp listed).elim (rendered copy) (also copy)

/-- One copy is put behind everything else on its queue, and other queues stay as they are. -/
theorem append_adds (rendered : message.Renders copy) :
    Adds message store (store.append queue copy) := by
  intro id
  rw [append_items]
  split
  · rename_i same
    exact ⟨[copy], by simpa using rendered, by rw [same]⟩
  · exact ⟨[], by simp⟩

/-- The queue that a copy is put on gains it. -/
theorem append_gains (rendered : message.Renders copy) :
    Queue.Gains message (store.read queue) ((store.append queue copy).read queue) :=
  ⟨[], [copy], by simp, by simpa using rendered, by rw [append_items, if_pos rfl]; rfl⟩

/-- A queue that has got a copy keeps it when further copies are put behind. -/
theorem gains_later {start : Queue Message} (gained : Queue.Gains message start (before.read queue))
    (adds : Adds message before after) : Queue.Gains message start (after.read queue) := by
  obtain ⟨ahead, behind, some, rendered, items⟩ := gained
  obtain ⟨later, also, more⟩ := adds queue
  refine ⟨ahead, behind ++ later, ?_, fun copy listed => ?_, ?_⟩
  · rw [← List.append_assoc]
    exact List.append_ne_nil_of_left_ne_nil some later
  · rw [← List.append_assoc] at listed
    exact (List.mem_append.mp listed).elim (rendered copy) (also copy)
  · rw [more, items, List.append_assoc]

/-! ## Several copies -/

/-- Put copies on queues, one after the other; closed queues take none, and the others take theirs
nevertheless. -/
def pushEach : List (QueueId × Message) → QueueStore → QueueStore
  | [], store => store
  | (queue, copy) :: rest, store => pushEach rest ((store.pushBack? queue copy).getD store)

/-- Where all queues are closed nothing happens, and otherwise some queue gets a copy. -/
theorem push_each_gains (posts : List (QueueId × Message)) (store : QueueStore)
    (rendered : ∀ post ∈ posts, message.Renders post.2) :
    Adds message store (store.pushEach posts) ∧
      ((∀ post ∈ posts, (store.read post.1).closed = true) → store.pushEach posts = store) ∧
      ((∃ post ∈ posts, (store.read post.1).closed = false) →
        ∃ post ∈ posts,
          Queue.Gains message (store.read post.1) ((store.pushEach posts).read post.1)) := by
  induction posts generalizing store with
  | nil => exact ⟨adds_refl message store, fun _ => rfl, by simp⟩
  | cons post rest inductionHypothesis =>
    obtain ⟨queue, copy⟩ := post
    have first : message.Renders copy := rendered _ List.mem_cons_self
    have others := fun post listed => rendered post (List.mem_cons_of_mem _ listed)
    cases shut : (store.read queue).closed with
    | true =>
      obtain ⟨adds, idle, gains⟩ := inductionHypothesis store others
      rw [pushEach, push_back_closed shut, Option.getD_none]
      refine ⟨adds, fun all => idle fun post listed => all post (List.mem_cons_of_mem _ listed),
        fun some => ?_⟩
      obtain ⟨post, listed, opened⟩ := some
      rcases List.mem_cons.mp listed with rfl | later
      · cases shut.symm.trans opened
      · obtain ⟨gaining, member, gained⟩ := gains ⟨post, later, opened⟩
        exact ⟨gaining, List.mem_cons_of_mem _ member, gained⟩
    | false =>
      obtain ⟨adds, _, _⟩ := inductionHypothesis (store.append queue copy) others
      rw [pushEach, push_open shut, Option.getD_some]
      refine ⟨adds_trans (append_adds first) adds, fun all => ?_, fun _ => ?_⟩
      · cases shut.symm.trans (all _ List.mem_cons_self)
      · exact ⟨_, List.mem_cons_self, gains_later (append_gains first) adds⟩

end QueueStore

/-- The copies of a message that are to be made for subscribers, each with the queue of the
subscriber's runtime. -/
def Registry.posts (registry : Registry) (message : Message) (subscribers : List Endpoint) :
    List (QueueId × Message) :=
  subscribers.filterMap fun subscriber =>
    (registry.outputQueue? subscriber.module).map (·, Switchboard.copyFor subscriber message)

/-- What is done with the copies for subscribers is to post them. The walk counts and logs as well,
but that is no part of the queues. -/
theorem Switchboard.copy_to_each_posts (registry : Registry) (connection : String)
    (message : Message) (subscribers : List Endpoint) (queues : QueueStore) :
    (copyToEach registry connection message subscribers queues).state =
      queues.pushEach (registry.posts message subscribers) := by
  induction subscribers generalizing queues with
  | nil => rfl
  | cons subscriber rest inductionHypothesis =>
    rw [copyToEach, Registry.posts, List.filterMap_cons]
    cases runs : registry.outputQueue? subscriber.module with
    | none => exact inductionHypothesis queues
    | some queue =>
      dsimp only [Option.map_some, QueueStore.pushEach]
      split
      · rename_i refused
        rw [refused, Option.getD_none]
        exact inductionHypothesis queues
      · rename_i taken accepted
        rw [accepted, Option.getD_some]
        exact inductionHypothesis taken

/-- What is done with the copies for users is to post the message to each of their queues. -/
theorem Exchange.copy_to_users_posts (message : Message) (addressed : List QueueId)
    (queues : QueueStore) :
    (copyToUsers message addressed queues).1 = queues.pushEach (addressed.map (·, message)) := by
  induction addressed generalizing queues with
  | nil => rfl
  | cons queue rest inductionHypothesis =>
    rw [copyToUsers, List.map_cons, QueueStore.pushEach]
    split
    · rename_i taken accepted
      rw [accepted, Option.getD_some]
      exact inductionHypothesis taken
    · rename_i refused
      rw [refused, Option.getD_none]
      exact inductionHypothesis queues

/-! ## The strategies -/

/-- What is reported is true, but for messages passed on in vain. These are told by a condition of
their own, so that the report is exact. -/
structure Reported (outlets : List QueueId) (message : Message) (before after : QueueStore)
    (vain : Prop) (result : Except Failure Delivery) : Prop where
  forwarded : result = .ok .forwarded → ¬ vain →
    ∃ outlet ∈ outlets, Queue.Gains message (before.read outlet) (after.read outlet)
  vain : vain → result = .ok .forwarded ∧ after = before
  otherwise : result ≠ .ok .forwarded → after = before

namespace Exchange

/-- A message is passed on in vain: a publication for which all runtimes are closed, or a message
for a client all of whose queues are. -/
inductive Vain (exchange : Exchange) (message : Message) : Strategy → Prop where
  | unheard {name : String} {subscribers : List Endpoint} {channels : Channels}
    (data : message.isControl = false) (everybody : message.target.module = "")
    (accepted : exchange.desk.board.channels.accept message = .ok (name, subscribers, channels))
    (shut : ∀ post ∈ exchange.desk.board.registry.posts message subscribers,
      (exchange.queues.read post.1).closed = true) :
    Vain exchange message .onHost
  | unattended {client : String} {addressed : List QueueId}
    (below : (exchange.resolveDown message.target.host).1 = some [client])
    (users : exchange.addressedQueues message = .ok addressed)
    (shut : ∀ queue ∈ addressed, (exchange.queues.read queue).closed = true) :
    Vain exchange message .downward

/-- What an outcome of a strategy reports is true, of the queues before and after it. Which outlets
there are is a matter of the desk, and that is the one before. -/
def Reports (exchange : Exchange) (message : Message) (vain : Prop)
    (outcome : Outcome Exchange Delivery) : Prop :=
  Reported exchange.desk.outlets message exchange.queues outcome.state.queues vain outcome.result

variable {exchange : Exchange} {message : Message} {queue : QueueId} {vain : Prop}

/-- A message that is not forwarded and leaves all queues alone, and not in vain. -/
theorem idle_reports {outcome : Outcome Exchange Delivery} (useful : ¬ vain)
    (result : outcome.result ≠ .ok .forwarded) (same : outcome.state.queues = exchange.queues) :
    exchange.Reports message vain outcome :=
  ⟨fun forwarded => absurd forwarded result, fun void => absurd void useful, fun _ => same⟩

/-- A message that is dropped is on no queue, and the queues are as they were. -/
theorem dropped_reports {outcome : Outcome Exchange Delivery} (useful : ¬ vain)
    (dropped : outcome.result = .ok .dropped) (same : outcome.state.queues = exchange.queues) :
    exchange.Reports message vain outcome :=
  idle_reports useful (by rw [dropped]; simp) same

/-- A message that is refused is on no queue either, and whoever sent it has been told. -/
theorem refused_reports {outcome : Outcome Exchange Delivery} {failure : Failure} (useful : ¬ vain)
    (refused : outcome.result = .error failure) (same : outcome.state.queues = exchange.queues) :
    exchange.Reports message vain outcome :=
  idle_reports useful (by rw [refused]; simp) same

/-- An outlet that takes a message has it then. A closed one takes none, and that is not reported as
forwarded. -/
theorem queued_reports (strategy : Strategy) (closed : Event)
    (listed : queue ∈ exchange.desk.outlets) (useful : ¬ vain) :
    exchange.Reports message vain
      (exchange.queued strategy (exchange.queues.pushBack? queue message) closed) := by
  cases shut : (exchange.queues.read queue).closed with
  | true =>
    rw [QueueStore.push_back_closed shut]
    exact dropped_reports useful rfl rfl
  | false =>
    rw [QueueStore.push_open shut]
    refine ⟨fun _ _ => ⟨queue, listed, ?_⟩, fun void => absurd void useful, fun other => ?_⟩
    · exact QueueStore.append_gains (.inl rfl)
    · exact absurd rfl other

/-- Administrative messages get to the front of the control queue, unless it is closed. Then they
are reported as dropped, and in neither case can the report be wrong. -/
theorem control_reports (useful : ¬ vain) :
    exchange.Reports message vain (exchange.deliverControl message) := by
  cases shut : (exchange.queues.read exchange.desk.board.control).closed with
  | true =>
    rw [deliverControl, QueueStore.push_front_closed shut]
    exact dropped_reports useful rfl rfl
  | false =>
    rw [deliverControl, QueueStore.push_front_open shut]
    refine ⟨fun _ _ => ⟨_, List.mem_cons_self, ?_⟩, fun void => absurd void useful, fun other => ?_⟩
    · refine ⟨[message], [], by simp, by simp [Message.Renders], ?_⟩
      rw [List.append_nil]
      exact congrArg Queue.items ((QueueStore.read_update ..).trans (if_pos rfl))
    · exact absurd rfl other

/-- A module's message gets to its runtime, or is refused where the module is not known to run
anywhere. -/
theorem module_reports (useful : ¬ vain) :
    exchange.Reports message vain (exchange.deliverToModule message) := by
  unfold deliverToModule
  split
  · exact refused_reports useful rfl rfl
  · rename_i queue runs
    have listed : queue ∈ exchange.desk.outlets := by
      have runtime := Registry.output_queue_listed runs
      simp [Desk.outlets, runtime]
    exact queued_reports .onHost (.runtimeQueueClosed message) listed useful

/-- Copies for several queues are made in vain if all of them are closed. One open queue is enough
for the report to be true, since it is about some outlet and not about all. -/
theorem fanned_reports {outcome : Outcome Exchange Delivery} (posts : List (QueueId × Message))
    (result : outcome.result = .ok .forwarded)
    (made : outcome.state.queues = exchange.queues.pushEach posts)
    (rendered : ∀ post ∈ posts, message.Renders post.2)
    (listed : ∀ post ∈ posts, post.1 ∈ exchange.desk.outlets)
    (void : vain ↔ ∀ post ∈ posts, (exchange.queues.read post.1).closed = true) :
    exchange.Reports message vain outcome := by
  obtain ⟨_, idle, gains⟩ := QueueStore.push_each_gains posts exchange.queues rendered
  rw [← made] at idle gains
  refine ⟨fun _ useful => ?_, fun shut => ⟨result, idle (void.mp shut)⟩, absurd result⟩
  have opened : ∃ post ∈ posts, (exchange.queues.read post.1).closed = false := by
    by_contra none
    refine useful (void.mpr fun post member => ?_)
    rw [← Bool.not_eq_false]
    exact fun opened => none ⟨post, member, opened⟩
  obtain ⟨post, member, gained⟩ := gains opened
  exact ⟨post.1, listed post member, gained⟩

/-- A publication gets to the runtimes of its subscribers. It is passed on in vain if there is none
among them whose queue is open. -/
theorem publication_reports (data : message.isControl = false)
    (everybody : message.target.module = "") :
    exchange.Reports message (exchange.Vain message .onHost)
      (exchange.deliverPublication message) := by
  cases accepted : exchange.desk.board.channels.accept message with
  | error failure =>
    have refused : exchange.desk.board.publish exchange.queues message =
        .fail (exchange.desk.board, exchange.queues) failure := by
      simp only [Switchboard.publish, accepted]
    rw [deliverPublication, refused]
    refine refused_reports (fun vain => ?_) rfl rfl
    cases vain with
    | unheard _ _ taken => cases accepted.symm.trans taken
  | ok found =>
    obtain ⟨name, subscribers, channels⟩ := found
    obtain ⟨copies, counted⟩ := Switchboard.copies_counted exchange.desk.board.registry name
      message subscribers exchange.queues
    have made := Switchboard.copy_to_each_posts exchange.desk.board.registry name message
      subscribers exchange.queues
    refine fanned_reports (exchange.desk.board.registry.posts message subscribers) ?_ ?_ ?_ ?_ ?_
    · simp only [deliverPublication, Switchboard.publish, accepted, Outcome.within, counted]
      rfl
    · simp only [deliverPublication, Switchboard.publish, accepted, Outcome.within, counted]
      exact made
    · intro post member
      obtain ⟨subscriber, _, chosen⟩ := List.mem_filterMap.mp member
      obtain ⟨queue, _, rfl⟩ := Option.map_eq_some_iff.mp chosen
      exact .inr ⟨subscriber, rfl⟩
    · intro post member
      obtain ⟨subscriber, _, chosen⟩ := List.mem_filterMap.mp member
      obtain ⟨queue, runs, rfl⟩ := Option.map_eq_some_iff.mp chosen
      have runtime := Registry.output_queue_listed runs
      simp [Desk.outlets, runtime]
    · constructor
      · intro vain
        cases vain with
        | unheard _ _ taken shut =>
          cases accepted.symm.trans taken
          exact shut
      · exact .unheard data everybody accepted

/-- A message for the host gets to its modules, by cases on the three kinds of such messages. -/
theorem here_reports (exchange : Exchange) (message : Message) :
    exchange.Reports message (exchange.Vain message .onHost) (exchange.deliverOnHost message) := by
  rw [deliverOnHost]
  cases data : message.isControl with
  | true =>
    refine control_reports fun vain => ?_
    cases vain with
    | unheard other => cases data.symm.trans other
  | false =>
    rw [if_neg Bool.false_ne_true]
    split
    · rename_i empty
      exact publication_reports data (String.isEmpty_iff.mp empty)
    · rename_i addressed
      refine module_reports fun vain => ?_
      cases vain with
      | unheard _ everybody => exact addressed (String.isEmpty_iff.mpr everybody)

/-- A message for hosts above gets to the server, by the queue of the link. -/
theorem up_reports (exchange : Exchange) (message : Message) :
    exchange.Reports message (exchange.Vain message .upward) (exchange.sendUpward message) := by
  have useful : ¬ exchange.Vain message .upward := by
    intro vain
    cases vain
  rw [sendUpward]
  split
  · have listed : exchange.desk.uplink.toServer ∈ exchange.desk.outlets := by simp [Desk.outlets]
    exact queued_reports .upward (.uplinkClosed message) listed useful
  · exact refused_reports useful rfl rfl

/-- A message for a client gets to its users. It is passed on in vain if all of their queues are
closed. -/
theorem to_users_reports (vain_iff : vain ↔ ∃ addressed, exchange.addressedQueues message =
      .ok addressed ∧ ∀ queue ∈ addressed, (exchange.queues.read queue).closed = true) :
    exchange.Reports message vain (exchange.sendToUsers message) := by
  unfold sendToUsers
  split
  · rename_i refused
    refine dropped_reports (fun void => ?_) rfl rfl
    obtain ⟨addressed, users, _⟩ := vain_iff.mp void
    cases refused.symm.trans users
  · rename_i addressed users
    refine fanned_reports (addressed.map (·, message)) rfl
      (copy_to_users_posts message addressed exchange.queues) ?_ ?_ ?_
    · simp [Message.Renders]
    · intro post member
      obtain ⟨queue, chosen, rfl⟩ := List.mem_map.mp member
      exact addressed_listed users chosen
    · simp only [vain_iff, users, Except.ok.injEq, exists_eq_left', List.forall_mem_map]

/-- A message for a host further down gets to the next one, of which there must be exactly one
user. -/
theorem via_reports (hop : String) (useful : ¬ vain) :
    exchange.Reports message vain (exchange.sendVia message hop) := by
  unfold sendVia
  split
  · exact dropped_reports useful rfl rfl
  · exact dropped_reports useful rfl rfl
  · rename_i queue connected
    have user := UserDirectory.queues_of_listed connected (List.mem_singleton.mpr rfl)
    have listed : queue ∈ exchange.desk.outlets := by simp [Desk.outlets, user]
    exact queued_reports .downward (.hopQueueClosed message hop) listed useful
  · exact refused_reports useful rfl rfl

/-- A message for hosts below gets to a client, to its own users or as the next hop. Only in the
first case it can be passed on in vain. -/
theorem down_reports (exchange : Exchange) (message : Message) :
    exchange.Reports message (exchange.Vain message .downward) (exchange.sendDownward message) := by
  obtain ⟨path, book, looked⟩ : ∃ path book, exchange.resolveDown message.target.host =
      (path, { exchange with book := book }) := ⟨_, _, rfl⟩
  -- Away from a client of its own a host passes nothing on in vain.
  have useful (far : ∀ client, path ≠ some [client]) : ¬ exchange.Vain message .downward := by
    intro vain
    cases vain with
    | unattended below => exact far _ (by rw [← below, looked])
  -- The look-up changed nothing but the book.
  have transfer (outcome : Outcome Exchange Delivery)
      (reports : Reports { exchange with book := book } message (exchange.Vain message .downward)
        outcome) : exchange.Reports message (exchange.Vain message .downward) outcome := reports
  rw [sendDownward, looked]
  apply transfer
  cases path with
  | none => exact refused_reports (useful (by simp)) rfl rfl
  | some path =>
    cases path with
    | nil => exact refused_reports (useful (by simp)) rfl rfl
    | cons hop rest =>
      cases rest with
      | cons second rest => exact via_reports hop (useful (by simp))
      | nil =>
        refine to_users_reports ⟨fun vain => ?_, fun shut => ?_⟩
        · cases vain with
          | unattended _ users shut => exact ⟨_, users, shut⟩
        · obtain ⟨addressed, users, shut⟩ := shut
          exact .unattended (by rw [looked]) users shut

/-- Whatever a strategy reports is true, apart from the messages that are passed on in vain. -/
theorem route_reports (exchange : Exchange) (strategy : Strategy) (message : Message) :
    exchange.Reports message (exchange.Vain message strategy) (exchange.route strategy message) := by
  cases strategy with
  | onHost => exact here_reports exchange message
  | upward => exact up_reports exchange message
  | downward => exact down_reports exchange message

end Exchange

namespace Station

/-- Whatever a strategy or the dispatcher reports of a message is true: a forwarded message has
come to an outlet of the host, and any other one to none. The exceptions are messages that were
passed on in vain; they are reported as forwarded.

Proof: there is one lemma for each strategy, which follows the cases of that strategy, and
`route_reports` puts them together. The dispatcher reports what the strategy that it picked reports.
If it picks none it refuses the message, and nothing is on a queue. Neither the desk nor the book
has to come from a run, and queues may be shared in any way. -/
theorem forwarded_queued_unless_vain (station : Station) (message : Message) :
    (∀ strategy, Reported station.desk.outlets message station.queues
      (station.exchange.route strategy message).state.queues
      (station.exchange.Vain message strategy)
      (station.exchange.route strategy message).result) ∧
    Reported station.desk.outlets message station.queues (station.route message).state.queues
      (∃ strategy, station.dispatcher.select message = .ok strategy ∧
        station.exchange.Vain message strategy)
      (station.route message).result := by
  refine ⟨fun strategy => Exchange.route_reports station.exchange strategy message, ?_⟩
  cases selected : station.dispatcher.select message with
  | error failure =>
    have refused : station.route message =
        .fail (station.count (tally (.error failure))) failure := by
      simp only [route, selected]
    rw [refused]
    refine ⟨fun forwarded _ => ?_, fun vain => ?_, fun _ => rfl⟩
    · cases forwarded
    · obtain ⟨_, chosen, _⟩ := vain
      cases chosen
  | ok strategy =>
    have reported := Exchange.route_reports station.exchange strategy message
    have vain : (∃ other, (Except.ok strategy : Except Failure Strategy) = .ok other ∧
        station.exchange.Vain message other) ↔ station.exchange.Vain message strategy := by simp
    simp only [vain, route, selected]
    exact reported

/-- The calls after which a server knows its hosts and has a client whose queue is closed. -/
def deserted : List Call :=
  let build : Call := .build ⟨RoutingTree.quartet, by decide⟩
  let station := after "Server2" [build]
  let connected := station.desk.users.connect station.queues ⟨"Client2", ""⟩ "device"
  [build, .elsewhere station.desk.board connected.state.1 (connected.state.2.close ⟨6⟩)]

/-- A message for this client, and for all of its users. -/
def letter : Message := ⟨"m", "", ⟨"", ""⟩, ⟨"Client2", ""⟩, "", 0, .data .empty⟩

/-- It is reported as forwarded, and it is on no queue: a report of a forwarded message does not say
that anybody has it. -/
theorem closed_client_forwarded :
    ¬ ∀ (host : String) (calls : List Call) (message : Message),
      ((after host calls).route message).result = .ok .forwarded →
      ∃ outlet ∈ (after host calls).desk.outlets,
        Queue.Gains message ((after host calls).queues.read outlet)
          (((after host calls).route message).state.queues.read outlet) := by
  intro queued
  have forwarded : ((after "Server2" deserted).route letter).result = .ok .forwarded := by rfl
  have idle : ((after "Server2" deserted).route letter).state.queues =
      (after "Server2" deserted).queues := by rfl
  obtain ⟨outlet, _, gained⟩ := queued "Server2" deserted letter forwarded
  rw [idle] at gained
  exact Queue.not_gains_self _ _ gained

end Station

end RelayTree
