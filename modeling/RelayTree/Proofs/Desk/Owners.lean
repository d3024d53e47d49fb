import RelayTree.Desk.Errands
import RelayTree.Proofs.Dispatcher.Posts

/-!
# Who owns a queue

Each queue at a desk was created for one purpose: for a runtime, for a connected user, or as one
of the five that the desk has from the beginning. Whoever gets a queue gets one that nobody had,
and none is handed on. `Owned` says that therefore no two owners have the same queue. It holds
whatever is done at a desk, since an errand either opens a queue for one newcomer or leaves
every queue with its owner, or without one.
-/

namespace RelayTree

/-- What a queue at a desk can be for. Five are there from the beginning, one for each runtime comes
with its first module, and one for each user with a connection. -/
inductive Owner where
  | fromModules
  | control
  | fromClients
  | fromServer
  | toServer
  | runtime (name : String)
  | user (key : UserKey)
deriving DecidableEq

namespace Owner

/-- The place of an owner among those that every desk has, in the order in which their queues are
created. Runtimes and users have no place of this kind. -/
def seat? : Owner → Option Nat
  | .fromModules => some 0
  | .control => some 1
  | .fromClients => some 2
  | .fromServer => some 3
  | .toServer => some 4
  | .runtime _ => none
  | .user _ => none

variable {first second owner : Owner} {seat : Nat}

/-- There are five such places, so the first queue that a newcomer gets is beyond them. -/
theorem seat_lt (seated : owner.seat? = some seat) : seat < 5 := by
  cases owner <;> simp only [seat?, Option.some.injEq, reduceCtorEq] at seated <;> omega

/-- No two owners have the same place, which makes the five queues of a new desk five different
ones. -/
theorem seat_injective (one : first.seat? = some seat) (other : second.seat? = some seat) :
    first = second := by
  cases first <;> cases second <;> cases one <;> first | rfl | cases other

end Owner

namespace Desk

/-- The queue of an owner, wherever the desk keeps it. A runtime or a user that is not there has
none. -/
def queueOf? (desk : Desk) : Owner → Option QueueId
  | .fromModules => some desk.board.fromModules
  | .control => some desk.board.control
  | .fromClients => some desk.users.fromClients
  | .fromServer => some desk.uplink.fromServer
  | .toServer => some desk.uplink.toServer
  | .runtime name => desk.board.registry.runtimeQueue? name
  | .user key => (desk.users.byKey.get? key).map (·.queue)

/-- All queues at a desk were created, and each of them has one owner. A queue that is created next
is therefore nobody's, and what is put on a queue is for its owner alone. -/
structure Owned (desk : Desk) (queues : QueueStore) : Prop where
  created : ∀ {owner : Owner} {queue : QueueId}, desk.queueOf? owner = some queue →
    queue.index < queues.next
  sole : ∀ {first second : Owner} {queue : QueueId}, desk.queueOf? first = some queue →
    desk.queueOf? second = some queue → first = second

variable {desk changed : Desk} {queues later : QueueStore}

/-- An owner may give its queue up, and further queues may be created for somebody else. What is
left is owned as it was. -/
theorem owned_kept (owned : desk.Owned queues) (more : queues.next ≤ later.next)
    (kept : ∀ {owner : Owner} {queue : QueueId}, changed.queueOf? owner = some queue →
      desk.queueOf? owner = some queue) : changed.Owned later where
  created := fun found => Nat.lt_of_lt_of_le (owned.created (kept found)) more
  sole := fun first second => owned.sole (kept first) (kept second)

/-- A newcomer may get a queue that was free. The first free identity is nobody's, since every queue
that has an owner was created before. -/
theorem owned_opened (newcomer : Owner) (owned : desk.Owned queues)
    (more : queues.next < later.next)
    (kept : ∀ {owner : Owner} {queue : QueueId}, changed.queueOf? owner = some queue →
      desk.queueOf? owner = some queue ∨ owner = newcomer ∧ queue.index = queues.next) :
    changed.Owned later where
  created := fun found => by
    rcases kept found with earlier | ⟨_, fresh⟩
    · exact Nat.lt_trans (owned.created earlier) more
    · omega
  sole := fun first second => by
    -- What was owned before is not the queue that was free.
    rcases kept first with earlier | ⟨rfl, fresh⟩ <;> rcases kept second with other | ⟨rfl, free⟩
    · exact owned.sole earlier other
    · have created := owned.created earlier
      omega
    · have created := owned.created other
      omega
    · rfl

/-- An owner with a queue that nobody else has, as an equivalence: whoever has the queue is the
owner. -/
def SoleOwner (desk : Desk) (owner : Owner) (queue : QueueId) : Prop :=
  ∀ other, desk.queueOf? other = some queue ↔ other = owner

/-- Whoever has a queue at a desk where every queue is owned is the only one who has it. -/
theorem owned_sole {owner : Owner} {queue : QueueId} (owned : desk.Owned queues)
    (found : desk.queueOf? owner = some queue) : desk.SoleOwner owner queue := by
  intro other
  constructor
  · intro also
    exact owned.sole also found
  · rintro rfl
    exact found

/-- Types that channels agree on make no difference to who has a queue. -/
theorem settles_sole {before later : Desk} {owner : Owner} {queue : QueueId}
    (settles : before.Settles later) (sole : before.SoleOwner owner queue) :
    later.SoleOwner owner queue := by
  obtain ⟨channels, rfl⟩ := settles
  intro other
  rw [← sole other]
  cases other <;> rfl

/-! ## A new desk -/

/-- At a new desk the queues of the five places are the next five of the store, and nobody else has
one. -/
theorem create_queue (host : String) (queues : QueueStore) (owner : Owner) :
    (create host queues).1.queueOf? owner = owner.seat?.map fun seat => ⟨queues.next + seat⟩ := by
  cases owner <;> rfl

/-- A new desk has created the queues that it has from the beginning. Each owner has a seat of its
own among them, and seats are given in order, so no two share a queue. -/
theorem create_owned (host : String) (queues : QueueStore) :
    (create host queues).1.Owned (create host queues).2 where
  created := fun {owner queue} found => by
    rw [create_queue] at found
    obtain ⟨seat, seated, rfl⟩ := Option.map_eq_some_iff.mp found
    have few := Owner.seat_lt seated
    have five : (create host queues).2.next = queues.next + 5 := rfl
    dsimp only
    omega
  sole := fun {first second queue} found other => by
    rw [create_queue] at found other
    obtain ⟨seat, seated, rfl⟩ := Option.map_eq_some_iff.mp found
    obtain ⟨another, beside, same⟩ := Option.map_eq_some_iff.mp other
    obtain rfl : another = seat := by
      have indices := congrArg QueueId.index same
      dsimp only at indices
      omega
    exact Owner.seat_injective seated beside

end Desk

/-! ## The switchboard -/

namespace Switchboard

/-- The queues of a switchboard are the same: its own two and those of the runtimes. What a request
does to modules and channels is left open. -/
structure SameQueues (before after : Switchboard) : Prop where
  fromModules : after.fromModules = before.fromModules
  control : after.control = before.control
  runtimes : after.registry.runtimes = before.registry.runtimes

variable {board before middle after : Switchboard} {registry : Registry}

/-- A request that is refused leaves all queues where they are. -/
theorem same_queues_refl (board : Switchboard) : board.SameQueues board := ⟨rfl, rfl, rfl⟩

/-- Requests that leave the queues where they are can be done one after the other. -/
theorem same_queues_trans (first : SameQueues before middle) (second : SameQueues middle after) :
    SameQueues before after :=
  ⟨second.fromModules.trans first.fromModules, second.control.trans first.control,
    second.runtimes.trans first.runtimes⟩

/-- A new module is in no runtime that is not there yet, since entering it says nothing about where
it runs. -/
theorem add_queues {module className : String} {properties : SortedMap String String}
    (added : board.registry.add module className properties = .ok registry) :
    board.SameQueues { board with registry := registry } := by
  unfold Registry.add at added
  split at added
  · cases added
  · cases added
    exact ⟨rfl, rfl, rfl⟩

/-- Binding a channel changes the channels of the board and nothing else. In particular no module
comes to another runtime by it, so the owners of all queues stay who they are. -/
theorem bind_queues {endpoint : Endpoint} {binding : Binding}
    (bound : board.bind endpoint binding = .ok after) : board.SameQueues after := by
  unfold bind bindChannel at bound
  split at bound
  · cases bound
  · cases result : board.channels.bind endpoint binding with
    | error failure =>
      rw [result] at bound
      cases bound
    | ok channels =>
      rw [result] at bound
      cases bound
      exact ⟨rfl, rfl, rfl⟩

/-- So does binding one channel after another, also where a later one is refused and the earlier
ones stay. -/
theorem bind_each_queues (module : String) (role : Role) (entries : List (String × String))
    (board : Switchboard) : board.SameQueues (board.bindEach module role entries).state := by
  induction entries generalizing board with
  | nil => exact same_queues_refl board
  | cons entry rest inductionHypothesis =>
    rw [bindEach]
    split
    · rename_i changed bound
      exact same_queues_trans (bind_queues bound) (inductionHypothesis changed)
    · exact same_queues_refl board

/-- Registering a module enters it and binds its channels. Neither opens a queue, and this holds
also for what a refused registration leaves behind. -/
theorem register_queues (board : Switchboard) (spec : ModuleSpec) :
    board.SameQueues (board.register spec).state := by
  unfold register
  split
  · exact same_queues_refl board
  · rename_i registry added
    refine Outcome.andThen_keeps board.SameQueues ?_ fun changed _ same => ?_
    · exact same_queues_trans (add_queues added) (bind_each_queues ..)
    · exact same_queues_trans same (bind_each_queues ..)

/-- Copies are put on queues that are there, so a publication creates none and hands none on. -/
theorem publish_queues (board : Switchboard) (queues : QueueStore) (message : Message) :
    board.SameQueues (board.publish queues message).state.1 ∧
      (board.publish queues message).state.2.next = queues.next := by
  unfold publish
  split
  · exact ⟨same_queues_refl board, rfl⟩
  · refine ⟨⟨rfl, rfl, rfl⟩, ?_⟩
    dsimp only [Outcome.within]
    rw [copy_to_each_posts, QueueStore.push_each_next]

end Switchboard

namespace Desk

variable {desk : Desk} {queues later : QueueStore}

/-- A switchboard with the same queues can take the place of the old one. -/
theorem same_queues_owned {board : Switchboard} (owned : desk.Owned queues)
    (same : desk.board.SameQueues board) (more : queues.next ≤ later.next) :
    Owned { desk with board := board } later :=
  owned_kept owned more fun {owner queue} found => by
    cases owner with
    | fromModules => rwa [queueOf?, same.fromModules] at found
    | control => rwa [queueOf?, same.control] at found
    | runtime name => rwa [queueOf?, Registry.runtimeQueue?, same.runtimes] at found
    | fromClients | fromServer | toServer | user => exact found

/-- The first module in a runtime gets a new queue for it, and all others have that one. -/
theorem place_owned (module runtime : String) (owned : desk.Owned queues) :
    (desk.run queues (.serve (.place module runtime))).1.Owned
      (desk.run queues (.serve (.place module runtime))).2 := by
  simp only [run, Switchboard.serve, Registry.place]
  split
  · exact owned
  · rename_i entry _
    simp only [Switchboard.enrolled, Registry.openRuntime, Outcome.ok]
    split
    · exact same_queues_owned owned ⟨rfl, rfl, rfl⟩ (Nat.le_refl _)
    · have more : queues.next < queues.create.2.next := Nat.lt_succ_self _
      refine owned_opened (.runtime runtime) owned more fun {owner queue} found => ?_
      cases owner with
      | runtime name =>
        simp only [queueOf?, Registry.runtimeQueue?, SortedMap.get?_insert] at found ⊢
        split at found
        · rename_i same
          cases found
          exact .inr ⟨congrArg Owner.runtime same, rfl⟩
        · exact .inl found
      | fromModules | control | fromClients | fromServer | toServer | user => exact .inl found

/-- Whatever is requested of the switchboard, the queues keep their owners. Only placing a module
may open a queue, and then for its runtime; all other requests leave the queues the same. -/
theorem serve_owned (request : Request) (owned : desk.Owned queues) :
    (desk.run queues (.serve request)).1.Owned (desk.run queues (.serve request)).2 := by
  have same := @same_queues_owned desk queues queues
  cases request with
  | place module runtime => exact place_owned module runtime owned
  | enroll module className properties =>
    simp only [run, Switchboard.serve]
    cases added : desk.board.registry.add module className properties with
    | error failure => exact owned
    | ok registry => exact same owned (Switchboard.add_queues added) (Nat.le_refl _)
  | bind endpoint binding =>
    simp only [run, Switchboard.serve]
    cases bound : desk.board.bind endpoint binding with
    | error failure => exact owned
    | ok board => exact same owned (Switchboard.bind_queues bound) (Nat.le_refl _)
  | present module samples => exact same owned ⟨rfl, rfl, rfl⟩ (Nat.le_refl _)
  | publish message =>
    obtain ⟨kept, next⟩ := Switchboard.publish_queues desk.board queues message
    exact same_queues_owned owned kept (Nat.le_of_eq next.symm)
  | register spec => exact same owned (Switchboard.register_queues ..) (Nat.le_refl _)
  | clear => exact same owned ⟨rfl, rfl, rfl⟩ (Nat.le_refl _)

/-! ## Clients that come and go -/

/-- A client that connects gets a new queue, or is refused because it is connected already, and then
nothing changes. -/
theorem connect_owned (key : UserKey) (device : String) (owned : desk.Owned queues) :
    (desk.run queues (.connect key device)).1.Owned (desk.run queues (.connect key device)).2 := by
  simp only [run, UserDirectory.connect]
  split
  · exact owned
  · refine owned_opened (.user key) owned (Nat.lt_succ_self _) fun {owner queue} found => ?_
    cases owner with
    | user other =>
      simp only [queueOf?, SortedMap.get?_insert] at found ⊢
      split at found
      · rename_i same
        cases found
        exact .inr ⟨congrArg Owner.user same, rfl⟩
      · exact .inl found
    | fromModules | control | fromClients | fromServer | toServer | runtime => exact .inl found

/-- A client that leaves has no queue any more. The queue stays in the store, closed, and is handed
on to nobody. -/
theorem disconnect_owned (key : UserKey) (owned : desk.Owned queues) :
    (desk.run queues (.disconnect key)).1.Owned (desk.run queues (.disconnect key)).2 := by
  simp only [run, UserDirectory.disconnect]
  split
  · exact owned
  · refine owned_kept owned (Nat.le_refl _) fun {owner queue} found => ?_
    cases owner with
    | user other =>
      simp only [queueOf?, SortedMap.get?_erase] at found ⊢
      split at found
      · cases found
      · exact found
    | fromModules | control | fromClients | fromServer | toServer | runtime => exact found

/-! ## All errands -/

/-- An errand leaves every queue with one owner at most. There are three kinds: requests to the
switchboard, connections, and departures. -/
theorem run_owned (errand : Errand) (owned : desk.Owned queues) :
    (desk.run queues errand).1.Owned (desk.run queues errand).2 := by
  cases errand with
  | serve request => exact serve_owned request owned
  | connect key device => exact connect_owned key device owned
  | disconnect key => exact disconnect_owned key owned
  | handle queue change => exact owned_kept owned (Nat.le_refl _) id
  | createQueue => exact owned_kept owned (Nat.le_succ _) id

/-- So do errands in order, by induction on the errands that are left to run. -/
theorem run_all_owned (errands : List Errand) (owned : desk.Owned queues) :
    (desk.runAll queues errands).1.Owned (desk.runAll queues errands).2 := by
  induction errands generalizing desk queues with
  | nil => exact owned
  | cons errand rest inductionHypothesis => exact inductionHypothesis (run_owned errand owned)

/-- Whatever was done at a desk, no queue has two owners. Nothing is assumed about the errands: they
may fail, repeat each other, and come in any order. -/
theorem after_owned (host : String) (queues : QueueStore) (errands : List Errand) :
    (after host queues errands).1.Owned (after host queues errands).2 :=
  run_all_owned errands (create_owned host queues)

/-! ## Users -/

variable {queue : QueueId}

/-- A user with a connection owns the queue that the directory gives for it. -/
theorem user_owns {key : UserKey} (found : desk.users.queueOf key = .ok queue) :
    desk.queueOf? (.user key) = some queue := by
  unfold UserDirectory.queueOf at found
  split at found
  · rename_i user connected
    cases found
    simp only [queueOf?, connected, Option.map_some]
  · cases found

/-- The queues of a client belong to its users: each was found under the client and the token of one
of them. -/
theorem client_owns {client : String} {addressed : List QueueId}
    (found : desk.users.queuesOf client = .ok addressed) (member : queue ∈ addressed) :
    ∃ token, desk.queueOf? (.user ⟨client, token⟩) = some queue := by
  unfold UserDirectory.queuesOf at found
  split at found
  · cases found
  · cases found
    obtain ⟨token, _, named⟩ := List.mem_filterMap.mp member
    exact ⟨token, named⟩

end Desk

namespace Exchange

variable {exchange : Exchange} {message : Message} {queue : QueueId}

/-- A message for one user is for a queue of that user, and a message for all users of a client is
for queues of theirs. Who owns such a queue is a user of the target host in either case. -/
theorem addressed_owner {addressed : List QueueId}
    (found : exchange.addressedQueues message = .ok addressed) (member : queue ∈ addressed) :
    ∃ token, exchange.desk.queueOf? (.user ⟨message.target.host, token⟩) = some queue ∧
      (message.isBroadcast = false → token = message.userToken) := by
  unfold addressedQueues at found
  split at found
  · rename_i broadcast
    obtain ⟨token, owns⟩ := Desk.client_owns found member
    exact ⟨token, owns, fun single => by cases broadcast.symm.trans single⟩
  · cases own : exchange.desk.users.queueOf ⟨message.target.host, message.userToken⟩ with
    | error failure =>
      rw [own] at found
      cases found
    | ok single =>
      rw [own] at found
      cases found
      obtain rfl := List.mem_singleton.mp member
      exact ⟨message.userToken, Desk.user_owns own, fun _ => rfl⟩

/-- A message goes to users of the target, or to the one user of the next hop. The cases are those
of the path that was found; only the first one looks at the user of the message. -/
theorem recipient_owner (received : queue ∈ exchange.recipients message) :
    (∃ token, exchange.desk.queueOf? (.user ⟨message.target.host, token⟩) = some queue ∧
      (message.isBroadcast = false → token = message.userToken)) ∨
    ∃ hop second rest token,
      (exchange.resolveDown message.target.host).1 = some (hop :: second :: rest) ∧
        exchange.desk.queueOf? (.user ⟨hop, token⟩) = some queue := by
  unfold recipients at received
  split at received
  · split at received
    · rename_i found
      exact .inl (addressed_owner found received)
    · cases received
  · rename_i hop second rest answer
    split at received
    · rename_i single connected
      obtain ⟨token, owns⟩ := Desk.client_owns connected received
      exact .inr ⟨hop, second, rest, token, answer, owns⟩
    · cases received
  · cases received

end Exchange

end RelayTree
