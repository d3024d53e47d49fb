import Mathlib.Tactic.Common
import RelayTree.Proofs.Registration
import RelayTree.Proofs.Switchboard.WriteOnce

/-!
# Channels of modules that are gone

A channel is bound in two sections: one looks whether its module is registered, and the next one,
with another lock, binds it. Somebody who forgets everything in between is done with the channels
when the second one comes, and the module it was checked for is gone. The channel is bound
nevertheless, and is there after the reload.

`bound_registered_unless_raced` says that this is the only way. While nobody holds the lock of the
modules, a channel of a module that is not registered is bound exactly if it was bound in such a
race and nothing was forgotten since. The proof follows every check that has not been acted on yet:
its module is registered, or is being forgotten, or was forgotten since.
-/

namespace RelayTree

namespace Channels

variable {channels changed : Channels}

/-- Samples give types and bind nothing, however many of them are accepted before one is refused.
What is bound is only read, to find the connection of a sample. -/
theorem present_each_bindings (module : String) (samples : List Message) (channels : Channels) :
    (channels.presentEach module samples).state.bindings = channels.bindings := by
  induction samples generalizing channels with
  | nil => rfl
  | cons sample rest inductionHypothesis =>
    rw [presentEach]
    split
    · rename_i accepted
      obtain ⟨_, _, rfl, _⟩ := present_types accepted
      rw [inductionHypothesis, typed]
    · rfl

/-- Presenting a batch binds nothing either: a module without a name is refused at once, and
otherwise types are added for as long as no sample is refused. -/
theorem present_all_bindings (module : String) (samples : List Message) :
    (channels.presentAll module samples).state.bindings = channels.bindings := by
  rw [presentAll]
  split
  · rfl
  · exact present_each_bindings module samples channels

/-- A message that settles the type of its channel binds nothing, since a publication goes to
channels that are bound already. -/
theorem settle_bindings {name : String} {message : Message} {subscribers : List Endpoint}
    (settled : channels.settle name message = .ok (subscribers, changed)) :
    changed.bindings = channels.bindings := by
  unfold settle at settled
  split at settled
  · cases settled
  · split at settled
    · cases settled
    · cases settled
      rfl

end Channels

/-- A request to register a module, to bind a channel or to forget everything. -/
def Request.Basic : Request → Prop
  | .enroll _ _ _ | .bind _ _ | .clear => True
  | _ => False

namespace Ticket

/-! ## One turn -/

/-- A request that is neither about to bind a channel nor about to forget the channels. -/
def Plain (ticket : Ticket) : Prop :=
  match ticket.progress with
  | .checked _ _ => False
  | .clearing => False
  | _ => True

/-- A turn by which no module gets lost, no channel is bound, and the lock of the modules stays with
whom it is. -/
structure Quiet (ticket : Ticket) (hall : Hall) (left : Section) : Prop where
  unfinished : ticket.progress ≠ .clearing
  locked : left.hall.locked = hall.locked
  modules : left.hall.board.registry = hall.board.registry ∨ hall.locked = false ∧
    ∀ module, hall.board.registry.contains module = true →
      left.hall.board.registry.contains module = true
  bindings : left.hall.board.channels.bindings = hall.board.channels.bindings
  checked : ∀ {wish rest}, left.ticket.progress = .checked wish rest →
    left.hall.board.registry.contains wish.endpoint.module = true

/-- What a turn does with the modules, the channels and the lock of the modules. Most sections are
quiet in this respect, and there are three kinds that are not. -/
inductive Turn (ticket : Ticket) (hall : Hall) : Section → Prop where
  | quiet {left : Section} (quiet : ticket.Quiet hall left) : Turn ticket hall left
  /-- A channel is bound, whether its module is still registered or not. -/
  | connects {wish : Wish} {rest : List Wish} {channels : Channels}
    (checked : ticket.progress = .checked wish rest)
    (bound : hall.board.channels.bind wish.endpoint wish.binding = .ok channels) :
    Turn ticket hall (ticket.reaching (.rest rest) (hall.rewired channels))
  /-- The modules are forgotten. -/
  | begins (unlocked : hall.locked = false) (asked : ticket.progress = .asked) :
    Turn ticket hall (ticket.reaching .clearing
      { hall.enrolled hall.board.registry.clear hall.queues with locked := true })
  /-- The channels are forgotten. -/
  | finishes (clearing : ticket.progress = .clearing) :
    Turn ticket hall (ticket.answering (.ok .done) { hall.rewired .empty with locked := false })

variable {ticket : Ticket} {hall : Hall} {left : Section}

/-- A request that waits for something plain holds no check that it has not acted on yet, so nothing
can be gone by the time it acts. -/
theorem plain_unchecked {wish : Wish} {rest : List Wish} (plain : ticket.Plain) :
    ticket.progress ≠ .checked wish rest := by
  intro checked
  rw [Plain, checked] at plain
  exact plain

/-- Nor is it in the middle of forgetting everything, which is the other progress that matters for a
race. -/
theorem plain_unfinished (plain : ticket.Plain) : ticket.progress ≠ .clearing := by
  intro clearing
  rw [Plain, clearing] at plain
  exact plain

/-- The two are apart: who holds a check is binding channels and not forgetting them. -/
theorem checked_unfinished {wish : Wish} {rest : List Wish}
    (checked : ticket.progress = .checked wish rest) : ticket.progress ≠ .clearing :=
  checked.trans_ne Progress.noConfusion

/-- A section that leaves modules, bindings and lock as they are. Most sections of a publication and
of a refused request are of this kind. -/
theorem turn_same (unfinished : ticket.progress ≠ .clearing)
    (locked : left.hall.locked = hall.locked)
    (registry : left.hall.board.registry = hall.board.registry)
    (bindings : left.hall.board.channels.bindings = hall.board.channels.bindings)
    (plain : left.ticket.Plain) : ticket.Turn hall left :=
  .quiet
    { unfinished := unfinished
      locked := locked
      modules := .inl registry
      bindings := bindings
      checked := fun checked => absurd checked (plain_unchecked plain) }

/-- A section that may have to wait for the lock. While the lock is held it changes nothing at all,
so it is enough to look at its turn when the lock is free. -/
theorem turn_unless_locked (plain : ticket.Plain)
    (turn : hall.locked = false → ticket.Turn hall left) :
    ticket.Turn hall (ticket.unlessLocked hall left) := by
  rw [unlessLocked]
  split
  · exact turn_same (plain_unfinished plain) rfl rfl rfl plain
  · rename_i unlocked
    exact turn (Bool.eq_false_iff.mpr unlocked)

/-- The next channel of a request waits for its check, and a request without further channels is
answered. Neither holds a check. -/
theorem plain_rest (rest : List Wish) : Plain { ticket with progress := .rest rest } := by
  cases rest <;> trivial

section Sections

variable (plain : ticket.Plain)

include plain

/-- Modules are entered while nobody holds the lock. Registering and placing are of this kind: they
bind nothing, and every module that was registered before is registered afterwards. -/
theorem enter_turn {next : Progress} {change : Except Failure (Registry × QueueStore)}
    (further : Plain { ticket with progress := next })
    (more : ∀ {registry queues}, change = .ok (registry, queues) →
      ∀ module, hall.board.registry.contains module = true → registry.contains module = true) :
    ticket.Turn hall (ticket.unlessLocked hall (ticket.enter hall next change)) := by
  refine turn_unless_locked plain fun unlocked => ?_
  cases change with
  | error failure => exact turn_same (plain_unfinished plain) rfl rfl rfl trivial
  | ok entered =>
    exact .quiet
      { unfinished := plain_unfinished plain
        locked := rfl
        modules := .inr ⟨unlocked, more rfl⟩
        bindings := rfl
        checked := fun checked => absurd checked (plain_unchecked further) }

/-- A check that succeeds finds the module registered at that moment. From there on the request
holds a check that it acts on in its next section. -/
theorem check_turn (wish : Wish) (rest : List Wish) :
    ticket.Turn hall (ticket.check hall wish rest) := by
  refine turn_unless_locked plain fun unlocked => ?_
  split
  · rename_i known
    refine .quiet ⟨plain_unfinished plain, rfl, .inl rfl, rfl, fun checked => ?_⟩
    cases checked
    rw [Switchboard.checkModule] at known
    split at known
    · assumption
    · cases known
  · exact turn_same (plain_unfinished plain) rfl rfl rfl trivial

/-- Copies are made one subscriber at a time. Each looks up a runtime and pushes, which is no change
of modules or bindings. -/
theorem copy_turn (message : Message) (count : Nat) (rest : List Endpoint) :
    ticket.Turn hall (ticket.copy hall message count rest) := by
  cases rest with
  | nil => exact turn_same (plain_unfinished plain) rfl rfl rfl trivial
  | cons subscriber rest =>
    refine turn_unless_locked plain fun _ => ?_
    split <;> exact turn_same (plain_unfinished plain) rfl rfl rfl trivial

/-- Looking a publication up finds the connection of its channel, or answers that there is none. It
changes nothing on the board. -/
theorem look_up_turn (message : Message) : ticket.Turn hall (ticket.lookUp hall message) := by
  have moved {connection : Option String} {progress : Progress}
      (further : Plain ⟨ticket.request, connection, progress⟩) :
      ticket.Turn hall ⟨hall, ⟨ticket.request, connection, progress⟩, [], []⟩ :=
    turn_same (plain_unfinished plain) rfl rfl rfl further
  rw [lookUp]
  split
  · exact moved trivial
  · dsimp only
    split
    · exact moved trivial
    · split <;> exact moved trivial

/-- Settling the type of a connection may change the channels, but not what they are bound to. -/
theorem settle_turn (message : Message) (connection : String) :
    ticket.Turn hall (ticket.settle hall message connection) := by
  rw [settle]
  split
  · rename_i settled
    exact turn_same (plain_unfinished plain) rfl rfl (Channels.settle_bindings settled) trivial
  · exact turn_same (plain_unfinished plain) rfl rfl rfl trivial

end Sections

/-- Every section of a request does one of these, by cases on what the request waits for and then on
what it asks. -/
theorem proceed_turn (ticket : Ticket) (hall : Hall) :
    ticket.Turn hall (ticket.proceed hall) := by
  obtain ⟨request, connection, progress⟩ := ticket
  cases progress with
  | asked =>
    have plain : Plain ⟨request, connection, .asked⟩ := trivial
    cases request with
    | enroll module className properties => exact enter_turn plain trivial Registry.enroll_more
    | register spec => exact enter_turn plain (plain_rest _) Registry.enroll_more
    | place module runtime => exact enter_turn plain trivial Registry.place_more
    | bind endpoint binding => exact check_turn plain _ _
    | present module samples =>
      exact turn_same (plain_unfinished plain) rfl rfl (Channels.present_all_bindings ..) trivial
    | publish message => exact look_up_turn plain message
    | clear => exact turn_unless_locked plain fun unlocked => .begins unlocked rfl
  | binding wish rest =>
    have plain : Plain ⟨request, connection, .binding wish rest⟩ := trivial
    exact check_turn plain wish rest
  | checked wish rest =>
    change Turn _ hall (connect _ hall wish rest)
    rw [connect]
    split
    · rename_i bound
      exact .connects rfl bound
    · exact turn_same nofun rfl rfl rfl trivial
  | settling message name =>
    have plain : Plain ⟨request, connection, .settling message name⟩ := trivial
    exact settle_turn plain message name
  | copying message rest count =>
    have plain : Plain ⟨request, connection, .copying message rest count⟩ := trivial
    exact copy_turn plain message count rest
  | sending message subscriber queue rest count =>
    change Turn _ hall (send _ hall message subscriber queue rest count)
    rw [send]
    split <;> exact turn_same nofun rfl rfl rfl trivial
  | clearing => exact .finishes rfl
  | answered result => exact turn_same nofun rfl rfl rfl trivial

end Ticket

namespace Switchroom

/-! ## Checks and races -/

/-- A module is registered. This is about the room as it is, whatever sections are still to come. -/
def Knows (room : Switchroom) (module : String) : Prop :=
  room.hall.board.registry.contains module = true

/-- A channel is bound, in whichever direction and to whichever connection. -/
def Binds (room : Switchroom) (endpoint : Endpoint) : Prop :=
  ∃ binding, room.channels.resolve? endpoint = some binding

/-- No request is under way: each of those that were ever made has its answer. Requests may have
failed, and how they were answered makes no difference. -/
def Idle (room : Switchroom) : Prop :=
  ∀ ticket ∈ room.tickets, ∃ result, ticket.progress = .answered result

/-- With this action somebody is done with forgetting everything. It is the second section of a
clear, the one that forgets the channels and gives the lock back. -/
def Clears (room : Switchroom) (action : Action) : Prop :=
  ∃ number ticket, action = .proceed number ∧ room.tickets[number]? = some ticket ∧
    ticket.progress = .clearing

/-- Somebody is done with forgetting everything in the course of these actions. It is told action by
action, since whether an action is such a section depends on the room before it. -/
inductive Forgets : Switchroom → List Action → Prop where
  | now {room : Switchroom} {action : Action} {rest : List Action} (clears : room.Clears action) :
    Forgets room (action :: rest)
  | later {room : Switchroom} {action : Action} {rest : List Action}
    (forgets : Forgets (room.after action) rest) : Forgets room (action :: rest)

/-- A request found a module registered and is about to bind its channel. Since then the module was
not forgotten, or is being forgotten, or was forgotten altogether. -/
inductive Checked (start : Switchroom) : List Action → Nat → Endpoint → Prop where
  | since {before between : List Action} {number : Nat} {ticket : Ticket} {wish : Wish}
    {rest : List Wish} (found : (start.run before).tickets[number]? = some ticket)
    (about : ticket.progress = .checked wish rest)
    (registered : (start.run before).Knows wish.endpoint.module)
    (waits : .proceed number ∉ between)
    (still : (start.run (before ++ between)).Knows wish.endpoint.module ∨
      (start.run (before ++ between)).hall.locked = true ∨ (start.run before).Forgets between) :
    Checked start (before ++ between) number wish.endpoint

/-- A channel was checked while its module was registered, then everything was forgotten, and then
the channel was bound. Nothing was forgotten since. -/
inductive Raced (start : Switchroom) : List Action → Endpoint → Prop where
  | between {before between later : List Action} {number : Nat} {ticket : Ticket} {wish : Wish}
    {rest : List Wish} (found : (start.run before).tickets[number]? = some ticket)
    (about : ticket.progress = .checked wish rest)
    (registered : (start.run before).Knows wish.endpoint.module)
    (waits : .proceed number ∉ between)
    (forgotten : (start.run before).Forgets between)
    (kept : ¬ (start.run (before ++ between)).Forgets (.proceed number :: later)) :
    Raced start (before ++ between ++ .proceed number :: later) wish.endpoint

variable {start room later : Switchroom} {action : Action} {actions : List Action} {number : Nat}
  {ticket : Ticket} {endpoint : Endpoint} {module : String}

/-- A run of two stretches is the run of the second from where the first one ends. -/
theorem run_append (room : Switchroom) (earlier later : List Action) :
    room.run (earlier ++ later) = (room.run earlier).run later :=
  List.foldl_append

/-- A run with one more action at its end takes that action last. The proofs below go by induction
on a run from its end, as what is known about it is known at its end. -/
theorem run_snoc (room : Switchroom) (actions : List Action) (action : Action) :
    room.run (actions ++ [action]) = (room.run actions).after action :=
  run_append room actions [action]

/-- Everything is forgotten in the course of a longer run if it was before the last action or is
with it. -/
theorem forgets_snoc : room.Forgets (actions ++ [action]) ↔
    room.Forgets actions ∨ (room.run actions).Clears action := by
  induction actions generalizing room with
  | nil =>
    constructor
    · rintro (clears | forgets)
      · exact .inr clears
      · cases forgets
    · rintro (forgets | clears)
      · cases forgets
      · exact .now clears
  | cons first rest inductionHypothesis =>
    constructor
    · rintro (clears | forgets)
      · exact .inl (.now clears)
      · exact (inductionHypothesis.mp forgets).imp .later id
    · rintro ((clears | forgets) | clears)
      · exact .now clears
      · exact .later (inductionHypothesis.mpr (.inl forgets))
      · exact .later (inductionHypothesis.mpr (.inr clears))

/-! ## One action -/

/-- What an action does: a request is made, or gets a turn, or nothing of concern happens. -/
inductive Step (room : Switchroom) : Action → Switchroom → Prop where
  | aside {action : Action} {later : Switchroom}
    (board : later.hall.board = room.hall.board) (locked : later.hall.locked = room.hall.locked)
    (tickets : later.tickets = room.tickets)
    (nobody : ∀ number, action = .proceed number → room.tickets[number]? = none) :
    Step room action later
  | asked {request : Request} :
    Step room (.ask request) { room with tickets := room.tickets ++ [.of request] }
  | turn {number : Nat} {ticket : Ticket} {left : Section}
    (found : room.tickets[number]? = some ticket) (turn : ticket.Turn room.hall left) :
    Step room (.proceed number) (room.adopt number left)

/-- Whatever action is taken, the room does one of the three: a request comes in, something else
happens at the queues, or a request that is under way gets its turn. -/
theorem after_step (room : Switchroom) (action : Action) :
    room.Step action (room.after action) := by
  cases action with
  | ask request => exact .asked
  | elsewhere queues => exact .aside rfl rfl rfl fun _ other => nomatch other
  | proceed number =>
    rw [after, proceed]
    split
    · rename_i absent
      refine .aside rfl rfl rfl fun _ same => ?_
      cases same
      exact absent
    · rename_i ticket found
      exact .turn found (Ticket.proceed_turn ticket room.hall)

/-- A turn is the end of forgetting everything exactly if the request whose turn it is waits for
just that. -/
theorem clears_turn (found : room.tickets[number]? = some ticket) :
    room.Clears (.proceed number) ↔ ticket.progress = .clearing := by
  constructor
  · rintro ⟨_, _, same, there, clearing⟩
    cases same
    cases found.symm.trans there
    exact clearing
  · exact fun clearing => ⟨number, ticket, rfl, found, clearing⟩

/-- A request that comes in has not done anything yet, so nothing is forgotten with it. -/
theorem uncleared_ask (request : Request) : ¬ room.Clears (.ask request) := by
  rintro ⟨_, _, same, _⟩
  cases same

/-- Nor is anything forgotten where no request has the number whose turn it would be, or where the
action is no turn. -/
theorem uncleared_aside
    (nobody : ∀ number, action = .proceed number → room.tickets[number]? = none) :
    ¬ room.Clears action := by
  rintro ⟨number, ticket, turn, found, _⟩
  cases (nobody number turn).symm.trans found

/-- Only its own turns move a request: other turns, newcomers and what happens at the queues leave
its progress where it is. -/
theorem ticket_later (step : room.Step action later) (other : action ≠ .proceed number)
    (found : room.tickets[number]? = some ticket) : later.tickets[number]? = some ticket := by
  cases step with
  | aside _ _ tickets _ => rw [tickets, found]
  | asked =>
    have there := (List.getElem?_eq_some_iff.mp found).1
    exact (List.getElem?_append_left there).trans found
  | turn _ _ =>
    have apart : _ ≠ number := fun same => other (congrArg Action.proceed same)
    exact (List.getElem?_set_ne apart).trans found

/-- Whoever is about to bind a channel was so before, or just found the module registered. Only a
turn of its own brings a request there, namely the section that checks. -/
theorem checked_before {wish : Wish} {rest : List Wish} (step : room.Step action later)
    (found : later.tickets[number]? = some ticket) (about : ticket.progress = .checked wish rest) :
    later.Knows wish.endpoint.module ∨
      action ≠ .proceed number ∧ room.tickets[number]? = some ticket := by
  cases step with
  | aside _ _ tickets nobody =>
    rw [tickets] at found
    exact .inr ⟨fun own => (nomatch (nobody number own).symm.trans found), found⟩
  | @asked request =>
    rw [List.getElem?_append] at found
    split at found
    · exact .inr ⟨nofun, found⟩
    · obtain ⟨_, rfl⟩ := List.getElem?_eq_some_iff.mp found
      rw [List.getElem_singleton] at about
      cases about
  | @turn turned moved left there turn =>
    by_cases own : turned = number
    · subst own
      rw [adopt, List.getElem?_set_self (List.getElem?_eq_some_iff.mp there).1] at found
      cases found
      left
      cases turn with
      | quiet quiet => exact quiet.checked about
      | @connects _ rest => exact absurd about (Ticket.plain_unchecked (Ticket.plain_rest rest))
      | begins => cases about
      | finishes => cases about
    · rw [adopt, List.getElem?_set_ne own] at found
      exact .inr ⟨fun same => own (Action.proceed.inj same), found⟩

/-- A module that is registered is so afterwards, or is being forgotten: the first section of a
clear empties the registry and keeps the lock until the channels are forgotten too. -/
theorem knows_later (step : room.Step action later) (uncleared : ¬ room.Clears action)
    (known : room.Knows module ∨ room.hall.locked = true) :
    later.Knows module ∨ later.hall.locked = true := by
  cases step with
  | aside board locked _ _ => rwa [Knows, board, locked]
  | asked => exact known
  | turn found turn =>
    cases turn with
    | quiet quiet =>
      rcases known with registered | held
      · rcases quiet.modules with same | ⟨_, more⟩
        · exact .inl ((congrArg (Registry.contains · module) same).trans registered)
        · exact .inl (more module registered)
      · exact .inr (quiet.locked.trans held)
    | connects => exact known
    | begins => exact .inr rfl
    | finishes clearing => exact absurd ((clears_turn found).mpr clearing) uncleared

/-- While the lock of the modules is held, no module is registered. Only a clear holds it from one
section to the next, and it emptied the registry when it took it. -/
theorem locked_later (step : room.Step action later)
    (emptied : room.hall.locked = true → ¬ room.Knows module) (locked : later.hall.locked = true) :
    ¬ later.Knows module := by
  cases step with
  | aside board same _ _ =>
    rw [Knows, board]
    exact emptied (same ▸ locked)
  | asked => exact emptied locked
  | turn found turn =>
    cases turn with
    | quiet quiet =>
      have held : room.hall.locked = true := quiet.locked.symm.trans locked
      rcases quiet.modules with same | ⟨free, _⟩
      · have unchanged := congrArg (Registry.contains · module) same
        exact fun known => emptied held (unchanged.symm.trans known)
      · cases free.symm.trans held
    | connects => exact emptied locked
    | begins => exact Bool.false_ne_true
    | finishes => cases locked

/-- The lock of the modules is held by somebody who has not come to forget the channels yet. -/
theorem holder_later (step : room.Step action later)
    (holder : room.hall.locked = true → ∃ number, room.Clears (.proceed number))
    (locked : later.hall.locked = true) : ∃ number, later.Clears (.proceed number) := by
  have waiting (held : room.hall.locked = true) (uncleared : ¬ room.Clears action) :
      ∃ number, later.Clears (.proceed number) := by
    obtain ⟨_, number, ticket, _, found, clearing⟩ := holder held
    have other : action ≠ .proceed number := fun own =>
      uncleared ⟨number, ticket, own, found, clearing⟩
    exact ⟨number, number, ticket, rfl, ticket_later step other found, clearing⟩
  cases step with
  | aside _ same _ nobody => exact waiting (same ▸ locked) (uncleared_aside nobody)
  | asked => exact waiting locked (uncleared_ask _)
  | @turn number ticket left found turn =>
    cases turn with
    | quiet quiet =>
      exact waiting (quiet.locked ▸ locked) ((clears_turn found).not.mpr quiet.unfinished)
    | connects checked _ =>
      exact waiting locked ((clears_turn found).not.mpr (Ticket.checked_unfinished checked))
    | begins =>
      have there := (List.getElem?_eq_some_iff.mp found).1
      exact ⟨number, number, _, rfl, List.getElem?_set_self there, rfl⟩
    | finishes => cases locked

/-- A channel that is bound stays so, or everything is forgotten: no other section takes a binding
away. -/
theorem binds_later (step : room.Step action later) (uncleared : ¬ room.Clears action)
    (bound : room.Binds endpoint) : later.Binds endpoint := by
  obtain ⟨binding, found⟩ := bound
  cases step with
  | aside board _ _ _ => exact ⟨binding, by rw [channels, board]; exact found⟩
  | asked => exact ⟨binding, found⟩
  | turn there turn =>
    cases turn with
    | quiet quiet => exact ⟨binding, (congrArg (·.get? endpoint) quiet.bindings).trans found⟩
    | connects _ bound => exact ⟨binding, (Channels.bind_extends bound).bindings found⟩
    | begins => exact ⟨binding, found⟩
    | finishes clearing => exact absurd ((clears_turn there).mpr clearing) uncleared

/-- A channel that is bound was bound before, or somebody was about to bind it. That holds after any
action, and the one that forgets the channels is excluded by the way. -/
theorem binds_before (step : room.Step action later) (bound : later.Binds endpoint) :
    ¬ room.Clears action ∧ (room.Binds endpoint ∨
      ∃ (number : Nat) (ticket : Ticket) (wish : Wish) (rest : List Wish),
        action = .proceed number ∧ room.tickets[number]? = some ticket ∧
          ticket.progress = .checked wish rest ∧ wish.endpoint = endpoint) := by
  obtain ⟨binding, found⟩ := bound
  cases step with
  | aside board _ _ nobody =>
    rw [channels, board] at found
    exact ⟨uncleared_aside nobody, .inl ⟨binding, found⟩⟩
  | asked => exact ⟨uncleared_ask _, .inl ⟨binding, found⟩⟩
  | turn there turn =>
    rw [clears_turn there]
    cases turn with
    | quiet quiet =>
      have same := congrArg (·.get? endpoint) quiet.bindings
      exact ⟨quiet.unfinished, .inl ⟨binding, same.symm.trans found⟩⟩
    | @connects wish rest changed checked bound =>
      refine ⟨Ticket.checked_unfinished checked, ?_⟩
      change changed.resolve? endpoint = some binding at found
      rcases Channels.bind_joins bound with same | ⟨_, joined⟩
      · rw [same] at found
        exact .inl ⟨binding, found⟩
      · rw [joined, Channels.resolve?, Channels.joined, SortedMap.get?_insert] at found
        split at found
        · rename_i own
          exact .inr ⟨_, _, wish, rest, rfl, there, checked, own.symm⟩
        · exact .inl ⟨binding, found⟩
    | begins _ asked =>
      exact ⟨asked.trans_ne Progress.noConfusion, .inl ⟨binding, found⟩⟩
    | finishes => cases found

/-- Whoever comes to bind a channel finds it bound afterwards, by himself or by somebody else. If it
is bound otherwise his request fails, but the channel is bound all the same. -/
theorem connected_binds {wish : Wish} {rest : List Wish}
    (found : room.tickets[number]? = some ticket) (about : ticket.progress = .checked wish rest) :
    (room.after (.proceed number)).Binds wish.endpoint := by
  cases held : room.channels.resolve? wish.endpoint with
  | some binding =>
    have uncleared : ¬ room.Clears (.proceed number) :=
      (clears_turn found).not.mpr (Ticket.checked_unfinished about)
    exact binds_later (after_step room _) uncleared ⟨binding, held⟩
  | none =>
    have joined : room.hall.board.channels.bind wish.endpoint wish.binding =
        .ok (room.channels.joined wish.endpoint wish.binding) := Channels.bind_joined held
    have connected : (room.after (.proceed number)).channels =
        room.channels.joined wish.endpoint wish.binding := by
      simp only [channels, after, proceed, found, adopt, Ticket.proceed, about, Ticket.connect,
        joined]
      rfl
    refine ⟨wish.binding, ?_⟩
    rw [connected, Channels.resolve?, Channels.joined, SortedMap.get?_insert, if_pos rfl]

/-! ## All actions -/

/-- A check that was not acted on with an action is still there after it. Its module is registered
as before, unless the action was the one that forgets, and then this is noted. -/
theorem checked_snoc (checked : start.Checked actions number endpoint)
    (other : action ≠ .proceed number) : start.Checked (actions ++ [action]) number endpoint := by
  obtain ⟨found, about, registered, waits, still⟩ := checked
  rename_i before between ticket wish rest
  have waiting : .proceed number ∉ between ++ [action] := by
    simpa [waits] using other.symm
  rw [List.append_assoc]
  refine .since found about registered waiting ?_
  rw [← List.append_assoc, run_snoc, forgets_snoc, ← run_append]
  by_cases clears : (start.run (before ++ between)).Clears action
  · exact .inr (.inr (.inr clears))
  · rw [← or_assoc] at still ⊢
    exact still.imp (knows_later (after_step _ _) clears) .inl

/-- A race stays one as long as nothing is forgotten. The later action is put at the end of what
came after the binding. -/
theorem raced_snoc (raced : start.Raced actions endpoint)
    (uncleared : ¬ (start.run actions).Clears action) :
    start.Raced (actions ++ [action]) endpoint := by
  obtain ⟨found, about, registered, waits, forgotten, kept⟩ := raced
  rename_i before between later number ticket wish rest
  rw [List.append_assoc, List.cons_append]
  refine .between found about registered waits forgotten ?_
  rw [← List.cons_append, forgets_snoc, ← run_append]
  exact not_or.mpr ⟨kept, uncleared⟩

/-- Whoever binds a channel now finds its module registered or being forgotten, or there was a race.
It is a race if the module was forgotten after the check, and the two ends of it are the check and
this turn. -/
theorem bound_now (checked : start.Checked actions number endpoint)
    (uncleared : ¬ (start.run actions).Clears (.proceed number)) :
    (start.run (actions ++ [.proceed number])).Knows endpoint.module ∨
      (start.run (actions ++ [.proceed number])).hall.locked = true ∨
        start.Raced (actions ++ [.proceed number]) endpoint := by
  obtain ⟨found, about, registered, waits, still⟩ := checked
  rename_i before between ticket wish rest
  rw [← or_assoc] at still ⊢
  refine still.imp (fun known => ?_) fun forgotten => ?_
  · rw [run_snoc]
    exact knows_later (after_step _ _) uncleared known
  · refine .between found about registered waits forgotten ?_
    rintro (clears | ⟨⟨⟩⟩)
    exact uncleared clears

/-- What is known at every moment of the modules that are registered, of those that were found
registered and of those that have a channel. -/
structure Accounted (start : Switchroom) (actions : List Action) : Prop where
  emptied : ∀ {module}, (start.run actions).hall.locked = true →
    ¬ (start.run actions).Knows module
  holder : (start.run actions).hall.locked = true →
    ∃ number, (start.run actions).Clears (.proceed number)
  checked : ∀ {number ticket wish rest}, (start.run actions).tickets[number]? = some ticket →
    ticket.progress = .checked wish rest → start.Checked actions number wish.endpoint
  bound : ∀ {endpoint}, (start.run actions).Binds endpoint →
    (start.run actions).Knows endpoint.module ∨ (start.run actions).hall.locked = true ∨
      start.Raced actions endpoint

/-- The account is good after one more action. Each of its four parts is proved from the account
before, with `Step` saying what the action can have done. -/
theorem accounted_snoc (accounted : start.Accounted actions) (action : Action) :
    start.Accounted (actions ++ [action]) := by
  have step := after_step (start.run actions) action
  constructor
  case emptied =>
    rw [run_snoc]
    exact fun locked => locked_later step accounted.emptied locked
  case holder =>
    rw [run_snoc]
    exact holder_later step accounted.holder
  case checked =>
    intro number ticket wish rest found about
    rw [run_snoc] at found
    rcases checked_before step found about with known | ⟨other, earlier⟩
    · -- The check was just made.
      have now : start.Checked (actions ++ [action] ++ []) number wish.endpoint := by
        refine .since ?_ about ?_ List.not_mem_nil (.inl ?_)
        · rw [run_snoc]
          exact found
        · rw [run_snoc]
          exact known
        · rw [List.append_nil, run_snoc]
          exact known
      rwa [List.append_nil] at now
    · exact checked_snoc (accounted.checked earlier about) other
  case bound =>
    intro endpoint bound
    rw [run_snoc] at bound
    obtain ⟨uncleared, earlier | ⟨number, ticket, wish, rest, rfl, found, about, rfl⟩⟩ :=
      binds_before step bound
    · have known := accounted.bound earlier
      rw [← or_assoc] at known ⊢
      rw [run_snoc]
      exact known.imp (knows_later step uncleared) fun raced => raced_snoc raced uncleared
    · exact bound_now (accounted.checked found about) uncleared

/-- The account is good at the end of every run that starts with a board whose channels have
registered owners and with no request under way, by induction on the run from its end. -/
theorem run_accounted (board : Switchboard) (queues : QueueStore) (owned : board.Owned)
    (actions : List Action) : (around board queues).Accounted actions := by
  induction actions using List.reverseRecOn with
  | nil =>
    constructor
    case emptied => exact nofun
    case holder => exact nofun
    case checked => exact nofun
    case bound => exact fun ⟨binding, bound⟩ => .inl (owned _ binding bound)
  | append_singleton earlier action inductionHypothesis =>
    exact accounted_snoc inductionHypothesis action

/-- A request that gets no turn does not move, however long the run is. -/
theorem ticket_waits (found : room.tickets[number]? = some ticket)
    (waits : .proceed number ∉ actions) : (room.run actions).tickets[number]? = some ticket := by
  induction actions generalizing room with
  | nil => exact found
  | cons action rest inductionHypothesis =>
    obtain ⟨other, later⟩ := not_or.mp (List.mem_cons.not.mp waits)
    exact inductionHypothesis (ticket_later (after_step room action) (Ne.symm other) found) later

/-- A channel that is bound stays so until everything is forgotten, by induction on the actions that
are left. -/
theorem binds_stays (bound : room.Binds endpoint) (kept : ¬ room.Forgets actions) :
    (room.run actions).Binds endpoint := by
  induction actions generalizing room with
  | nil => exact bound
  | cons action rest inductionHypothesis =>
    have uncleared : ¬ room.Clears action := fun clears => kept (.now clears)
    exact inductionHypothesis (binds_later (after_step room action) uncleared bound)
      fun forgets => kept (.later forgets)

/-- A channel that was bound in a race is bound. Its request bound it with the turn that the race
names, and nothing was forgotten since. -/
theorem raced_binds (raced : start.Raced actions endpoint) :
    (start.run actions).Binds endpoint := by
  obtain ⟨found, about, registered, waits, forgotten, kept⟩ := raced
  rename_i before between later number ticket wish rest
  have there : (start.run (before ++ between)).tickets[number]? = some ticket := by
    rw [run_append]
    exact ticket_waits found waits
  have bound := connected_binds there about
  rw [run_append]
  change (((start.run (before ++ between)).after (.proceed number)).run later).Binds wish.endpoint
  exact binds_stays bound fun forgets => kept (.later forgets)

/-- While nobody holds the lock of the modules, and in particular while no request is under way, a
channel of a module that is not registered is bound exactly if everything was forgotten between the
check for its module and the binding, and nothing was forgotten since.

Proof: `run_accounted` keeps an account along the run, by induction from its end. A check that has
not been acted on yet is of a module that is registered, or is being forgotten, or was forgotten
since, and a bound channel has a registered module, unless everything is being forgotten just now,
or was bound in a race. In the other direction the binding of a race stays, as nothing was forgotten
since. Turns come in any order, and only the first board is assumed to have no stray channels. -/
theorem bound_registered_unless_raced (board : Switchboard) (queues : QueueStore)
    (owned : board.Owned) (actions : List Action) :
    let start := around board queues
    let room := start.run actions
    (room.Idle → room.hall.locked = false) ∧
    (room.hall.locked = false → ∀ endpoint, ¬ room.Knows endpoint.module →
      (room.Binds endpoint ↔ start.Raced actions endpoint)) := by
  intro start room
  have accounted : start.Accounted actions := run_accounted board queues owned actions
  constructor
  · intro idle
    by_contra locked
    obtain ⟨_, _, ticket, _, found, clearing⟩ :=
      accounted.holder (Bool.not_eq_false _ ▸ locked)
    obtain ⟨result, answered⟩ := idle ticket (List.mem_of_getElem? found)
    cases clearing.symm.trans answered
  · intro unlocked endpoint unknown
    constructor
    · intro bound
      rcases accounted.bound bound with known | locked | raced
      · exact absurd known unknown
      · cases unlocked.symm.trans locked
      · exact raced
    · exact raced_binds

/-- A switchboard on a host that has just started: no modules, no channels, and nobody who waits. -/
def opened : Switchroom :=
  around (Switchboard.create .empty).1 (Switchboard.create .empty).2

/-- Nothing is bound at the beginning, so every channel that is bound has a registered owner. -/
theorem opened_owned : (Switchboard.create .empty).1.Owned := fun _ _ bound => nomatch bound

/-- A module is registered and found so when a channel of it shall be bound. Then everything is
forgotten, and then the channel is bound. -/
def overtaken : List Action :=
  [.ask (.enroll "M" "class" .empty), .proceed 0,
    .ask (.bind ⟨"M", "out"⟩ ⟨"old", .publisher⟩), .proceed 1,
    .ask .clear, .proceed 2, .proceed 2, .proceed 1]

/-- The three requests of the example have been answered by the end of it, as the theorem asks. -/
theorem overtaken_idle : (opened.run overtaken).Idle := by
  intro ticket listed
  change ticket ∈ [_, _, _] at listed
  simp only [List.mem_cons, List.not_mem_nil, or_false] at listed
  rcases listed with rfl | rfl | rfl <;> exact ⟨_, rfl⟩

/-- The channel is left behind, and in its way when the module is registered again. The next binding
of the same channel is refused, although nobody has bound it since everything was forgotten. -/
theorem stray_left_behind :
    let room := opened.run overtaken
    room.Idle ∧ ¬ room.Knows "M" ∧ opened.Raced overtaken ⟨"M", "out"⟩ ∧
      (room.hall.board.serveAll room.hall.queues [.enroll "M" "class" .empty]).1.bind
          ⟨"M", "out"⟩ ⟨"new", .publisher⟩ =
        .error (.channelConflict "M" "out" "old (publisher)" "new (publisher)") := by
  dsimp only
  have unknown : ¬ (opened.run overtaken).Knows "M" := Bool.false_ne_true
  obtain ⟨unlocked, raced⟩ := bound_registered_unless_raced _ _ opened_owned overtaken
  have bound : (opened.run overtaken).Binds ⟨"M", "out"⟩ := ⟨⟨"old", .publisher⟩, rfl⟩
  exact ⟨overtaken_idle, unknown, (raced (unlocked overtaken_idle) _ unknown).mp bound, rfl⟩

/-- So a channel can outlive its module, also if nobody does more than register a module, bind a
channel and forget everything. -/
theorem binding_outlives_module :
    ¬ ∀ (store : QueueStore) (actions : List Action),
      (∀ request, .ask request ∈ actions → request.Basic) →
      let room := (around (Switchboard.create store).1 (Switchboard.create store).2).run actions
      room.Idle → ∀ endpoint, room.Binds endpoint → room.Knows endpoint.module := by
  intro registered
  have basic : ∀ request, Action.ask request ∈ overtaken → request.Basic := by
    intro request asked
    simp only [overtaken, List.mem_cons, Action.ask.injEq, List.not_mem_nil, reduceCtorEq,
      or_false, false_or] at asked
    rcases asked with rfl | rfl | rfl <;> trivial
  have bound : (opened.run overtaken).Binds ⟨"M", "out"⟩ := ⟨⟨"old", .publisher⟩, rfl⟩
  exact Bool.false_ne_true (registered .empty overtaken basic overtaken_idle _ bound)

end Switchroom

end RelayTree
