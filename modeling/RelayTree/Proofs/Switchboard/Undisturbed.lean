import RelayTree.Proofs.Dispatcher.Reachability
import RelayTree.Switchboard.Switchroom

/-!
# Requests that nothing comes in between

`Switchboard.serve` says at once what comes of a request. A switchroom takes the same request
through its sections, with anything else in between. `undisturbed_served` ties the two together:
a request that is made while nobody holds a lock, and that then has all turns to itself, gets
the same answer and leaves the same behind.
-/

namespace RelayTree

namespace Ticket

/-- With all turns to itself, a request gets from one point to another. The number of turns is left
open, since a request has as many as it has sections. -/
inductive Gets : Hall → Ticket → Hall → Ticket → Prop where
  | here {hall : Hall} {ticket : Ticket} : Gets hall ticket hall ticket
  | turn {hall last : Hall} {ticket answered : Ticket}
    (rest : Gets (ticket.proceed hall).hall (ticket.proceed hall).ticket last answered) :
    Gets hall ticket last answered

variable {hall middle last : Hall} {ticket halfway answered : Ticket} {request : Request}
  {connection : Option String} {board : Switchboard} {queues : QueueStore}

/-- A request that gets from one point to another and from there to a third has got to the third, in
the turns of both stretches. -/
theorem gets_trans (first : Gets hall ticket middle halfway)
    (second : Gets middle halfway last answered) : Gets hall ticket last answered := by
  induction first with
  | here => exact second
  | turn _ inductionHypothesis => exact .turn (inductionHypothesis second)

/-- A request whose next section is known gets from where that section leaves it. All proofs below
are chains of such steps. -/
theorem gets_turn {left : Section} (first : ticket.proceed hall = left)
    (rest : Gets left.hall left.ticket last answered) : Gets hall ticket last answered :=
  .turn (first ▸ rest)

/-! ## Binding -/

section Binding

variable {wish : Wish} {left : List Wish}

/-- A module that is registered may bind a channel, and the request goes on with the check in
hand. -/
theorem check_known (known : board.checkModule wish.endpoint.module = .ok ()) :
    ticket.check ⟨board, queues, false⟩ wish left =
      ticket.reaching (.checked wish left) ⟨board, queues, false⟩ := by
  simp only [check, unless_unlocked, known]

/-- Any other module may not, and that is the answer. -/
theorem check_unknown {failure : Failure}
    (unknown : board.checkModule wish.endpoint.module = .error failure) :
    ticket.check ⟨board, queues, false⟩ wish left =
      ticket.answering (.error failure) ⟨board, queues, false⟩ := by
  simp only [check, unless_unlocked, unknown]

/-- A channel that can be bound is bound in two turns, and then the next one follows. The first turn
finds the module registered, and nobody comes in before the second. -/
theorem gets_bound {changed : Switchboard}
    (about : ticket.proceed ⟨board, queues, false⟩ = ticket.check ⟨board, queues, false⟩ wish left)
    (bound : board.bind wish.endpoint wish.binding = .ok changed) :
    Gets ⟨board, queues, false⟩ ticket ⟨changed, queues, false⟩
      { ticket with progress := .rest left } := by
  unfold Switchboard.bind at bound
  split at bound
  · cases bound
  · rename_i known
    cases free : board.channels.bind wish.endpoint wish.binding with
    | error failure =>
      rw [Switchboard.bindChannel, free] at bound
      cases bound
    | ok channels =>
      rw [Switchboard.bindChannel, free] at bound
      cases bound
      have connected (ticket : Ticket) : ticket.connect ⟨board, queues, false⟩ wish left =
          ticket.reaching (.rest left) (Hall.rewired ⟨board, queues, false⟩ channels) := by
        rw [connect, free]
      exact gets_turn (about.trans (check_known known)) (gets_turn (connected _) .here)

/-- A channel that cannot be bound ends the request, be it for want of a registered module or
because it is bound to something else. -/
theorem gets_unbound {failure : Failure}
    (about : ticket.proceed ⟨board, queues, false⟩ = ticket.check ⟨board, queues, false⟩ wish left)
    (refused : board.bind wish.endpoint wish.binding = .error failure) :
    Gets ⟨board, queues, false⟩ ticket ⟨board, queues, false⟩
      { ticket with progress := .answered (.error failure) } := by
  unfold Switchboard.bind at refused
  split at refused
  · rename_i unknown
    cases refused
    exact gets_turn (about.trans (check_unknown unknown)) .here
  · rename_i known
    cases taken : board.channels.bind wish.endpoint wish.binding with
    | ok channels =>
      rw [Switchboard.bindChannel, taken] at refused
      cases refused
    | error reason =>
      rw [Switchboard.bindChannel, taken] at refused
      cases refused
      have conflict (ticket : Ticket) : ticket.connect ⟨board, queues, false⟩ wish left =
          ticket.answering (.error failure) ⟨board, queues, false⟩ := by
        rw [connect, taken]
      exact gets_turn (about.trans (check_known known)) (gets_turn (conflict _) .here)

/-- When no channel is left to be bound, the request is done. This is how the two ways of telling
the end of a registration agree. -/
theorem answered_rest (result : Except Failure Unit) :
    (match result with
      | .ok () => Progress.rest []
      | .error failure => .answered (.error failure)) = .answered (result.map fun _ => .done) := by
  cases result <;> rfl

/-- The channels that a module binds in one role, as the wishes that a request carries from section
to section. -/
def wishesOf (module : String) (role : Role) (entries : List (String × String)) : List Wish :=
  entries.map fun entry => ⟨⟨module, entry.1⟩, ⟨entry.2, role⟩⟩

/-- Channels are bound one after the other, up to the first one that cannot be. -/
theorem gets_each (request : Request) (module : String) (role : Role)
    (entries : List (String × String)) (left : List Wish) (board : Switchboard)
    (queues : QueueStore) :
    Gets ⟨board, queues, false⟩ ⟨request, none, .rest (wishesOf module role entries ++ left)⟩
      ⟨(board.bindEach module role entries).state, queues, false⟩
      ⟨request, none, match (board.bindEach module role entries).result with
        | .ok () => .rest left
        | .error failure => .answered (.error failure)⟩ := by
  induction entries generalizing board with
  | nil => exact .here
  | cons entry rest inductionHypothesis =>
    obtain ⟨channel, connection⟩ := entry
    rw [Switchboard.bindEach]
    split
    · rename_i changed bound
      exact gets_trans (gets_bound rfl bound) (inductionHypothesis changed)
    · rename_i failure refused
      exact gets_unbound rfl refused

end Binding

/-- A module is entered, and then its channels are bound, outputs before inputs. Where the outputs
fail the inputs are not tried, in pieces as well as in one. -/
theorem gets_registered (spec : ModuleSpec) (board : Switchboard) (queues : QueueStore) :
    Gets ⟨board, queues, false⟩ (of (.register spec)) ⟨(board.register spec).state, queues, false⟩
      ⟨.register spec, none, .answered ((board.register spec).result.map fun _ => .done)⟩ := by
  cases entered : board.registry.add spec.id spec.className spec.properties with
  | error failure =>
    have refused : (of (.register spec)).proceed ⟨board, queues, false⟩ =
        (of (.register spec)).answering (.error failure) ⟨board, queues, false⟩ := by
      simp only [proceed, of, begin, unless_unlocked, entered]
      rfl
    rw [Switchboard.register, entered]
    exact gets_turn refused .here
  | ok registry =>
    have begun : (of (.register spec)).proceed ⟨board, queues, false⟩ =
        (of (.register spec)).reaching (.rest spec.wishes)
          ⟨{ board with registry := registry }, queues, false⟩ := by
      simp only [proceed, of, begin, unless_unlocked, entered]
      rfl
    refine gets_turn begun ?_
    rw [Switchboard.register, entered]
    have outputs := gets_each (.register spec) spec.id .publisher spec.outputs.entries
      (wishesOf spec.id .subscriber spec.inputs.entries) { board with registry := registry } queues
    cases done : (Switchboard.bindEach { board with registry := registry } spec.id .publisher
      spec.outputs.entries).result with
    | error failure =>
      simp only [done, Outcome.andThen] at outputs ⊢
      exact outputs
    | ok _ =>
      simp only [done, Outcome.andThen] at outputs ⊢
      refine gets_trans outputs ?_
      have inputs := gets_each (.register spec) spec.id .subscriber spec.inputs.entries []
        (Switchboard.bindEach { board with registry := registry } spec.id .publisher
          spec.outputs.entries).state queues
      rw [List.append_nil, answered_rest] at inputs
      exact inputs

/-! ## Publishing -/

/-- Copies are made one after the other and counted, by induction on the subscribers. The count that
is carried along is added to the copies that are still made. -/
theorem gets_copied (request : Request) (connection : Option String) (name : String)
    (message : Message) (subscribers : List Endpoint) (count : Nat) (board : Switchboard)
    (queues : QueueStore) :
    let copied := Switchboard.copyToEach board.registry name message subscribers queues
    Gets ⟨board, queues, false⟩ ⟨request, connection, .copying message subscribers count⟩
      ⟨board, copied.state, false⟩
      ⟨request, connection, .answered (copied.result.map fun copies => .copies (count + copies))⟩ := by
  induction subscribers generalizing count queues with
  | nil => exact gets_turn rfl .here
  | cons subscriber rest inductionHypothesis =>
    cases runs : board.registry.outputQueue? subscriber.module with
    | none =>
      have skipped (ticket : Ticket) : ticket.copy ⟨board, queues, false⟩ message count
          (subscriber :: rest) = ticket.reaching (.copying message rest count)
            ⟨board, queues, false⟩ := by
        simp only [copy, unless_unlocked, runs]
      rw [Switchboard.copyToEach, runs]
      exact gets_turn (skipped _) (inductionHypothesis count queues)
    | some queue =>
      have found (ticket : Ticket) : ticket.copy ⟨board, queues, false⟩ message count
          (subscriber :: rest) = ticket.reaching (.sending message subscriber queue rest count)
            ⟨board, queues, false⟩ := by
        simp only [copy, unless_unlocked, runs]
      refine gets_turn (found _) ?_
      rw [Switchboard.copyToEach, runs]
      cases taken : queues.pushBack? queue (Switchboard.copyFor subscriber message) with
      | none =>
        have passed (ticket : Ticket) : ticket.send ⟨board, queues, false⟩ message subscriber queue
            rest count = ticket.reaching (.copying message rest count) ⟨board, queues, false⟩ := by
          simp only [send, taken]
        simp only [taken]
        exact gets_turn (passed _) (inductionHypothesis count queues)
      | some changed =>
        have sent (ticket : Ticket) : ticket.send ⟨board, queues, false⟩ message subscriber queue
            rest count = { ticket.reaching (.copying message rest (count + 1))
              ⟨board, changed, false⟩ with
              sent := [⟨queue, Switchboard.copyFor subscriber message⟩] } := by
          simp only [send, taken]
        simp only [taken]
        refine gets_turn (sent _) ?_
        have one_more (copied : Outcome QueueStore Nat) :
            ((copied.map (· + 1)).result.map fun copies => Reply.copies (count + copies)) =
              copied.result.map fun copies => .copies (count + 1 + copies) := by
          obtain ⟨result, _, _⟩ := copied
          cases result with
          | error failure => rfl
          | ok copies => simp only [Outcome.map, Except.map]; congr 2; omega
        rw [one_more]
        exact inductionHypothesis (count + 1) changed

/-- A message that the channels take has its connection looked up, and its type fixed if that is
open. -/
theorem gets_accepted {message : Message} {name : String} {subscribers : List Endpoint}
    {channels : Channels}
    (accepted : board.channels.accept message = .ok (name, subscribers, channels)) :
    Gets ⟨board, queues, false⟩ (of (.publish message))
      ⟨{ board with channels := channels }, queues, false⟩
      ⟨.publish message, some name, .copying message subscribers 0⟩ := by
  cases looked : board.channels.publication message with
  | error failure =>
    rw [Channels.accept, looked] at accepted
    cases accepted
  | ok found =>
    obtain ⟨connection, agreed, receivers⟩ := found
    simp only [Channels.accept, looked] at accepted
    cases agreed with
    | some tag =>
      by_cases same : tag = message.tag
      · simp only [if_pos same] at accepted
        cases accepted
        have right : (of (.publish message)).lookUp ⟨board, queues, false⟩ message =
            reaching ⟨.publish message, some name, .asked⟩ (.copying message subscribers 0)
              ⟨board, queues, false⟩ := by
          simp only [lookUp, looked, if_pos same]
          rfl
        exact gets_turn right .here
      · simp only [if_neg same] at accepted
        cases accepted
    | none =>
      cases settled : board.channels.settle connection message with
      | error failure =>
        simp only [settled] at accepted
        cases accepted
      | ok result =>
        obtain ⟨receivers, changed⟩ := result
        simp only [settled] at accepted
        cases accepted
        have opened : (of (.publish message)).lookUp ⟨board, queues, false⟩ message =
            reaching ⟨.publish message, some name, .asked⟩ (.settling message name)
              ⟨board, queues, false⟩ := by
          simp only [lookUp, looked]
          rfl
        have fixed (ticket : Ticket) : ticket.settle ⟨board, queues, false⟩ message name =
            ticket.reaching (.copying message receivers 0)
              ⟨{ board with channels := changed }, queues, false⟩ := by
          simp only [settle, settled]
          rfl
        exact gets_turn opened (gets_turn (fixed _) .here)

/-- A message that the channels refuse is refused when it is looked up, or when it comes to fix
the type. -/
theorem gets_refused {message : Message} {failure : Failure}
    (refused : board.channels.accept message = .error failure) :
    ∃ connection, Gets ⟨board, queues, false⟩ (of (.publish message)) ⟨board, queues, false⟩
      ⟨.publish message, connection, .answered (.error failure)⟩ := by
  cases looked : board.channels.publication message with
  | error reason =>
    rw [Channels.accept, looked] at refused
    cases refused
    have unplaced : (of (.publish message)).lookUp ⟨board, queues, false⟩ message =
        (of (.publish message)).answering (.error failure) ⟨board, queues, false⟩ := by
      simp only [lookUp, looked]
    exact ⟨none, gets_turn unplaced .here⟩
  | ok found =>
    obtain ⟨name, agreed, receivers⟩ := found
    simp only [Channels.accept, looked] at refused
    refine ⟨some name, ?_⟩
    cases agreed with
    | some tag =>
      by_cases same : tag = message.tag
      · simp only [if_pos same] at refused
        cases refused
      · simp only [if_neg same] at refused
        cases refused
        have wrong : (of (.publish message)).lookUp ⟨board, queues, false⟩ message =
            answering ⟨.publish message, some name, .asked⟩
              (.error (.channelTypeMismatch name message.source.module tag message.tag))
              ⟨board, queues, false⟩ := by
          simp only [lookUp, looked, if_neg same]
          rfl
        exact gets_turn wrong .here
    | none =>
      cases settled : board.channels.settle name message with
      | ok result =>
        simp only [settled] at refused
        cases refused
      | error reason =>
        simp only [settled] at refused
        cases refused
        have opened : (of (.publish message)).lookUp ⟨board, queues, false⟩ message =
            reaching ⟨.publish message, some name, .asked⟩ (.settling message name)
              ⟨board, queues, false⟩ := by
          simp only [lookUp, looked]
          rfl
        have late (ticket : Ticket) : ticket.settle ⟨board, queues, false⟩ message name =
            ticket.answering (.error failure) ⟨board, queues, false⟩ := by
          simp only [settle, settled]
        exact gets_turn opened (gets_turn (late _) .here)

/-- A publication is refused, or copied to the subscribers of its connection. Whether its connection
had a type when it was looked up makes a difference to the sections and none to the outcome. -/
theorem gets_published (message : Message) (board : Switchboard) (queues : QueueStore) :
    let published := board.publish queues message
    ∃ connection, Gets ⟨board, queues, false⟩ (of (.publish message))
      ⟨published.state.1, published.state.2, false⟩
      ⟨.publish message, connection, .answered (published.result.map .copies)⟩ := by
  cases accepted : board.channels.accept message with
  | error failure =>
    simp only [Switchboard.publish, accepted]
    exact gets_refused accepted
  | ok found =>
    obtain ⟨name, subscribers, channels⟩ := found
    have copied := gets_copied (.publish message) (some name) name message subscribers 0
      { board with channels := channels } queues
    simp only [Nat.zero_add] at copied
    simp only [Switchboard.publish, accepted]
    exact ⟨some name, gets_trans (gets_accepted accepted) copied⟩

/-! ## All requests -/

/-- A change of the modules is entered in one turn, accepted or refused. -/
theorem gets_entered {change : Except Failure (Registry × QueueStore)}
    (entered : (of request).proceed ⟨board, queues, false⟩ =
      (of request).enter ⟨board, queues, false⟩ (.answered (.ok .done)) change) :
    let enrolled := board.enrolled queues change
    Gets ⟨board, queues, false⟩ (of request) ⟨enrolled.state.1, enrolled.state.2, false⟩
      ⟨request, none, .answered enrolled.result⟩ := by
  refine gets_turn entered ?_
  cases change with
  | error failure => exact .here
  | ok changed => exact .here

/-- With all turns to itself, a request gets the answer that it gets at once. Each kind of request
has been followed through its sections, and the board it leaves is the same too. -/
theorem gets_served (request : Request) (board : Switchboard) (queues : QueueStore) :
    let served := board.serve queues request
    ∃ connection, Gets ⟨board, queues, false⟩ (of request)
      ⟨served.state.1, served.state.2, false⟩ ⟨request, connection, .answered served.result⟩ := by
  cases request with
  | enroll module className properties =>
    refine ⟨none, gets_entered ?_⟩
    simp only [proceed, of, begin, unless_unlocked]
  | place module runtime =>
    refine ⟨none, gets_entered ?_⟩
    simp only [proceed, of, begin, unless_unlocked]
  | bind endpoint binding =>
    have about : (of (.bind endpoint binding)).proceed ⟨board, queues, false⟩ =
        (of (.bind endpoint binding)).check ⟨board, queues, false⟩ ⟨endpoint, binding⟩ [] := rfl
    refine ⟨none, ?_⟩
    cases bound : board.bind endpoint binding with
    | error failure =>
      simp only [Switchboard.serve, bound]
      exact gets_unbound about bound
    | ok changed =>
      simp only [Switchboard.serve, bound]
      exact gets_bound about bound
  | present module samples => exact ⟨none, .turn .here⟩
  | publish message => exact gets_published message board queues
  | register spec => exact ⟨none, gets_registered spec board queues⟩
  | clear =>
    have begun : (of .clear).proceed ⟨board, queues, false⟩ = (of .clear).reaching .clearing
        ⟨{ board with registry := board.registry.clear }, queues, true⟩ := by
      simp only [proceed, of, begin, unless_unlocked]
      rfl
    exact ⟨none, gets_turn begun (.turn .here)⟩

end Ticket

namespace Switchroom

variable {room : Switchroom}

/-- What a request gets to with all turns to itself, it gets to in a room in which nobody else
moves. -/
theorem run_gets {last : Hall} {ticket answered : Ticket} {number : Nat}
    (gets : Ticket.Gets room.hall ticket last answered)
    (found : room.tickets[number]? = some ticket) :
    ∃ turns, (room.run (List.replicate turns (.proceed number))).hall = last ∧
      (room.run (List.replicate turns (.proceed number))).tickets =
        room.tickets.set number answered := by
  generalize same : room.hall = hall at gets
  induction gets generalizing room with
  | here =>
    obtain ⟨_, rfl⟩ := List.getElem?_eq_some_iff.mp found
    exact ⟨0, same, (List.set_getElem_self _).symm⟩
  | turn rest inductionHypothesis =>
    rename_i hall last ticket answered
    subst same
    have there := (List.getElem?_eq_some_iff.mp found).1
    have moved : room.proceed number = room.adopt number (ticket.proceed room.hall) := by
      rw [proceed, found]
    have next : (room.proceed number).tickets[number]? =
        some (ticket.proceed room.hall).ticket := by
      rw [moved, adopt, List.getElem?_set_self there]
    obtain ⟨turns, ended, tickets⟩ := inductionHypothesis next (by rw [moved]; rfl)
    refine ⟨turns + 1, ended, tickets.trans ?_⟩
    rw [moved, adopt, List.set_set]

/-- A request that is made while nobody holds a lock, and that nobody else comes in between, is
answered as if it had been served at once, and leaves the same behind. -/
theorem undisturbed_served (room : Switchroom) (free : room.hall.locked = false)
    (request : Request) :
    ∃ turns connection,
      let served := room.hall.board.serve room.hall.queues request
      let later := room.run (.ask request :: List.replicate turns (.proceed room.tickets.length))
      later.hall = ⟨served.state.1, served.state.2, false⟩ ∧
        later.tickets = room.tickets ++ [⟨request, connection, .answered served.result⟩] := by
  obtain ⟨connection, gets⟩ := Ticket.gets_served request room.hall.board room.hall.queues
  have asked : (room.after (.ask request)).tickets[room.tickets.length]? = some (.of request) := by
    simp [after]
  have shared : (room.after (.ask request)).hall =
      ⟨room.hall.board, room.hall.queues, false⟩ := by
    rw [← free]
    rfl
  rw [← shared] at gets
  obtain ⟨turns, hall, tickets⟩ := run_gets gets asked
  refine ⟨turns, connection, hall, tickets.trans ?_⟩
  simp [after]

end Switchroom

end RelayTree
