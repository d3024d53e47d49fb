import Mathlib.Data.List.Induction
import RelayTree.Proofs.Service.Calls

/-!
# No message is lost, doubled or overtaken

All of this together, for every run of a service: modules, clients and the server add
messages whenever they like, forwarders and loop take their steps in any order, and starts,
stops and reloads go on between them, as often as they are called. `every_message_kept` says
that every message that was accepted can be accounted for at any time. It is in one place on
its lane, once; what was routed was counted once; each queue's messages are routed in the
order in which it accepted them; and when a stop returns, all that ever got into the inbound
queue has been routed.
-/

namespace RelayTree

/-! ## Counting -/

/-- Whether a message was passed on. One that was dropped or refused was not. -/
def Station.isForwarded : Except Failure Delivery → Bool
  | .ok .forwarded => true
  | _ => false

/-- Tallying results one after the other counts those that were passed on, and the others. -/
theorem Station.tally_counts {α : Type} (results : List (α × Except Failure Delivery)) :
    let counters := results.foldl (fun counters result => tally result.2 counters) .zero
    counters.routed = UInt64.ofNat (results.countP (isForwarded ·.2)) ∧
      counters.dropped = UInt64.ofNat (results.countP (!isForwarded ·.2)) := by
  induction results using List.reverseRecOn with
  | nil => exact ⟨rfl, rfl⟩
  | append_singleton earlier last inductionHypothesis =>
    obtain ⟨routed, dropped⟩ := inductionHypothesis
    obtain ⟨message, result⟩ := last
    simp only [List.foldl_append, List.foldl_cons, List.foldl_nil, List.countP_append]
    generalize earlier.foldl (fun counters result => tally result.2 counters) .zero = counters
      at routed dropped ⊢
    match result with
    | .ok .forwarded => simp [tally, Counters.addRouted, isForwarded, routed, dropped]
    | .ok .dropped => simp [tally, Counters.addDropped, isForwarded, routed, dropped]
    | .error failure => simp [tally, Counters.addDropped, isForwarded, routed, dropped]

/-- A move that is not left to others, and so needs no permission. -/
def Move.isOwn : Move → Bool
  | .elsewhere .. => false
  | _ => true

/-- A stop is worked on, be it one of its own or that of a reload. What a reload does behind its
stop is not part of it, and neither is a start. -/
def Phase.stops : Phase → Bool
  | .stopping _ | .joining _ | .closing | .draining | .reopening => true
  | .settled | .starting _ | .replacing => false

namespace Service

open Course

/-! ## Runs -/

variable {start service before after : Service} {moves : List Move} {move : Move}
  {ledger later : Post → List Nat}

/-- Moves that can be made one after the other, each of them allowed at the moment when it is
made. -/
inductive Permitted (start : Service) : List Move → Prop where
  | nil : Permitted start []
  | snoc {moves : List Move} {move : Move} (earlier : Permitted start moves)
      (allowed : (start.run moves).Allows move) : Permitted start (moves ++ [move])

/-- What comes before the last move could be made before it, so that runs can be gone through from
their end. -/
theorem permitted_earlier (permitted : start.Permitted (moves ++ [move])) :
    start.Permitted moves := by
  generalize whole : moves ++ [move] = all at permitted
  cases permitted with
  | nil => simp at whole
  | snoc earlier allowed =>
    obtain ⟨rfl, _⟩ := List.append_inj' whole rfl
    exact earlier

/-- The last of several moves finds the service as the others left it. -/
theorem run_append (start : Service) (moves : List Move) (move : Move) :
    start.run (moves ++ [move]) = (start.run moves).after move := by
  simp [run]

/-- Moves of the service itself can always be made, by induction on them. -/
theorem own_permitted (start : Service) (moves : List Move)
    (own : ∀ move ∈ moves, move.isOwn = true) : start.Permitted moves := by
  induction moves using List.reverseRecOn with
  | nil => exact .nil
  | append_singleton earlier last inductionHypothesis =>
    have lastOwn := own last (by simp)
    refine .snoc (inductionHypothesis fun move member => own move (by simp [member])) ?_
    cases last with
    | elsewhere => cases lastOwn
    | push | gather | dispatch | call | advance | ask => exact trivial

/-- How a ledger goes on with a move: a new number is written down at the entrance, or the
first number of a post moves to the end of the next one, or none. -/
inductive Continues (before after : Service) (ledger : Post → List Nat) :
    (Post → List Nat) → Prop where
  | still (accepted : after.accepted = before.accepted) : Continues before after ledger ledger
  | entered (arrival : Arrival) (accepted : after.accepted = before.accepted ++ [arrival]) :
      Continues before after ledger
        (written ledger before.accepted.length (.queue arrival.door))
  | carried {source target : Post} {number : Nat} {behind : List Nat}
      (accepted : after.accepted = before.accepted) (next : source.next = some target)
      (stands : ledger source = number :: behind) :
      Continues before after ledger (moved ledger number source target)

/-- The ledger of a run, as it is written move by move. It only exists beside the run. -/
inductive Recorded (start : Service) : List Move → (Post → List Nat) → Prop where
  | nil : Recorded start [] fun _ => []
  | snoc {moves : List Move} {move : Move} {ledger later : Post → List Nat}
      (earlier : Recorded start moves ledger)
      (continues : Continues (start.run moves) ((start.run moves).after move) ledger later) :
      Recorded start (moves ++ [move]) later

/-- A ledger accounts for all messages that were accepted: where each one is, in which order, and
what was counted. -/
structure Accounted (service : Service) (ledger : Post → List Nat) : Prop where
  /-- It has the numbers of the messages that are held at each post. -/
  matched : ∀ post, (ledger post).map (fun number => service.accepted[number]?.map (·.message)) =
    (service.holds post).map some
  /-- Each message is at one post on its lane, once. -/
  somewhere : ∀ {number : Nat} {arrival : Arrival}, service.accepted[number]? = some arrival →
    ∃ post ∈ arrival.door.lane, (ledger post).count number = 1 ∧
      ∀ other, other ≠ post → number ∉ ledger other
  /-- What one queue accepted is routed in this order. -/
  ordered : ∀ door, (ledger .routed).filter (comesBy service.accepted door) <+:
    numbersOf service.accepted door
  /-- What was routed was counted once, as passed on or not. -/
  counted : service.station.dispatcher.counters.routed =
      UInt64.ofNat (service.routed.countP (Station.isForwarded ·.2)) ∧
    service.station.dispatcher.counters.dropped =
      UInt64.ofNat (service.routed.countP (!Station.isForwarded ·.2))
  /-- No forwarder finds its output closed. -/
  kept : ∀ forwarder ∈ service.station.gatherers, ∀ message, forwarder.stage = .holding message →
    (service.station.queues.pushBack? forwarder.output message).isSome = true

/-- A stop returns: it was worked on before a move and is not any more after it. -/
def StopReturns (before after : Service) : Prop :=
  before.phase.stops = true ∧ after.phase.stops = false

/-- The inbound queue is open and empty, and every message was routed that is not still in
the queue in which it was accepted, one of the other three. -/
def Drained (service : Service) (ledger : Post → List Nat) : Prop :=
  service.station.queue .inbound = .empty ∧
    ∀ {number : Nat} {arrival : Arrival}, service.accepted[number]? = some arrival →
      number ∈ ledger .routed ∨
        arrival.door ≠ .inbound ∧ number ∈ ledger (.queue arrival.door)

/-! ## One move, and all -/

/-- Right books stay right when they go on with a move. Nothing is written for a quiet one, and one
number is moved by any other. -/
theorem books_continue (books : Books before.accepted before.holds ledger)
    (effect : before.Effect after) :
    ∃ later, before.Continues after ledger later ∧ Books after.accepted after.holds later := by
  cases effect with
  | still accepted same =>
    refine ⟨ledger, .still accepted, ?_⟩
    rw [accepted]
    exact books.still same
  | entered arrival accepted given others =>
    refine ⟨_, .entered arrival accepted, ?_⟩
    rw [accepted]
    exact books.entered arrival given others
  | carried accepted next shift =>
    obtain ⟨number, behind, stands, carried⟩ := books.carried next shift
    refine ⟨_, .carried accepted next stands, ?_⟩
    rw [accepted]
    exact carried

/-- A host that was just created is orderly: its queues are different ones, and nobody works. Its
name does not matter to the queues, so that they can be compared at any one host. -/
theorem create_orderly (host : String) : (create host).Orderly where
  apart := by
    constructor
    · intro one other same
      cases one <;> cases other <;> first | rfl | cases same
    · intro door
      have place : (create host).station.intake door = (create "").station.intake door := by
        cases door <;> rfl
      have outlets : (create host).station.desk.outlets = (create "").station.desk.outlets := rfl
      rw [place, outlets]
      cases door <;> decide
  wired := fun _ _ found => by cases found
  shut := rfl
  idle := fun _ _ found => by cases found
  staffed := fun runs => by cases runs
  emptied := fun shut => by cases shut

/-- Every run of a host has a ledger that is right, is orderly, and was counted. The three are
proved together, by induction on the run, since each move needs that the service was orderly
before. -/
theorem run_books (host : String) (permitted : (create host).Permitted moves) :
    ((create host).run moves).Orderly ∧ ((create host).run moves).Counted ∧
      ∃ ledger, (create host).Recorded moves ledger ∧
        Books ((create host).run moves).accepted ((create host).run moves).holds ledger := by
  induction permitted with
  | nil =>
    have empty : ∀ post, (create host).holds post = [] := by
      intro post
      cases post with
      | queue door => cases door <;> rfl
      | hand | loop | routed => rfl
    exact ⟨create_orderly host, rfl, _, .nil, .nothing empty⟩
  | @snoc moves move earlier allowed inductionHypothesis =>
    obtain ⟨orderly, counted, ledger, recorded, books⟩ := inductionHypothesis
    have proceeds := after_proceeds orderly move allowed
    obtain ⟨later, continues, right⟩ := books_continue books proceeds.effect
    rw [run_append]
    exact ⟨proceeds.orderly, proceeds.counted counted, later, recorded.snoc continues, right⟩

/-- What right books say about an orderly service is all that was promised of them. That no
forwarder loses what it holds comes from the order of things: its output is open as long as it has a
loop. -/
theorem accounted (orderly : service.Orderly) (counted : service.Counted)
    (books : Books service.accepted service.holds ledger) : service.Accounted ledger where
  matched := books.matched
  somewhere := books.exactly_one
  ordered := books.routed_in_order
  counted := by
    rw [counted]
    exact Station.tally_counts service.routed
  kept := by
    intro forwarder member message holding
    obtain ⟨position, _, found⟩ := List.mem_iff_getElem.mp member
    have present := List.getElem?_eq_some_iff.mpr ⟨_, found⟩
    have held : message ∈ forwarder.stage.held := by simp [holding, Stage.held]
    rw [QueueStore.push_open (held_open orderly present message held)]
    rfl

/-- A stop returns when the inbound queue is opened again, and not otherwise. The other moves and
phases are excluded one by one, because a stop is under way before and not after. -/
theorem stop_returns_reopening (returns : StopReturns service (service.after move)) :
    move = .advance ∧ service.phase = .reopening := by
  obtain ⟨stopped, free⟩ := returns
  have unchanged : (service.after move).phase ≠ service.phase := fun same => by
    rw [same, stopped] at free
    cases free
  cases move with
  | gather | dispatch | ask | elsewhere => exact absurd rfl unchanged
  | push door message =>
    refine absurd ?_ unchanged
    rw [after, push]
    split <;> rfl
  | call order =>
    refine absurd ?_ unchanged
    change (service.call order).phase = service.phase
    unfold call
    split
    · rename_i settled
      rw [settled] at stopped
      cases stopped
    · rfl
  | advance =>
    refine ⟨rfl, ?_⟩
    rw [after, advance] at free
    cases phase : service.phase with
    | reopening => rfl
    | settled | starting | replacing =>
      rw [phase] at stopped
      cases stopped
    | stopping | joining | draining =>
      rw [phase] at free
      dsimp only at free
      split at free
      · cases free
      · first
        | cases free
        | rw [phase] at free
          cases free
    | closing =>
      rw [phase] at free
      cases free

/-- Then the inbound queue is empty and open, and nobody has anything in hand. The workers have
gone, and the loop had emptied the queue before it ended. -/
theorem reopened_vacant (orderly : service.Orderly) (phase : service.phase = .reopening) :
    (service.after .advance).station.queue .inbound = .empty ∧
      (∀ door, (service.after .advance).station.hand door = []) ∧
      (service.after .advance).station.loopHand = [] := by
  have staffed := orderly.staffed
  rw [phase] at staffed
  obtain ⟨nobody, loopHand, done⟩ := Station.idle_empty staffed
  have items := orderly.emptied (by rw [phase]; rfl) done
  have opened : (service.after .advance).station = service.station.reopenInbound := by
    simp only [after, advance, phase]
  rw [opened]
  refine ⟨?_, fun door => ?_, loopHand⟩
  · have queue := Station.queue_update orderly.apart .inbound .inbound Queue.reopen
    rw [if_pos rfl, Queue.reopen, items] at queue
    exact queue
  · change service.station.hand door = []
    simp [Station.hand, nobody]

/-- Nothing is left between the queues and the strategies then: every message that came in before
the stop, and was taken, has been routed. -/
theorem reopened_drained (orderly : service.Orderly) (phase : service.phase = .reopening)
    (books : Books (service.after .advance).accepted (service.after .advance).holds ledger) :
    (service.after .advance).Drained ledger := by
  obtain ⟨inbound, hands, loopHand⟩ := reopened_vacant orderly phase
  have vacant : ∀ {post number}, number ∈ ledger post →
      (service.after .advance).holds post ≠ [] := by
    intro post number member empty
    have matched := books.matched post
    rw [empty] at matched
    rw [List.map_eq_nil_iff.mp matched] at member
    cases member
  refine ⟨inbound, fun {number arrival} found => ?_⟩
  obtain ⟨post, lane, once, _⟩ := books.exactly_one found
  have member : number ∈ ledger post := List.count_pos_iff.mp (by omega)
  cases post with
  | routed => exact .inl member
  | hand door => exact absurd (hands door) (vacant member)
  | loop => exact absurd loopHand (vacant member)
  | queue door =>
    have outer : door ≠ .inbound := by
      rintro rfl
      exact vacant member (congrArg Queue.items inbound)
    have own := Door.lane_entrance lane outer
    subst own
    exact .inr ⟨outer, member⟩

/-- At any time, whatever happened in whatever order, there is a ledger that was kept all
along and accounts for every message that was accepted; and if a stop has just returned,
all that got into the inbound queue was routed.

Proof: `run_books` keeps a ledger by induction on the moves, from the last one back. A move can do
four things to the places of messages: nothing, a new entry, a step along a lane, or a message that
is routed; `after_proceeds` says that it does one of them and leaves the service orderly. A stop
that returns has just opened the inbound queue again. Before it did, forwarders and loop had ended
and the queue had been emptied. What others do at the host is restricted only in that it leaves the
queues behind the doors alone. -/
theorem every_message_kept (host : String) (moves : List Move)
    (permitted : (create host).Permitted moves) :
    let service := (create host).run moves
    ∃ ledger, (create host).Recorded moves ledger ∧ service.Accounted ledger ∧
      ∀ earlier move, moves = earlier ++ [move] →
        StopReturns ((create host).run earlier) service → service.Drained ledger := by
  obtain ⟨orderly, counted, ledger, recorded, books⟩ := run_books host permitted
  refine ⟨ledger, recorded, accounted orderly counted books, ?_⟩
  rintro earlier move rfl returns
  have before := (run_books host (permitted_earlier permitted)).1
  rw [run_append] at returns books ⊢
  obtain ⟨rfl, phase⟩ := stop_returns_reopening returns
  exact reopened_drained before phase books

/-- An administrative message for the host, which needs neither module nor client. -/
def notice : Message :=
  ⟨"m", "", ⟨"C", ""⟩, ⟨"S", ""⟩, "", 0, .control ⟨.connectedToServer, "C", ""⟩⟩

/-- A host is set up and started. A client sends the message twice. The stop comes when the
first one is in the hand of a forwarder and the second one in the queue behind it. -/
def stopBetween : List Move :=
  [.call (.reload (Station.aloneWith ["A"])), .advance, .call .start] ++
    List.replicate 4 .advance ++
    [.push .clients notice, .push .clients notice, .gather .clients, .gather .clients,
      .call .stop, .advance, .gather .modules, .advance,
      .advance, .gather .clients, .gather .clients, .advance,
      .advance, .gather .server, .advance, .advance, .advance,
      .push .inbound notice, .dispatch, .dispatch, .dispatch, .advance]

/-- When the stop returns, the first one is routed, and the second one waits for the next
start. -/
theorem stop_between_keeps_both :
    (create "S").Permitted (stopBetween ++ [.advance]) ∧
      StopReturns ((create "S").run stopBetween) ((create "S").run (stopBetween ++ [.advance])) ∧
      ((create "S").run (stopBetween ++ [.advance])).accepted =
        [⟨.clients, notice⟩, ⟨.clients, notice⟩] ∧
      ((create "S").run (stopBetween ++ [.advance])).routed = [(notice, .ok .forwarded)] ∧
      ∃ ledger, (create "S").Recorded (stopBetween ++ [.advance]) ledger ∧
        ((create "S").run (stopBetween ++ [.advance])).Accounted ledger ∧
        ((create "S").run (stopBetween ++ [.advance])).Drained ledger := by
  have permitted : (create "S").Permitted (stopBetween ++ [.advance]) :=
    own_permitted _ _ (by decide)
  have returns : StopReturns ((create "S").run stopBetween)
      ((create "S").run (stopBetween ++ [.advance])) := ⟨rfl, rfl⟩
  refine ⟨permitted, returns, rfl, rfl, ?_⟩
  obtain ⟨ledger, recorded, accounted, drained⟩ := every_message_kept "S" _ permitted
  exact ⟨ledger, recorded, accounted, drained stopBetween .advance rfl returns⟩

end Service

end RelayTree
