import RelayTree.Proofs.Switchboard.Standing

/-!
# A type is agreed on once

However many callers use a switchboard at once, a type that was agreed on for a connection
stays, as long as nobody forgets everything. A turn of one request keeps what is known of it and
of all others, of the samples that were applied and of the copies that were sent, and so does a
whole run. Who succeeds then did so with the agreed type, and who comes too late with another
one is refused.
-/

namespace RelayTree

namespace Switchroom

variable {start room : Switchroom} {action : Action}

/-- The channels as they are, with whatever the requests under way have done to them so far. -/
def channels (room : Switchroom) : Channels := room.hall.board.channels

/-- What holds at every moment while nothing is forgotten: no lock is held from one section to the
next, every request stands where it can, and what is on record has the type that is agreed on. -/
structure Orderly (room : Switchroom) : Prop where
  unlocked : room.hall.locked = false
  grounded : room.channels.Grounded
  stands : ∀ {number : Nat} {ticket : Ticket}, room.tickets[number]? = some ticket →
    ticket.Stands room.channels
  applied : ∀ entry ∈ room.applied,
    room.channels.tagOf entry.connection = some entry.sample.tag
  sent : ∀ entry ∈ room.sent,
    ∃ ticket : Ticket, room.tickets[entry.1]? = some ticket ∧ ticket.Settled room.channels

/-- At the beginning there is nothing on record and nobody waits, so all that is asked for is that
the channels are grounded. -/
theorem around_orderly (board : Switchboard) (queues : QueueStore)
    (grounded : board.channels.Grounded) : (around board queues).Orderly where
  unlocked := rfl
  grounded := grounded
  stands := fun found => nomatch found
  applied := fun _ none => nomatch none
  sent := fun _ none => nomatch none

/-- A new request has nothing to do with those before. It stands at its beginning, where nothing is
known of it and nothing is needed. -/
theorem ask_orderly (orderly : room.Orderly) {request : Request} (other : request ≠ .clear) :
    (room.after (.ask request)).Orderly where
  unlocked := orderly.unlocked
  grounded := orderly.grounded
  stands := by
    intro number ticket found
    simp only [after, List.getElem?_append] at found
    split at found
    · exact orderly.stands found
    · obtain ⟨_, rfl⟩ := List.getElem?_eq_some_iff.mp found
      simp only [List.getElem_singleton]
      exact .asked other
  applied := orderly.applied
  sent := by
    intro entry listed
    obtain ⟨ticket, found, settled⟩ := orderly.sent entry listed
    have there := (List.getElem?_eq_some_iff.mp found).1
    exact ⟨ticket, (List.getElem?_append_left there).trans found, settled⟩

/-- A turn of one request, as the others see it: the channels are extended, and whatever stood in
the earlier channels stands in the extended ones. -/
theorem adopt_orderly (orderly : room.Orderly) {number : Nat} {ticket : Ticket} {left : Section}
    (found : room.tickets[number]? = some ticket) (lawful : ticket.Lawful room.hall left) :
    (room.adopt number left).Orderly := by
  have there : number < room.tickets.length := (List.getElem?_eq_some_iff.mp found).1
  refine ⟨lawful.unlocked, lawful.extended.grounded orderly.grounded, ?_, ?_, ?_⟩
  · intro other moved present
    by_cases own : other = number
    · subst own
      rw [adopt, List.getElem?_set_self there] at present
      cases present
      exact lawful.stands
    · rw [adopt, List.getElem?_set_ne (Ne.symm own)] at present
      exact Ticket.stands_later lawful.extended (orderly.stands present)
  · intro entry listed
    rcases List.mem_append.mp listed with earlier | new
    · exact lawful.extended.tags (orderly.applied entry earlier)
    · exact lawful.applied entry new
  · intro entry listed
    rcases List.mem_append.mp listed with earlier | new
    · obtain ⟨other, place, settled⟩ := orderly.sent entry earlier
      by_cases own : entry.1 = number
      · -- The copy is an earlier one of the same request.
        cases found.symm.trans (own ▸ place)
        obtain ⟨message, name, request, connection, agreed⟩ := settled
        exact ⟨left.ticket, by simp [adopt, own, there], message, name,
          lawful.request.trans request, lawful.connection connection, lawful.extended.tags agreed⟩
      · refine ⟨other, ?_, Ticket.settled_later lawful.extended settled⟩
        rw [adopt, List.getElem?_set_ne (Ne.symm own)]
        exact place
    · obtain ⟨copy, copied, rfl⟩ := List.mem_map.mp new
      exact ⟨left.ticket, by simp [adopt, there], lawful.sent (List.ne_nil_of_mem copied)⟩

/-- Every action keeps order and extends the channels, provided it does not ask to forget
everything. What others do with the queues is not looked at. -/
theorem after_orderly (orderly : room.Orderly) (other : action ≠ .ask .clear) :
    (room.after action).Orderly ∧
      Channels.Extends room.channels (room.after action).channels := by
  cases action with
  | ask request =>
    have known : request ≠ .clear := fun clear => other (congrArg Action.ask clear)
    exact ⟨ask_orderly orderly known, Channels.extends_refl _⟩
  | elsewhere queues =>
    exact ⟨⟨orderly.unlocked, orderly.grounded, orderly.stands, orderly.applied, orderly.sent⟩,
      Channels.extends_refl _⟩
  | proceed number =>
    cases found : room.tickets[number]? with
    | none =>
      simp only [after, proceed, found]
      exact ⟨orderly, Channels.extends_refl _⟩
    | some ticket =>
      simp only [after, proceed, found]
      have lawful := Ticket.proceed_lawful orderly.unlocked orderly.grounded (orderly.stands found)
      exact ⟨adopt_orderly orderly found lawful, lawful.extended⟩

/-- So does every run in which nobody asks to forget everything, by induction on the run from its
end. -/
theorem run_orderly (orderly : start.Orderly) (actions : List Action)
    (uncleared : .ask .clear ∉ actions) :
    (start.run actions).Orderly ∧
      Channels.Extends start.channels (start.run actions).channels := by
  induction actions using List.reverseRecOn with
  | nil => exact ⟨orderly, Channels.extends_refl _⟩
  | append_singleton earlier action inductionHypothesis =>
    obtain ⟨before, last⟩ := not_or.mp (List.mem_append.not.mp uncleared)
    obtain ⟨kept, extended⟩ := inductionHypothesis before
    have other : action ≠ .ask .clear := fun clear => last (List.mem_singleton.mpr clear.symm)
    obtain ⟨keeps, further⟩ := after_orderly kept other
    rw [run, List.foldl_append]
    exact ⟨keeps, Channels.extends_trans extended further⟩

/-! ## What publishers find -/

/-- A publication that belongs to a connection: it was found there, or will be found there when
it is looked up. -/
def Heads (room : Switchroom) (number : Nat) (message : Message) (name : String) : Prop :=
  ∃ ticket : Ticket, room.tickets[number]? = some ticket ∧ ticket.request = .publish message ∧
    (ticket.connection = some name ∨ ticket.progress = .asked ∧
      room.channels.Publishes message name)

/-- A publication that succeeded, on the connection that it was found to belong to. It may have had
no subscribers, and then it has succeeded without a single copy. -/
def Copied (room : Switchroom) (number : Nat) (message : Message) (connection : Option String) :
    Prop :=
  ∃ reply, room.tickets[number]? = some ⟨.publish message, connection, .answered (.ok reply)⟩

/-- A publication that was refused for its type, as the failure says it: with the connection, the
publisher, the agreed type and the one it came with. -/
def Refused (room : Switchroom) (number : Nat) (message : Message) (name tag : String) : Prop :=
  room.tickets[number]? = some ⟨.publish message, some name,
    .answered (.error (.channelTypeMismatch name message.source.module tag message.tag))⟩

variable {number : Nat} {message : Message} {name tag : String}

/-- A publication succeeds on the connection of its sender, with the type agreed on there. -/
theorem copied_agreed (orderly : room.Orderly) {connection : Option String}
    (copied : room.Copied number message connection) :
    ∃ name, connection = some name ∧
      room.channels.Publishes message name ∧
      room.channels.tagOf name = some message.tag := by
  obtain ⟨reply, found⟩ := copied
  cases orderly.stands found with
  | done silent => cases silent
  | copied publishes agreed => exact ⟨_, rfl, publishes, agreed⟩

/-- A publication with another type than the agreed one has not sent any copy. Whoever sent one had
the agreed type at the time, and it has not changed since. -/
theorem mismatch_unsent (orderly : room.Orderly) (heads : room.Heads number message name)
    (agreed : room.channels.tagOf name = some tag) (different : tag ≠ message.tag) :
    ∀ entry ∈ room.sent, entry.1 ≠ number := by
  rintro entry listed rfl
  obtain ⟨⟨request, connection, progress⟩, found, sent, place, rfl, rfl, own⟩ :=
    orderly.sent entry listed
  obtain ⟨ticket, same, request, belongs⟩ := heads
  cases found.symm.trans same
  cases request
  rcases belongs with located | ⟨asked, _⟩
  · cases located
    exact different (Option.some.inj (agreed.symm.trans own))
  · cases asked
    cases orderly.stands found

/-- With its next turn, if not before, it is refused. A publication that found no type compares
again when it comes to fix one, and that is where the race is decided. -/
theorem mismatch_refused (orderly : room.Orderly) (heads : room.Heads number message name)
    (agreed : room.channels.tagOf name = some tag) (different : tag ≠ message.tag) :
    (room.proceed number).Refused number message name tag := by
  obtain ⟨⟨request, connection, progress⟩, found, rfl, belongs⟩ := heads
  have there := (List.getElem?_eq_some_iff.mp found).1
  rw [Refused, proceed, found]
  simp only [adopt, List.getElem?_set_self there, Option.some.injEq]
  exact Ticket.proceed_mismatch orderly.grounded (orderly.stands found) belongs agreed different

/-- While nothing is forgotten, the type of a connection is written once, whatever callers come
in between. It stays; publications succeed and samples are applied with this type only, so no
two publications with different types succeed on one connection; and a publication that comes
too late with another type is refused with its next turn, if it was not before, and sends
nothing.

Proof: `Orderly` is kept by every turn of every request, and no turn takes back what was agreed on;
`run_orderly` carries both over the run. For the first statement the run is cut in two at the
earlier moment. The others are read off the room as it is at the end: the record of what was sent
and applied has the agreed types, and a request that stands where it publishes either found the type
or compares it in its next turn. Nothing is assumed about whose turn it is. -/
theorem types_written_once (board : Switchboard) (queues : QueueStore)
    (grounded : board.channels.Grounded) (actions : List Action)
    (uncleared : .ask .clear ∉ actions) :
    let room := (around board queues).run actions
    (∀ earlier later, actions = earlier ++ later → ∀ name tag,
      ((around board queues).run earlier).channels.tagOf name = some tag →
        room.channels.tagOf name = some tag) ∧
    (∀ number message connection, room.Copied number message connection →
      ∃ name, connection = some name ∧
        room.channels.Publishes message name ∧
        room.channels.tagOf name = some message.tag) ∧
    (∀ entry ∈ room.applied, room.channels.tagOf entry.connection = some entry.sample.tag) ∧
    (∀ one other first second connection, room.Copied one first connection →
      room.Copied other second connection → first.tag = second.tag) ∧
    (∀ number message name tag, room.Heads number message name →
      room.channels.tagOf name = some tag → tag ≠ message.tag →
        (room.proceed number).Refused number message name tag ∧
        ∀ entry ∈ (room.proceed number).sent, entry.1 ≠ number) := by
  intro room
  have begins := around_orderly board queues grounded
  have orderly : room.Orderly := (run_orderly begins actions uncleared).1
  refine ⟨?_, fun _ _ _ => copied_agreed orderly, orderly.applied, ?_, ?_⟩
  · rintro earlier later rfl name tag agreed
    obtain ⟨before, after⟩ := not_or.mp (List.mem_append.not.mp uncleared)
    have middle := (run_orderly begins earlier before).1
    have run_on : room = ((around board queues).run earlier).run later := by
      simp only [room, run, List.foldl_append]
    rw [run_on]
    exact (run_orderly middle later after).2.tags agreed
  · intro one other first second connection copied again
    obtain ⟨name, rfl, _, agreed⟩ := copied_agreed orderly copied
    obtain ⟨_, same, _, also⟩ := copied_agreed orderly again
    cases same
    exact Option.some.inj (agreed.symm.trans also)
  · intro number message name tag heads agreed different
    have refused := mismatch_refused orderly heads agreed different
    have unclear : Action.proceed number ≠ .ask .clear := Action.noConfusion
    obtain ⟨still, extended⟩ := after_orderly orderly unclear
    have answered : (room.proceed number).Heads number message name :=
      ⟨_, refused, rfl, .inl rfl⟩
    exact ⟨refused, mismatch_unsent still answered (extended.tags agreed) different⟩

/-- A host with two modules that publish on one connection, and one that listens there. -/
def newsroom : Switchboard × QueueStore :=
  (Switchboard.create .empty).1.serveAll (Switchboard.create .empty).2
    [.enroll "A" "class" .empty, .enroll "B" "class" .empty, .enroll "L" "class" .empty,
      .bind ⟨"A", "out"⟩ ⟨"c", .publisher⟩, .bind ⟨"B", "out"⟩ ⟨"c", .publisher⟩,
      .bind ⟨"L", "in"⟩ ⟨"c", .subscriber⟩, .place "L" "runtime"]

/-- What one of its modules has to say, with a payload of any type. -/
def report (module : String) (payload : Payload) : Message :=
  ⟨"m", "out", ⟨"S", module⟩, ⟨"", ""⟩, "", 0, .data payload⟩

/-- Both modules find the connection without a type. Then one goes ahead, fixes the type and sends
its copy before the other gets another turn. -/
def race : List Action :=
  [.ask (.publish (report "A" (.text "t"))), .ask (.publish (report "B" (.bool true))),
    .proceed 0, .proceed 1, .proceed 0, .proceed 0, .proceed 0, .proceed 0]

/-- The other one is refused when it comes back, and only the first one's copy was sent. -/
theorem late_publisher_refused :
    let room := (around newsroom.1 newsroom.2).run race
    room.Copied 0 (report "A" (.text "t")) (some "c") ∧
      room.sent = [(0, ⟨⟨2⟩, Switchboard.copyFor ⟨"L", "in"⟩ (report "A" (.text "t"))⟩)] ∧
      (room.proceed 1).Refused 1 (report "B" (.bool true)) "c" "text" := by
  intro room
  have grounded : newsroom.1.channels.Grounded := Switchboard.serve_all_grounded .empty _ _
  have uncleared : Action.ask .clear ∉ race := by simp [race]
  obtain ⟨_, _, _, _, late⟩ := types_written_once newsroom.1 newsroom.2 grounded race uncleared
  have heads : room.Heads 1 (report "B" (.bool true)) "c" := ⟨_, rfl, rfl, .inl rfl⟩
  have agreed : room.channels.tagOf "c" = some "text" := by rfl
  exact ⟨⟨_, rfl⟩, by rfl, (late 1 _ "c" "text" heads agreed (by decide)).1⟩

end Switchroom

end RelayTree
