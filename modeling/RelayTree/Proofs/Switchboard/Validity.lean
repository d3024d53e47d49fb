import RelayTree.Proofs.Switchboard.FanOut
import RelayTree.Proofs.Switchboard.PayloadTypes

/-!
# Valid channels

A message has a valid channel if its sender publishes there and its type is the agreed one. This is
asked in one place and decided once more in another, where a message is published: there the first
message on a connection gets through as well, and fixes the type. The two agree over time. A valid
message is published without any change to the channels; one that was published is valid from then
on, since bindings and types stay until everything is forgotten; and one that is refused was not
valid and leaves no trace.
-/

namespace RelayTree

namespace Channels

variable {channels later changed : Channels} {message : Message} {name : String}

/-- A valid message has the type of the connection that its sender publishes on. A connection
without a type has no valid messages, although it takes the first one of any type. -/
theorem is_valid_iff : channels.isValid message = true ↔
    ∃ name, channels.Publishes message name ∧ channels.tagOf name = some message.tag := by
  rw [isValid]
  constructor
  · intro valid
    split at valid
    · rename_i name bound
      exact ⟨name, bound, of_decide_eq_true valid⟩
    · cases valid
  · rintro ⟨name, publishes, agreed⟩
    have bound : channels.resolve? (senderEndpoint message) = some ⟨name, .publisher⟩ := publishes
    rw [bound]
    exact decide_eq_true agreed

/-- What extends the channels keeps messages valid: the binding and the type that validity asks for
are both kept. -/
theorem extends_valid (extended : Extends channels later)
    (valid : channels.isValid message = true) : later.isValid message = true := by
  obtain ⟨name, publishes, agreed⟩ := is_valid_iff.mp valid
  exact is_valid_iff.mpr ⟨name, extended.bindings publishes, extended.tags agreed⟩

/-- A valid message finds its channel as it should be: bound for publishing, with the type that it
has itself. So nothing is left that could refuse it. -/
theorem accept_valid (valid : channels.isValid message = true) :
    ∃ name subscribers, channels.accept message = .ok (name, subscribers, channels) := by
  obtain ⟨name, publishes, agreed⟩ := is_valid_iff.mp valid
  exact ⟨name, _, by rw [accept_agreed agreed publishes, if_pos rfl]⟩

/-- A message that is taken is valid then, even if it was not before for want of a type: it has just
fixed it. -/
theorem accepted_valid {subscribers : List Endpoint}
    (accepted : channels.accept message = .ok (name, subscribers, changed)) :
    changed.isValid message = true := by
  obtain ⟨publishes, extended, agreed⟩ := accept_accepts accepted
  exact is_valid_iff.mpr ⟨name, extended.bindings publishes, agreed⟩

/-- A message is taken if it is valid, or if it is the first one on its connection. -/
theorem accept_iff (grounded : channels.Grounded) :
    (∃ found, channels.accept message = .ok found) ↔
      channels.isValid message = true ∨
        ∃ name, channels.Publishes message name ∧ channels.tagOf name = none := by
  constructor
  · rintro ⟨⟨name, subscribers, changed⟩, accepted⟩
    obtain ⟨publishes, extended, own⟩ := accept_accepts accepted
    cases earlier : channels.tagOf name with
    | none => exact .inr ⟨name, publishes, earlier⟩
    | some tag =>
      -- The type that was agreed on before is still the agreed one.
      have same := (extended.tags earlier).symm.trans own
      exact .inl (is_valid_iff.mpr ⟨name, publishes, earlier.trans same⟩)
  · rintro (valid | ⟨name, publishes, untyped⟩)
    · obtain ⟨name, subscribers, accepted⟩ := accept_valid valid
      exact ⟨_, accepted⟩
    · cases settled : channels.settle name message with
      | error failure =>
        obtain ⟨tag, agreed, _⟩ := settle_refuses (grounded _ _ publishes) settled
        cases untyped.symm.trans agreed
      | ok result =>
        obtain ⟨subscribers, changed⟩ := result
        refine ⟨(name, subscribers, changed), ?_⟩
        simp only [accept, publication_publishes publishes, untyped, settled]
        rfl

end Channels

namespace Switchboard

variable {board : Switchboard} {queues : QueueStore} {message : Message}

/-- A message that the channels take is published, and only the channels of the switchboard are
others then. -/
theorem publish_accepted {name : String} {subscribers : List Endpoint} {channels : Channels}
    (accepted : board.channels.accept message = .ok (name, subscribers, channels)) :
    (∃ copies, (board.publish queues message).result = .ok copies) ∧
      (board.publish queues message).state.1 = { board with channels := channels } := by
  rw [publish_taken accepted]
  exact ⟨copies_counted board.registry name message subscribers queues, rfl⟩

/-- What the validity of a message says about its publication, and the other way round. -/
structure Vouches (board : Switchboard) (queues : QueueStore) (message : Message) : Prop where
  valid : board.channels.isValid message = true →
    (∃ copies, (board.publish queues message).result = .ok copies) ∧
      (board.publish queues message).state.1 = board
  published : ∀ copies, (board.publish queues message).result = .ok copies →
    (board.publish queues message).state.1.channels.isValid message = true ∧
      ∀ meanwhile later, .clear ∉ later →
        ((board.publish queues message).state.1.serveAll meanwhile later).1.channels.isValid
          message = true
  refused : ∀ failure, (board.publish queues message).result = .error failure →
    board.channels.isValid message = false ∧
      (board.publish queues message).state = (board, queues) ∧
      (board.publish queues message).state.1.channels.isValid message = false
  /-- Only the first message on a connection is published without having been valid. -/
  decided : (∃ copies, (board.publish queues message).result = .ok copies) ↔
    board.channels.isValid message = true ∨
      ∃ name, board.channels.Publishes message name ∧ board.channels.tagOf name = none

/-- Whatever was requested of a switchboard before, the validity of a message and its publication
agree, and go on to agree until everything is forgotten.

Proof: validity and publication ask the same two things, where the sender publishes and whether the
type fits, and differ only where no type was agreed on. What a publication leaves is compared with
the channels before: they are the same if the message was valid, and have one more type if it was
the first one. Later requests only add to the channels, so that what is valid stays valid. That a
bound channel has a connection is known from the requests before, and is needed for the last part
alone. -/
theorem validity_vouches (store earlier : QueueStore) (requests : List Request)
    (queues : QueueStore) (message : Message) :
    ((create store).1.serveAll earlier requests).1.Vouches queues message := by
  have grounded := serve_all_grounded store earlier requests
  generalize ((create store).1.serveAll earlier requests).1 = board at grounded
  constructor
  case valid =>
    intro valid
    obtain ⟨name, subscribers, accepted⟩ := Channels.accept_valid valid
    exact publish_accepted accepted
  case published =>
    intro copies published
    obtain ⟨name, subscribers, channels, accepted⟩ := accept_published published
    have valid := Channels.accepted_valid accepted
    rw [(publish_accepted accepted).2]
    exact ⟨valid, fun meanwhile later uncleared =>
      Channels.extends_valid (serve_all_extends _ meanwhile later uncleared) valid⟩
  case refused =>
    intro failure refused
    cases accepted : board.channels.accept message with
    | error reason =>
      have invalid : board.channels.isValid message = false := by
        rw [Bool.eq_false_iff]
        intro valid
        obtain ⟨_, _, taken⟩ := Channels.accept_valid valid
        cases accepted.symm.trans taken
      rw [publish_refused accepted]
      exact ⟨invalid, rfl, invalid⟩
    | ok found =>
      obtain ⟨name, subscribers, channels⟩ := found
      obtain ⟨copies, returned⟩ := (publish_accepted accepted).1
      cases refused.symm.trans returned
  case decided =>
    rw [← Channels.accept_iff grounded]
    constructor
    · rintro ⟨copies, published⟩
      obtain ⟨name, subscribers, channels, accepted⟩ := accept_published published
      exact ⟨_, accepted⟩
    · rintro ⟨⟨name, subscribers, channels⟩, accepted⟩
      exact (publish_accepted accepted).1

/-- The first message of a module is not valid yet, but it is published, and valid from then on. -/
theorem first_bulletin_valid_then :
    let first := bulletin (.data (.text "one"))
    studio.1.channels.isValid first = false ∧
      (studio.1.publish studio.2 first).result = .ok 0 ∧
      (studio.1.publish studio.2 first).state.1.channels.isValid first = true := by
  intro first
  have vouches : studio.1.Vouches studio.2 first := validity_vouches .empty _ _ studio.2 first
  have published : (studio.1.publish studio.2 first).result = .ok 0 := by decide +kernel
  exact ⟨by decide +kernel, published, (vouches.published 0 published).1⟩

end Switchboard

end RelayTree
