import RelayTree.Proofs.Dispatcher.Reachability
import RelayTree.Proofs.Switchboard.History

/-!
# What an agreed tag says about a type

Publishers and subscribers of a connection agree on a tag, and a message that was accepted on a
connection fixes it until everything is forgotten. Whether this makes connections safe depends
on what a tag says about the data. Two messages with the same tag have data of the same type,
or both are administrative, or one of them is a blob that poses as the other: its type bears
the name that is the other's tag. `accepted_again_iff` says that just these pass.
-/

namespace RelayTree

/-- What the data of a message is. A blob is data whose type the sender names itself, with any name
it likes. -/
inductive PayloadType where
  | empty
  | text
  | number
  | bool
  | bytes
  | blob (typeName : String)
deriving DecidableEq, Repr

/-- The tag of a type. That of a blob is its own name, which is where two types can come to share a
tag. -/
def PayloadType.tag : PayloadType → String
  | .empty => "empty"
  | .text => "text"
  | .number => "number"
  | .bool => "bool"
  | .bytes => "bytes"
  | .blob typeName => typeName

/-- The type of data, which forgets the data itself and keeps the name that a blob gives. -/
def Payload.type : Payload → PayloadType
  | .empty => .empty
  | .text _ => .text
  | .number _ => .number
  | .bool _ => .bool
  | .bytes _ => .bytes
  | .blob typeName _ => .blob typeName

/-- The tag of data is the tag of its type, so types can be spoken of where only tags are
compared. -/
theorem Payload.type_tag (payload : Payload) : payload.type.tag = payload.tag := by
  cases payload <;> rfl

namespace PayloadType

variable {first second type : PayloadType}

/-- Only a blob can have the tag of another type: the other five tags are different from each other,
and a blob can take each of them for its name. -/
theorem tag_shared (shared : first.tag = second.tag) :
    first = second ∨ first = .blob second.tag ∨ second = .blob first.tag := by
  cases first with
  | blob name => exact .inr (.inl (congrArg blob shared))
  | empty | text | number | bool | bytes =>
    cases second with
    | blob name => exact .inr (.inr (congrArg blob shared.symm))
    | empty | text | number | bool | bytes => first | exact .inl rfl | simp [tag] at shared

/-- Only a blob can have the tag of administrative messages, and only one that bears just that
name. -/
theorem tag_control (shared : type.tag = "control") : type = .blob "control" := by
  cases type with
  | blob name => exact congrArg blob shared
  | empty | text | number | bool | bytes => simp [tag] at shared

end PayloadType

namespace Message

variable {message first second : Message} {type : PayloadType}

/-- The type of a message's data, if it has data. An administrative message has none. -/
def type? (message : Message) : Option PayloadType := message.payload?.map Payload.type

/-- Both messages have data, of the same type. Of blobs this asks that they give the same name. -/
def SameType (first second : Message) : Prop :=
  ∃ type, first.type? = some type ∧ second.type? = some type

/-- The first message is a blob whose type bears the name that is the tag of the second, which
is no such blob. -/
structure Poses (first second : Message) : Prop where
  named : first.type? = some (.blob second.tag)
  other : second.type? ≠ some (.blob second.tag)

/-- The tag of a message with data is the tag of its type. -/
theorem tag_typed (typed : message.type? = some type) : message.tag = type.tag := by
  unfold type? payload? at typed
  unfold tag
  cases body : message.body with
  | data payload =>
    rw [body] at typed
    cases typed
    exact payload.type_tag.symm
  | control event =>
    rw [body] at typed
    cases typed

/-- A message without a type is administrative and has the tag that all of these share. -/
theorem tag_untyped (untyped : message.type? = none) :
    message.tag = "control" ∧ message.isControl = true := by
  unfold type? payload? at untyped
  unfold tag isControl
  cases body : message.body with
  | data payload =>
    rw [body] at untyped
    cases untyped
  | control event => exact ⟨rfl, rfl⟩

/-- An administrative message has that tag whatever event it reports. -/
theorem tag_of_control (administrative : message.isControl = true) : message.tag = "control" := by
  unfold isControl at administrative
  unfold tag
  cases body : message.body with
  | data payload =>
    rw [body] at administrative
    cases administrative
  | control event => rfl

/-- A blob with the tag of a message is one of the same type, or poses as it. -/
theorem blob_poses (named : first.type? = some (.blob second.tag)) :
    SameType first second ∨ Poses first second := by
  by_cases same : second.type? = some (.blob second.tag)
  · exact .inl ⟨_, named, same⟩
  · exact .inr ⟨named, same⟩

/-- Whether two messages have the same type does not depend on which of them came first. -/
theorem same_type_symm (same : SameType first second) : SameType second first := by
  obtain ⟨type, one, other⟩ := same
  exact ⟨type, other, one⟩

/-- What it takes for two messages to have the same tag. In the last two cases the types differ and
a blob has the other's tag for its name; everywhere else a shared tag is as good as a shared
type. -/
theorem tag_eq_iff (first second : Message) :
    first.tag = second.tag ↔ SameType first second ∨
      (first.isControl = true ∧ second.isControl = true) ∨
      Poses first second ∨ Poses second first := by
  constructor
  · intro shared
    -- If either is a blob with the tag of the other, it poses as the other.
    have posing : first.type? = some (.blob second.tag) ∨ second.type? = some (.blob first.tag) →
        SameType first second ∨ Poses first second ∨ Poses second first := by
      rintro (named | named)
      · exact (blob_poses named).imp_right .inl
      · exact (blob_poses named).imp same_type_symm .inr
    cases one : first.type? with
    | none =>
      obtain ⟨tagged, administrative⟩ := tag_untyped one
      cases other : second.type? with
      | none => exact .inr (.inl ⟨administrative, (tag_untyped other).2⟩)
      | some type =>
        have control : type.tag = "control" := by rw [← tag_typed other, ← shared, tagged]
        have named := PayloadType.tag_control control
        exact (posing (.inr (by rw [other, named, tagged]))).imp_right .inr
    | some type =>
      cases other : second.type? with
      | none =>
        obtain ⟨tagged, _⟩ := tag_untyped other
        have control : type.tag = "control" := by rw [← tag_typed one, shared, tagged]
        have named := PayloadType.tag_control control
        exact (posing (.inl (by rw [one, named, tagged]))).imp_right .inr
      | some otherType =>
        have tags : type.tag = otherType.tag := by rw [← tag_typed one, shared, tag_typed other]
        rcases PayloadType.tag_shared tags with same | named | named
        · exact .inl ⟨otherType, by rw [one, same], other⟩
        · exact (posing (.inl (by rw [one, tag_typed other, ← named]))).imp_right .inr
        · exact (posing (.inr (by rw [other, tag_typed one, ← named]))).imp_right .inr
  · rintro (⟨type, one, other⟩ | ⟨one, other⟩ | ⟨named, _⟩ | ⟨named, _⟩)
    · rw [tag_typed one, tag_typed other]
    · rw [tag_of_control one, tag_of_control other]
    · exact tag_typed named
    · exact (tag_typed named).symm

end Message

namespace Channels

variable {channels changed : Channels} {message : Message} {name tag : String}

/-- Once a type is agreed on, a publisher gets through exactly with that type. -/
theorem accept_agreed (agreed : channels.tagOf name = some tag)
    (publishes : channels.Publishes message name) :
    channels.accept message = if tag = message.tag then
        .ok (name, (channels.connection name).members .subscriber, channels)
      else .error (.channelTypeMismatch name message.source.module tag message.tag) := by
  simp only [accept, publication_publishes publishes, agreed]

end Channels

namespace Switchboard

variable {board : Switchboard} {queues : QueueStore} {message : Message} {name : String}

/-- A message is accepted on a connection: its sender publishes there, and it is copied to the
subscribers. -/
structure Accepts (board : Switchboard) (queues : QueueStore) (message : Message) (name : String) :
    Prop where
  publishes : board.channels.Publishes message name
  copied : ∃ copies, (board.serve queues (.publish message)).result = .ok (.copies copies)

/-- A message that the channels take is copied, and no other. How many copies are made is another
matter: it may be none. -/
theorem copied_iff (board : Switchboard) (queues : QueueStore) (message : Message) :
    (∃ copies, (board.serve queues (.publish message)).result = .ok (.copies copies)) ↔
      ∃ found, board.channels.accept message = .ok found := by
  cases accepted : board.channels.accept message with
  | error failure => simp [serve, publish, accepted, Outcome.map, Outcome.fail, Except.map]
  | ok found =>
    obtain ⟨name, subscribers, channels⟩ := found
    obtain ⟨copies, counted⟩ := copies_counted board.registry name message subscribers queues
    simp [serve, publish, accepted, Outcome.map, Outcome.within, counted, Except.map]

/-- An accepted message leaves its connection with its own tag, whether it was the first one there
or found that tag agreed on. -/
theorem accepts_settles (accepts : board.Accepts queues message name) :
    (board.serve queues (.publish message)).state.1.channels.tagOf name = some message.tag := by
  obtain ⟨⟨found, subscribers, channels⟩, accepted⟩ := (copied_iff ..).mp accepts.copied
  obtain ⟨publishes, _, settled⟩ := Channels.accept_accepts accepted
  cases accepts.publishes.symm.trans publishes
  simp only [serve, publish, accepted]
  exact settled

/-- On a connection with an agreed type a publisher gets through exactly with that type. Whether
anybody listens, and what is on their queues, makes no difference. -/
theorem accepts_agreed_iff {tag : String} (agreed : board.channels.tagOf name = some tag) :
    board.Accepts queues message name ↔
      board.channels.Publishes message name ∧
        tag = message.tag := by
  have through (publishes : board.channels.Publishes message name) :
      (∃ found, board.channels.accept message = .ok found) ↔ tag = message.tag := by
    rw [Channels.accept_agreed agreed publishes]
    split
    · rename_i same
      exact ⟨fun _ => same, fun _ => ⟨_, rfl⟩⟩
    · rename_i different
      refine ⟨fun taken => ?_, fun same => absurd same different⟩
      obtain ⟨_, refused⟩ := taken
      cases refused
  constructor
  · rintro ⟨publishes, copied⟩
    exact ⟨publishes, (through publishes).mp ((copied_iff ..).mp copied)⟩
  · rintro ⟨publishes, same⟩
    exact ⟨publishes, (copied_iff ..).mpr ((through publishes).mpr same)⟩

/-- After a message was accepted on a connection, and as long as nothing is forgotten, exactly
these are accepted on it: data of the same type, administrative messages if the first was one,
and what poses as the first or what the first poses as.

Proof: a message that was accepted has fixed the tag of its connection, and requests that forget
nothing only add to what is agreed on. So the second message is accepted exactly if it has the same
tag and its sender publishes there. What messages with the same tag have in common is a statement
about payloads alone, `Message.tag_eq_iff`. How the switchboard came to be is not restricted, nor
which types were agreed on before. -/
theorem accepted_again_iff (board : Switchboard) (queues : QueueStore) (first second : Message)
    (between : List Request) (name : String) (accepted : board.Accepts queues first name)
    (uncleared : .clear ∉ between) :
    let later := board.serveAll queues (.publish first :: between)
    later.1.Accepts later.2 second name ↔
      later.1.channels.Publishes second name ∧
        (Message.SameType first second ∨ (first.isControl = true ∧ second.isControl = true) ∨
          Message.Poses first second ∨ Message.Poses second first) := by
  intro later
  have agreed : later.1.channels.tagOf name = some first.tag :=
    (serve_all_extends _ _ between uncleared).tags (accepts_settles accepted)
  rw [accepts_agreed_iff agreed, Message.tag_eq_iff]

/-- A host with one module, which publishes on one connection. Nothing was agreed on there yet. -/
def studio : Switchboard × QueueStore :=
  (create .empty).1.serveAll (create .empty).2
    [.enroll "A" "class" .empty, .bind ⟨"A", "out"⟩ ⟨"c", .publisher⟩]

/-- A message of the module on its channel, with any body. -/
def bulletin (body : Body) : Message := ⟨"m", "out", ⟨"S", "A"⟩, ⟨"", ""⟩, "", 0, body⟩

/-- The module may go on with texts after a text: the case of the theorem in which the types are the
same. -/
theorem texts_after_text :
    studio.1.Accepts studio.2 (bulletin (.data (.text "one"))) "c" ∧
      (let later := studio.1.serveAll studio.2 [.publish (bulletin (.data (.text "one")))]
      later.1.Accepts later.2 (bulletin (.data (.text "two"))) "c") := by
  have accepted : studio.1.Accepts studio.2 (bulletin (.data (.text "one"))) "c" :=
    ⟨by rfl, 0, by rfl⟩
  refine ⟨accepted, ?_⟩
  refine (accepted_again_iff studio.1 studio.2 _ (bulletin (.data (.text "two"))) [] "c" accepted
    (by simp)).mpr ⟨by rfl, .inl ⟨.text, rfl, rfl⟩⟩

/-- But also with a record of its own whose type it calls `text`. So the tag of an accepted message
does not say what its data is, unless such names are kept out. -/
theorem text_then_blob_named_text :
    ¬ ∀ (board : Switchboard) (queues : QueueStore) (first second : Message)
      (between : List Request) (name : String), .clear ∉ between →
      board.Accepts queues first name →
      (board.serveAll queues (.publish first :: between)).1.Accepts
        (board.serveAll queues (.publish first :: between)).2 second name →
      Message.SameType first second := by
  intro safe
  obtain ⟨type, text, blob⟩ := safe studio.1 studio.2 (bulletin (.data (.text "one")))
    (bulletin (.data (.blob "text" [1]))) [] "c" (by simp) ⟨by rfl, 0, by rfl⟩
    ⟨by rfl, 0, by rfl⟩
  cases text
  cases blob

end Switchboard

end RelayTree
