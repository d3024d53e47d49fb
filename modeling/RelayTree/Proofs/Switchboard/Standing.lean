import RelayTree.Proofs.Switchboard.History
import RelayTree.Switchboard.Switchroom

/-!
# Where a request stands

`Stands` lists where a request can be while nothing is forgotten, and what is known there
whatever the others do. A publication that finds no type is the delicate one: it has looked its
connection up, and before it comes back to fix the type somebody else may have fixed another
one. Up to then it is only known that its channel is bound; from then on the agreed type is the
message's own. Both survive everything that extends the channels. `Lawful` says what a turn of
a request leaves behind, and `proceed_lawful` that it does so from wherever the request stands.
-/

namespace RelayTree

/-- The message that somebody asks to publish. Other requests carry none. -/
def Request.message? : Request → Option Message
  | .publish message => some message
  | _ => none

/-- The samples of a batch that are applied have the types of their connections. -/
theorem Channels.applied_agreed (module : String) (samples : List Message) (channels : Channels) :
    ∀ entry ∈ channels.applied module samples,
      (channels.presentEach module samples).state.tagOf entry.connection =
        some entry.sample.tag := by
  induction samples generalizing channels with
  | nil => exact fun entry none => nomatch none
  | cons sample rest inductionHypothesis =>
    intro entry listed
    cases accepted : channels.present module sample with
    | error failure => simp [applied, accepted] at listed
    | ok changed =>
      simp only [presentEach, accepted]
      obtain ⟨_, binding, bound, own⟩ := present_accepts accepted
      simp only [applied, accepted, bound, Option.toList_some, List.map_cons, List.map_nil,
        List.singleton_append, List.mem_cons] at listed
      rcases listed with first | later
      · subst first
        exact (present_each_extends rest changed).tags own
      · exact inductionHypothesis changed entry later

namespace Ticket

/-- Where a request can be while nothing is forgotten, and what holds of the channels then. -/
inductive Stands (channels : Channels) : Ticket → Prop where
  | asked {request : Request} (other : request ≠ .clear) : Stands channels ⟨request, none, .asked⟩
  | binding {request : Request} {wish : Wish} {left : List Wish} (silent : request.message? = none) :
    Stands channels ⟨request, none, .binding wish left⟩
  | checked {request : Request} {wish : Wish} {left : List Wish} (silent : request.message? = none) :
    Stands channels ⟨request, none, .checked wish left⟩
  | done {request : Request} {result : Except Failure Reply} (silent : request.message? = none) :
    Stands channels ⟨request, none, .answered result⟩
  /-- The sender does not publish on its channel. -/
  | unplaced {message : Message} {failure : Failure} :
    Stands channels ⟨.publish message, none, .answered (.error failure)⟩
  | settling {message : Message} {name : String}
    (publishes : channels.Publishes message name) :
    Stands channels ⟨.publish message, some name, .settling message name⟩
  | copying {message : Message} {name : String} {left : List Endpoint} {count : Nat}
    (publishes : channels.Publishes message name)
    (agreed : channels.tagOf name = some message.tag) :
    Stands channels ⟨.publish message, some name, .copying message left count⟩
  | sending {message : Message} {name : String} {subscriber : Endpoint} {queue : QueueId}
    {left : List Endpoint} {count : Nat}
    (publishes : channels.Publishes message name)
    (agreed : channels.tagOf name = some message.tag) :
    Stands channels ⟨.publish message, some name, .sending message subscriber queue left count⟩
  | copied {message : Message} {name : String} {count : Nat}
    (publishes : channels.Publishes message name)
    (agreed : channels.tagOf name = some message.tag) :
    Stands channels ⟨.publish message, some name, .answered (.ok (.copies count))⟩
  /-- Another type was agreed on. -/
  | refused {message : Message} {name tag : String} (agreed : channels.tagOf name = some tag)
    (different : tag ≠ message.tag) :
    Stands channels ⟨.publish message, some name,
      .answered (.error (.channelTypeMismatch name message.source.module tag message.tag))⟩

/-- A publication whose type is the agreed one, on the connection that it found when it looked its
channel up. -/
def Settled (ticket : Ticket) (channels : Channels) : Prop :=
  ∃ message name, ticket.request = .publish message ∧ ticket.connection = some name ∧
    channels.tagOf name = some message.tag

variable {before after : Channels} {ticket : Ticket}

/-- What is known of a request is not undone by what extends the channels. -/
theorem stands_later (extended : Channels.Extends before after) (stands : ticket.Stands before) :
    ticket.Stands after := by
  cases stands with
  | asked other => exact .asked other
  | binding silent => exact .binding silent
  | checked silent => exact .checked silent
  | done silent => exact .done silent
  | unplaced => exact .unplaced
  | settling publishes => exact .settling (extended.bindings publishes)
  | copying publishes agreed => exact .copying (extended.bindings publishes) (extended.tags agreed)
  | sending publishes agreed => exact .sending (extended.bindings publishes) (extended.tags agreed)
  | copied publishes agreed => exact .copied (extended.bindings publishes) (extended.tags agreed)
  | refused agreed different => exact .refused (extended.tags agreed) different

/-- A type that is settled stays so, since the channels are only extended. -/
theorem settled_later (extended : Channels.Extends before after) (settled : ticket.Settled before) :
    ticket.Settled after := by
  obtain ⟨message, name, request, connection, agreed⟩ := settled
  exact ⟨message, name, request, connection, extended.tags agreed⟩

/-! ## One turn -/

/-- What a turn of a request leaves behind, if nothing is forgotten. The first two say what others
see of it, the rest what is known of the request itself and of what went on record. -/
structure Lawful (ticket : Ticket) (hall : Hall) (left : Section) : Prop where
  extended : Channels.Extends hall.board.channels left.hall.board.channels
  unlocked : left.hall.locked = false
  stands : left.ticket.Stands left.hall.board.channels
  request : left.ticket.request = ticket.request
  connection : ∀ {name}, ticket.connection = some name → left.ticket.connection = some name
  applied : ∀ entry ∈ left.applied,
    left.hall.board.channels.tagOf entry.connection = some entry.sample.tag
  sent : left.sent ≠ [] → left.ticket.Settled left.hall.board.channels

variable {hall changed : Hall} {progress : Progress} {request : Request}

/-- Most sections move the request on and put nothing on record. For these it is enough to say where
the request stands then, and that the channels are extended. -/
theorem reaching_lawful (extended : Channels.Extends hall.board.channels changed.board.channels)
    (unlocked : changed.locked = false)
    (stands : Stands changed.board.channels { ticket with progress := progress }) :
    ticket.Lawful hall (ticket.reaching progress changed) where
  extended := extended
  unlocked := unlocked
  stands := stands
  request := rfl
  connection := id
  applied := fun _ none => nomatch none
  sent := fun some => absurd rfl some

/-- A section that leaves everything shared as it is only has to say where the request stands
afterwards. -/
theorem moving_lawful (unlocked : hall.locked = false)
    (stands : Stands hall.board.channels { ticket with progress := progress }) :
    ticket.Lawful hall (ticket.reaching progress hall) :=
  reaching_lawful (Channels.extends_refl _) unlocked stands

/-- A request that binds channels is done when none is left, and otherwise waits for the check of
the next one. It may stand at either. -/
theorem stands_rest {channels : Channels} (silent : request.message? = none) (left : List Wish) :
    Stands channels ⟨request, none, .rest left⟩ := by
  cases left with
  | nil => exact .done silent
  | cons wish left => exact .binding silent

section Binding

variable {wish : Wish} {left : List Wish} (unlocked : hall.locked = false)
  (silent : request.message? = none)

include unlocked silent

/-- Entering a change of the modules does not touch the channels. The request stands where it was to
go next, or has its refusal. -/
theorem enter_lawful {next : Progress} {change : Except Failure (Registry × QueueStore)}
    (stands : Stands hall.board.channels ⟨request, none, next⟩) :
    Lawful ⟨request, none, progress⟩ hall (enter ⟨request, none, progress⟩ hall next change) := by
  cases change with
  | error failure => exact moving_lawful unlocked (.done silent)
  | ok entered => exact reaching_lawful (Channels.extends_refl _) unlocked stands

/-- A check leaves a request that binds channels with its check in hand, or refused, and changes
nothing else. -/
theorem check_lawful :
    Lawful ⟨request, none, progress⟩ hall (check ⟨request, none, progress⟩ hall wish left) := by
  rw [check, unless_unlocked unlocked]
  split
  · exact moving_lawful unlocked (.checked silent)
  · exact moving_lawful unlocked (.done silent)

/-- Binding a channel extends the channels where it is accepted, and the request goes on with those
that are left. -/
theorem connect_lawful :
    Lawful ⟨request, none, progress⟩ hall (connect ⟨request, none, progress⟩ hall wish left) := by
  unfold connect
  split
  · rename_i channels bound
    exact reaching_lawful (Channels.bind_extends bound) unlocked (stands_rest silent left)
  · exact moving_lawful unlocked (.done silent)

/-- All samples of a batch are presented in one section. Those that went on record have the type of
their connection, since an accepted sample leaves it with its own and later samples only extend. -/
theorem present_lawful {module : String} {samples : List Message} :
    Lawful ⟨request, none, progress⟩ hall
      (present ⟨request, none, progress⟩ hall module samples) where
  extended := Channels.present_all_extends ..
  unlocked := unlocked
  stands := .done silent
  request := rfl
  connection := id
  applied := by
    intro entry listed
    by_cases nobody : module.isEmpty = true
    · simp [present, nobody] at listed
    · simp only [present, if_neg nobody] at listed
      simp only [present, answering, reaching, Hall.rewired, Channels.presentAll, if_neg nobody]
      exact Channels.applied_agreed module samples hall.board.channels entry listed
  sent := fun some => absurd rfl some

end Binding

section Publishing

variable {message : Message} {name : String} {left : List Endpoint} {count : Nat}
  (unlocked : hall.locked = false)

include unlocked

/-- A publication that is looked up finds where it belongs, and then whether a type was agreed
on before. -/
theorem look_up_lawful :
    Lawful ⟨.publish message, none, progress⟩ hall
      (lookUp ⟨.publish message, none, progress⟩ hall message) := by
  unfold lookUp
  split
  · exact moving_lawful unlocked .unplaced
  · rename_i found looked
    obtain ⟨publishes, same⟩ := Channels.publication_found looked
    -- Up to now it was not known where the message belongs.
    have located : ∀ {next : Progress},
        Stands hall.board.channels ⟨.publish message, some found.connection, next⟩ →
        Lawful ⟨.publish message, none, progress⟩ hall
          (reaching ⟨.publish message, some found.connection, progress⟩ next hall) := fun stands =>
      { moving_lawful unlocked stands with connection := fun known => nomatch known }
    dsimp only
    split
    · exact located (.settling publishes)
    · rename_i tag agreed
      rw [agreed] at same
      split
      · rename_i own
        exact located (.copying publishes (own ▸ same.symm))
      · rename_i different
        exact located (.refused same.symm different)

variable (publishes : hall.board.channels.Publishes message name)

include publishes

/-- Coming back to fix the type, a publication finds its channel bound still, and its connection
without a type, with its own, or with another one. -/
theorem settle_lawful (grounded : hall.board.channels.Grounded) :
    Lawful ⟨.publish message, some name, progress⟩ hall
      (settle ⟨.publish message, some name, progress⟩ hall message name) := by
  unfold settle
  split
  · rename_i subscribers channels settled
    obtain ⟨extended, agreed⟩ := Channels.settle_accepts settled
    exact reaching_lawful extended unlocked (.copying (extended.bindings publishes) agreed)
  · rename_i failure refused
    obtain ⟨tag, agreed, different, rfl⟩ := Channels.settle_refuses (grounded _ _ publishes) refused
    exact moving_lawful unlocked (.refused agreed different)

variable (agreed : hall.board.channels.tagOf name = some message.tag)

include agreed

/-- Looking up the queue for a copy changes nothing, and the type of the message stays the agreed
one meanwhile. -/
theorem copy_lawful :
    Lawful ⟨.publish message, some name, progress⟩ hall
      (copy ⟨.publish message, some name, progress⟩ hall message count left) := by
  cases left with
  | nil => exact moving_lawful unlocked (.copied publishes agreed)
  | cons subscriber left =>
    rw [copy, unless_unlocked unlocked]
    split
    · exact moving_lawful unlocked (.copying publishes agreed)
    · exact moving_lawful unlocked (.sending publishes agreed)

/-- Sending a copy changes a queue and puts the copy on record. Its request is settled: the lookup
and the fixing of the type are both behind it. -/
theorem send_lawful {subscriber : Endpoint} {queue : QueueId} :
    Lawful ⟨.publish message, some name, progress⟩ hall
      (send ⟨.publish message, some name, progress⟩ hall message subscriber queue left count) := by
  unfold send
  split
  · exact moving_lawful unlocked (.copying publishes agreed)
  · rename_i queues _
    have moved : Lawful ⟨.publish message, some name, progress⟩ hall
        (reaching ⟨.publish message, some name, progress⟩ (.copying message left (count + 1))
          { hall with queues := queues }) :=
      reaching_lawful (Channels.extends_refl _) unlocked (.copying publishes agreed)
    exact { moved with sent := fun _ => ⟨message, name, rfl, rfl, agreed⟩ }

end Publishing

/-- The first turn of a request is lawful whatever it asks for, short of forgetting everything. Each
kind begins in its own section, which has been looked at before. -/
theorem begin_lawful (unlocked : hall.locked = false) (other : request ≠ .clear) :
    Lawful ⟨request, none, .asked⟩ hall (begin ⟨request, none, .asked⟩ hall) := by
  cases request with
  | enroll module className properties =>
    simp only [begin, unless_unlocked unlocked]
    have silent : (Request.enroll module className properties).message? = none := rfl
    exact enter_lawful unlocked silent (.done silent)
  | place module runtime =>
    simp only [begin, unless_unlocked unlocked]
    have silent : (Request.place module runtime).message? = none := rfl
    exact enter_lawful unlocked silent (.done silent)
  | bind endpoint binding => exact check_lawful unlocked rfl
  | present module samples => exact present_lawful unlocked rfl
  | publish message => exact look_up_lawful unlocked
  | register spec =>
    simp only [begin, unless_unlocked unlocked]
    have silent : (Request.register spec).message? = none := rfl
    exact enter_lawful unlocked silent (stands_rest silent spec.wishes)
  | clear => exact absurd rfl other

/-- Every turn of a request keeps what is known of it, and extends the channels. The cases are those
of where a request can stand, and for each there is one section that comes next. -/
theorem proceed_lawful (unlocked : hall.locked = false) (grounded : hall.board.channels.Grounded)
    (stands : ticket.Stands hall.board.channels) : ticket.Lawful hall (ticket.proceed hall) := by
  cases stands with
  | asked other => exact begin_lawful unlocked other
  | binding silent => exact check_lawful unlocked silent
  | checked silent => exact connect_lawful unlocked silent
  | settling publishes => exact settle_lawful unlocked publishes grounded
  | copying publishes agreed => exact copy_lawful unlocked publishes agreed
  | sending publishes agreed => exact send_lawful unlocked publishes agreed
  | done silent => exact moving_lawful unlocked (.done silent)
  | unplaced => exact moving_lawful unlocked .unplaced
  | copied publishes agreed => exact moving_lawful unlocked (.copied publishes agreed)
  | refused agreed different => exact moving_lawful unlocked (.refused agreed different)

/-! ## The turn of a publication that comes too late -/

/-- A publication that is looked up and finds another type agreed on is refused at once. -/
theorem look_up_mismatch {message : Message} {name tag : String}
    (publishes : hall.board.channels.Publishes message name)
    (agreed : hall.board.channels.tagOf name = some tag) (different : tag ≠ message.tag) :
    lookUp ticket hall message = answering { ticket with connection := some name }
      (.error (.channelTypeMismatch name message.source.module tag message.tag)) hall := by
  have looked := Channels.publication_publishes publishes
  rw [agreed] at looked
  simp only [lookUp, looked, if_neg different]

/-- And one that comes back to fix the type, when it finds that another one was fixed. The
connection is there, as a bound channel has one, and so this is the only failure. -/
theorem settle_mismatch {message : Message} {name tag : String}
    (there : hall.board.channels.connections.contains name = true)
    (agreed : hall.board.channels.tagOf name = some tag) (different : tag ≠ message.tag) :
    settle ticket hall message name = answering ticket
      (.error (.channelTypeMismatch name message.source.module tag message.tag)) hall := by
  cases settled : hall.board.channels.settle name message with
  | error failure =>
    obtain ⟨other, same, _, rfl⟩ := Channels.settle_refuses there settled
    cases agreed.symm.trans same
    rw [settle, settled]
  | ok result =>
    obtain ⟨subscribers, channels⟩ := result
    obtain ⟨extended, own⟩ := Channels.settle_accepts settled
    cases (extended.tags agreed).symm.trans own
    exact absurd rfl different

/-- Wherever a publication with another type than the agreed one is, it is refused next, if it
was not refused before. -/
theorem proceed_mismatch {message : Message} {connection : Option String} {name tag : String}
    (grounded : hall.board.channels.Grounded)
    (stands : Stands hall.board.channels ⟨.publish message, connection, progress⟩)
    (belongs : connection = some name ∨ progress = .asked ∧
      hall.board.channels.Publishes message name)
    (agreed : hall.board.channels.tagOf name = some tag) (different : tag ≠ message.tag) :
    (proceed ⟨.publish message, connection, progress⟩ hall).ticket =
      ⟨.publish message, some name,
        .answered (.error (.channelTypeMismatch name message.source.module tag message.tag))⟩ := by
  cases stands with
  | asked =>
    have publishes := (belongs.resolve_left fun located => nomatch located).2
    simp only [proceed, begin, look_up_mismatch publishes agreed different]
    rfl
  | settling publishes =>
    cases belongs.resolve_right fun asked => nomatch asked.1
    simp only [proceed, settle_mismatch (grounded _ _ publishes) agreed different]
    rfl
  | refused earlier =>
    cases belongs.resolve_right fun asked => nomatch asked.1
    cases earlier.symm.trans agreed
    rfl
  | copying _ own | sending _ own | copied _ own =>
    cases belongs.resolve_right fun asked => nomatch asked.1
    cases own.symm.trans agreed
    exact absurd rfl different
  | unplaced => rcases belongs with located | ⟨asked, _⟩ <;> contradiction
  | binding silent | checked silent | done silent => cases silent

end Ticket

end RelayTree
