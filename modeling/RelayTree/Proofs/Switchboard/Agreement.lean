import RelayTree.Switchboard

/-!
# What stays agreed

A channel that is bound stays bound, and a type that was agreed on stays agreed on, whatever is
done with the channels short of forgetting them all. `Extends` says both, and that no channel
comes to be bound to a connection which is not there. It holds of binding, of presenting samples
and of fixing the type of a connection, whether they succeed or fail, and composes. What a party
gets through with is then the type of its connection for good.
-/

namespace RelayTree

namespace Connection

variable {connection agreed : Connection} {name module tag : String} {failure : Failure}

/-- Binding a channel to a connection says nothing about its type. -/
@[simp] theorem join_tag (connection : Connection) (role : Role) (endpoint : Endpoint) :
    (connection.join role endpoint).tag = connection.tag := by
  cases role <;> rfl

/-- Who gets through has the agreed type, which was open before or the same. There is no other way
to get through, so the type that is agreed on afterwards is known. -/
theorem agree_accepts (accepted : connection.agree name module tag = .ok agreed) :
    agreed.tag = some tag ∧ ∀ other, connection.tag = some other → other = tag := by
  unfold agree at accepted
  cases open' : connection.tag with
  | none =>
    rw [open'] at accepted
    cases accepted
    exact ⟨rfl, fun other found => nomatch found⟩
  | some other =>
    simp only [open'] at accepted
    split at accepted
    · rename_i same
      cases accepted
      subst same
      exact ⟨open', fun _ found => (Option.some.inj found).symm⟩
    · cases accepted

/-- Who does not get through is told the agreed type, which is another one. The failure names the
connection and the module as well, so the caller can tell from it what to change. -/
theorem agree_refuses (refused : connection.agree name module tag = .error failure) :
    ∃ other, connection.tag = some other ∧ other ≠ tag ∧
      failure = .channelTypeMismatch name module other tag := by
  unfold agree at refused
  cases open' : connection.tag with
  | none =>
    rw [open'] at refused
    cases refused
  | some other =>
    simp only [open'] at refused
    split at refused
    · cases refused
    · rename_i different
      cases refused
      exact ⟨other, rfl, different, rfl⟩

end Connection

namespace Channels

/-- The type that was agreed on for a connection. One that is not there has none. -/
def tagOf (channels : Channels) (name : String) : Option String := (channels.connection name).tag

/-- The sender of a message publishes on a connection by the channel of the message. Only its module
and channel are looked up, and not the host that it comes from. -/
def Publishes (channels : Channels) (message : Message) (name : String) : Prop :=
  channels.resolve? (senderEndpoint message) = some ⟨name, .publisher⟩

/-- Every channel is bound to a connection that is there, so no lookup of a bound channel ever
creates one. -/
def Grounded (channels : Channels) : Prop :=
  ∀ endpoint binding, channels.resolve? endpoint = some binding →
    channels.connections.contains binding.connection = true

/-- What was bound and what was agreed on still is, and no channel has come to be bound to a
connection that is not there. -/
structure Extends (before after : Channels) : Prop where
  bindings : ∀ {endpoint binding}, before.resolve? endpoint = some binding →
    after.resolve? endpoint = some binding
  tags : ∀ {name tag}, before.tagOf name = some tag → after.tagOf name = some tag
  grounded : before.Grounded → after.Grounded

variable {before middle after channels changed : Channels} {name module tag : String}
  {message sample : Message} {failure : Failure}

/-- Channels that nothing happened to extend themselves. -/
theorem extends_refl (channels : Channels) : Extends channels channels := ⟨id, id, id⟩

/-- Extending composes, in each of the three things it says. -/
theorem extends_trans (first : Extends before middle) (second : Extends middle after) :
    Extends before after :=
  ⟨fun bound => second.bindings (first.bindings bound),
    fun agreed => second.tags (first.tags agreed), second.grounded ∘ first.grounded⟩

/-- A connection that is there is found by its name, and not the empty one in its place. -/
theorem connection_found {connection : Connection}
    (found : channels.connections.get? name = some connection) :
    channels.connection name = connection := by
  rw [Channels.connection, found]
  rfl

/-- Replacing a connection changes no other one, whatever becomes of the bindings. -/
theorem connection_insert (channels : Channels) (name other : String) (connection : Connection)
    (bindings : SortedMap Endpoint Binding) :
    Channels.connection ⟨channels.connections.insert name connection, bindings⟩ other =
      if other = name then connection else channels.connection other := by
  unfold Channels.connection
  rw [SortedMap.get?_insert]
  split <;> rfl

/-- A connection whose agreed type stays, if it had one, can be replaced. Neither its parties nor
the bindings are asked for here, only what has been agreed on and that the connection is there. -/
theorem extends_insert {connection : Connection}
    (kept : ∀ {tag}, channels.tagOf name = some tag → connection.tag = some tag) :
    Extends channels { channels with connections := channels.connections.insert name connection } :=
  by
  refine ⟨id, fun {other tag} agreed => ?_, fun grounded endpoint binding bound => ?_⟩
  · rw [tagOf, connection_insert]
    split
    · rename_i same
      exact kept (same ▸ agreed)
    · exact agreed
  · rw [SortedMap.contains, SortedMap.get?_insert]
    split
    · rfl
    · exact grounded endpoint binding bound

/-! ## Binding -/

variable {endpoint : Endpoint} {binding : Binding}

/-- A binding that is accepted extends the channels: either it is a repetition and changes nothing,
or it is new and was free before. -/
theorem bind_extends (bound : channels.bind endpoint binding = .ok changed) :
    Extends channels changed := by
  unfold bind at bound
  split at bound
  · split at bound
    · cases bound
      exact extends_refl channels
    · cases bound
  · rename_i free
    cases bound
    have joined : Extends channels { channels with
        connections := channels.connections.insert binding.connection
          ((channels.connection binding.connection).join binding.role endpoint) } :=
      extends_insert fun agreed => by rwa [Connection.join_tag]
    refine ⟨fun {other target} found => ?_, joined.tags, fun grounded other target found => ?_⟩
    · rw [resolve?, SortedMap.get?_insert, if_neg]
      · exact found
      · rintro rfl
        cases free.symm.trans found
    · rw [resolve?, SortedMap.get?_insert] at found
      split at found
      · cases found
        rw [SortedMap.contains, SortedMap.get?_insert, if_pos rfl]
        rfl
      · exact joined.grounded grounded other target found

/-! ## Agreeing on a type -/

/-- A party that gets through leaves the connection with its own type, and this is no change for
whoever had agreed on that type before. -/
theorem agree_extends {agreed : Connection}
    (accepted : (channels.connection name).agree name module tag = .ok agreed) :
    Extends channels { channels with connections := channels.connections.insert name agreed } ∧
      tagOf { channels with connections := channels.connections.insert name agreed } name =
        some tag := by
  obtain ⟨own, same⟩ := Connection.agree_accepts accepted
  refine ⟨extends_insert fun {other} earlier => ?_, ?_⟩
  · rw [own, same other earlier]
  · rw [tagOf, connection_insert, if_pos rfl, own]

/-- Samples are presented on channels that are bound, and one that is accepted has the type of
its connection. -/
theorem present_accepts (accepted : channels.present module sample = .ok changed) :
    Extends channels changed ∧
      ∃ binding, channels.resolve? ⟨module, sample.channel⟩ = some binding ∧
        changed.tagOf binding.connection = some sample.tag := by
  unfold present at accepted
  split at accepted
  · cases accepted
  · split at accepted
    · cases accepted
    · split at accepted
      · cases accepted
      · rename_i binding bound
        cases agrees : (channels.connection binding.connection).agree binding.connection module
            sample.tag with
        | error failure =>
          rw [agrees] at accepted
          cases accepted
        | ok agreed =>
          rw [agrees] at accepted
          cases accepted
          obtain ⟨extended, own⟩ := agree_extends agrees
          exact ⟨extended, binding, bound, own⟩

/-- A batch of samples that ends early keeps what was settled before. By induction on the samples,
each accepted one extends what those before it left. -/
theorem present_each_extends (samples : List Message) (channels : Channels) :
    Extends channels (channels.presentEach module samples).state := by
  induction samples generalizing channels with
  | nil => exact extends_refl channels
  | cons sample rest inductionHypothesis =>
    rw [presentEach]
    split
    · rename_i changed accepted
      exact extends_trans (present_accepts accepted).1 (inductionHypothesis changed)
    · exact extends_refl channels

/-- Presenting a batch extends the channels, a refusal for want of a name included. -/
theorem present_all_extends (channels : Channels) (module : String) (samples : List Message) :
    Extends channels (channels.presentAll module samples).state := by
  unfold presentAll
  split
  · exact extends_refl channels
  · exact present_each_extends samples channels

/-! ## Publishing -/

/-- Who finds a connection publishes there, and the type that is found is the one agreed on at that
moment. -/
theorem publication_found {found : Publication} (looked : channels.publication message = .ok found) :
    channels.Publishes message found.connection ∧
      found.agreed = channels.tagOf found.connection := by
  unfold publication at looked
  split at looked
  · cases looked
  · cases looked
  · rename_i bound
    cases looked
    exact ⟨bound, rfl⟩

/-- A publisher finds its connection as it is: name, type and subscribers. -/
theorem publication_publishes (publishes : channels.Publishes message name) :
    channels.publication message =
      .ok ⟨name, channels.tagOf name, (channels.connection name).members .subscriber⟩ := by
  have bound : channels.resolve? (senderEndpoint message) = some ⟨name, .publisher⟩ := publishes
  rw [publication, bound]
  rfl

/-- A message that fixes a type, or finds it right, leaves the connection with its own type. Between
the first look at the connection and this one somebody else may have fixed it. -/
theorem settle_accepts {subscribers : List Endpoint}
    (settled : channels.settle name message = .ok (subscribers, changed)) :
    Extends channels changed ∧ changed.tagOf name = some message.tag := by
  unfold settle at settled
  split at settled
  · cases settled
  · rename_i connection found
    split at settled
    · cases settled
    · rename_i agreed agrees
      cases settled
      rw [← connection_found found] at agrees
      exact agree_extends agrees

/-- On a connection that is there, a message is refused for its type only. The other failure is that
of a missing connection, which cannot occur then. -/
theorem settle_refuses (there : channels.connections.contains name = true)
    (refused : channels.settle name message = .error failure) :
    ∃ other, channels.tagOf name = some other ∧ other ≠ message.tag ∧
      failure = .channelTypeMismatch name message.source.module other message.tag := by
  unfold settle at refused
  split at refused
  · rename_i missing
    rw [SortedMap.contains, missing] at there
    cases there
  · rename_i connection found
    split at refused
    · rename_i reason refuses
      cases refused
      obtain ⟨other, agreed, different, reason⟩ := Connection.agree_refuses refuses
      exact ⟨other, by rw [tagOf, connection_found found, agreed], different, reason⟩
    · cases refused

/-- A message that is published leaves the connection of its channel with its own type. It found
this type there, and then nothing has changed, or it has come back to fix it. -/
theorem accept_accepts {subscribers : List Endpoint}
    (accepted : channels.accept message = .ok (name, subscribers, changed)) :
    channels.Publishes message name ∧
      Extends channels changed ∧ changed.tagOf name = some message.tag := by
  unfold accept at accepted
  split at accepted
  · cases accepted
  · rename_i found looked
    obtain ⟨bound, agreed⟩ := publication_found looked
    split at accepted
    · rename_i other present
      split at accepted
      · rename_i same
        cases accepted
        exact ⟨bound, extends_refl channels, by rw [← agreed, present, same]⟩
      · cases accepted
    · cases settled : channels.settle found.connection message with
      | error failure =>
        rw [settled] at accepted
        cases accepted
      | ok result =>
        obtain ⟨receivers, later⟩ := result
        rw [settled] at accepted
        cases accepted
        exact ⟨bound, settle_accepts settled⟩

end Channels

end RelayTree
