import Mathlib.Logic.Relation
import RelayTree.Proofs.Switchboard.Agreement
import RelayTree.Switchboard.Requests

/-!
# What requests are made of

Some requests write in several places, and some of them stop halfway. All of them are made of
three kinds of changes, though: modules are taken in, a free channel of one of them is bound, or
the connection of a bound channel gets a type that it did not have. `serve_changes` breaks every
request up into these, whether it succeeds or fails. Only to forget everything is something else.
-/

namespace RelayTree

namespace Channels

variable {channels changed : Channels} {endpoint : Endpoint} {binding : Binding}
  {name : String} {message : Message}

/-- The channels with one more of them bound, entered on both sides: as a binding and as a party of
the connection. -/
def joined (channels : Channels) (endpoint : Endpoint) (binding : Binding) : Channels where
  connections := channels.connections.insert binding.connection
    ((channels.connection binding.connection).join binding.role endpoint)
  bindings := channels.bindings.insert endpoint binding

/-- The channels with a type for a connection, whose publishers and subscribers stay what they are.
If the type was agreed on already these are the same channels. -/
def typed (channels : Channels) (name tag : String) : Channels :=
  { channels with
    connections := channels.connections.insert name
      { channels.connection name with tag := some tag } }

/-- A type that a connection can get: it has no other one. A connection that has just this type can
get it again. -/
def Typeable (channels : Channels) (name tag : String) : Prop :=
  ∀ other, channels.tagOf name = some other → other = tag

/-- A free channel can be bound, to any connection and in any role. -/
theorem bind_joined (free : channels.resolve? endpoint = none) :
    channels.bind endpoint binding = .ok (channels.joined endpoint binding) := by
  rw [bind, free]
  rfl

/-- A channel that is bound was bound before, to the same end, or was free and is joined to its
connection now. -/
theorem bind_joins (bound : channels.bind endpoint binding = .ok changed) :
    changed = channels ∨
      channels.resolve? endpoint = none ∧ changed = channels.joined endpoint binding := by
  cases free : channels.resolve? endpoint with
  | none =>
    rw [bind_joined free] at bound
    exact .inr ⟨rfl, (Except.ok.inj bound).symm⟩
  | some held =>
    simp only [bind, free] at bound
    split at bound
    · exact .inl (Except.ok.inj bound).symm
    · cases bound

/-- Who gets through gives the connection a type that it can get. The connection that comes back
differs from the old one in nothing else. -/
theorem agree_types {module tag : String} {agreed : Connection}
    (accepted : (channels.connection name).agree name module tag = .ok agreed) :
    { channels with connections := channels.connections.insert name agreed } =
      channels.typed name tag ∧ channels.Typeable name tag := by
  have same : agreed = { channels.connection name with tag := some tag } := by
    have own := (Connection.agree_accepts accepted).1
    unfold Connection.agree at accepted
    split at accepted
    · exact (Except.ok.inj accepted).symm
    · split at accepted
      · cases accepted
        rw [← own]
      · cases accepted
  exact ⟨by rw [same, typed], (Connection.agree_accepts accepted).2⟩

/-- A sample gives a type to the connection of a bound channel, and only if that connection has no
other type. -/
theorem present_types {module : String} {sample : Message}
    (accepted : channels.present module sample = .ok changed) :
    ∃ binding, channels.resolve? ⟨module, sample.channel⟩ = some binding ∧
      changed = channels.typed binding.connection sample.tag ∧
      channels.Typeable binding.connection sample.tag := by
  unfold present at accepted
  split at accepted
  · cases accepted
  · split at accepted
    · cases accepted
    · split at accepted
      · cases accepted
      · rename_i binding bound
        cases agrees : (channels.connection binding.connection).agree binding.connection module
            sample.tag with
        | error failure =>
          rw [agrees] at accepted
          cases accepted
        | ok agreed =>
          rw [agrees] at accepted
          cases accepted
          exact ⟨binding, bound, agree_types agrees⟩

/-- A publication gives a type to the connection, or finds its own one there. In the first case the
type was open, so that no agreement is broken by it. -/
theorem accept_types {subscribers : List Endpoint}
    (accepted : channels.accept message = .ok (name, subscribers, changed)) :
    changed = channels ∨
      changed = channels.typed name message.tag ∧ channels.Typeable name message.tag := by
  unfold accept at accepted
  split at accepted
  · cases accepted
  · split at accepted
    · split at accepted
      · cases accepted
        exact .inl rfl
      · cases accepted
    · rename_i found _ _ _
      unfold settle at accepted
      split at accepted
      · cases accepted
      · rename_i connection there
        split at accepted
        · cases accepted
        · rename_i agreed agrees
          cases accepted
          exact .inr (agree_types (connection_found there ▸ agrees))

end Channels

namespace Registry

variable {registry later : Registry} {queues others : QueueStore}

/-- Whoever is registered stays so when a module is entered. Entering refuses a name that is taken,
so it never replaces anybody. -/
theorem add_more {module className : String} {properties : SortedMap String String}
    (added : registry.add module className properties = .ok later) :
    ∀ other, registry.contains other = true → later.contains other = true := by
  rw [add] at added
  split at added
  · cases added
  · cases added
    exact fun _ => SortedMap.contains_inserted

/-- The same where entering a module is one outcome together with the queues, which it does not
touch. -/
theorem enroll_more {module className : String} {properties : SortedMap String String}
    (added : (registry.add module className properties).map (·, queues) = .ok (later, others)) :
    ∀ other, registry.contains other = true → later.contains other = true := by
  cases entered : registry.add module className properties with
  | error failure =>
    rw [entered] at added
    cases added
  | ok changed =>
    rw [entered] at added
    cases added
    exact add_more entered

/-- Whoever is registered stays so when a module is placed in a runtime, the module itself
included, whether the runtime is new or not. -/
theorem place_more {module runtime : String}
    (placed : registry.place module runtime queues = .ok (later, others)) :
    ∀ other, registry.contains other = true → later.contains other = true := by
  unfold place openRuntime at placed
  split at placed
  · cases placed
  · dsimp only at placed
    split at placed <;> cases placed <;> exact fun _ => SortedMap.contains_inserted

end Registry

namespace Switchboard

/-- One of the changes that requests are made of. What a change may do to modules is loosely told on
purpose: none that is registered is lost. -/
inductive Change (board : Switchboard) : Switchboard → Prop where
  /-- Modules are taken in, or placed. -/
  | enrolled {registry : Registry}
    (more : ∀ module, board.registry.contains module = true → registry.contains module = true) :
    Change board { board with registry := registry }
  | bound {endpoint : Endpoint} {binding : Binding}
    (registered : board.registry.contains endpoint.module = true)
    (free : board.channels.resolve? endpoint = none) :
    Change board { board with channels := board.channels.joined endpoint binding }
  | agreed {endpoint : Endpoint} {binding : Binding} {tag : String}
    (held : board.channels.resolve? endpoint = some binding)
    (typeable : board.channels.Typeable binding.connection tag) :
    Change board { board with channels := board.channels.typed binding.connection tag }

/-- Any number of changes, one after the other, none being a number too. -/
def Changes : Switchboard → Switchboard → Prop := Relation.ReflTransGen Change

variable {board changed : Switchboard} {queues : QueueStore}

/-! ## Modules -/

/-- Registering takes one module in and loses none, so it is a change. -/
theorem add_change {module className : String} {properties : SortedMap String String}
    {registry : Registry} (added : board.registry.add module className properties = .ok registry) :
    board.Change { board with registry := registry } :=
  .enrolled (Registry.add_more added)

/-- Placing a module gives it a runtime and keeps all modules registered. -/
theorem place_change {module runtime : String} {registry : Registry} {later : QueueStore}
    (placed : board.registry.place module runtime queues = .ok (registry, later)) :
    board.Change { board with registry := registry } :=
  .enrolled (Registry.place_more placed)

/-! ## Channels -/

/-- A channel is bound only for a module that is registered, and it was free or nothing changes. -/
theorem bind_changes {endpoint : Endpoint} {binding : Binding}
    (bound : board.bind endpoint binding = .ok changed) : board.Changes changed := by
  unfold bind at bound
  cases known : board.registry.contains endpoint.module with
  | false => simp [checkModule, known] at bound
  | true =>
    simp only [checkModule, known, if_true, bindChannel] at bound
    cases result : board.channels.bind endpoint binding with
    | error failure =>
      rw [result] at bound
      cases bound
    | ok channels =>
      rw [result] at bound
      cases bound
      rcases Channels.bind_joins result with rfl | ⟨free, rfl⟩
      · exact .refl
      · exact .single (.bound known free)

/-- Binding one channel after another is made of changes, also where a channel is refused and the
ones before it stay. -/
theorem bind_each_changes (module : String) (role : Role) (entries : List (String × String))
    (board : Switchboard) : board.Changes (board.bindEach module role entries).state := by
  induction entries generalizing board with
  | nil => exact .refl
  | cons entry rest inductionHypothesis =>
    rw [bindEach]
    split
    · rename_i changed bound
      exact (bind_changes bound).trans (inductionHypothesis changed)
    · exact .refl

/-- Registering a module with its channels is one change for the module and then one for each
channel that gets bound. -/
theorem register_changes (board : Switchboard) (spec : ModuleSpec) :
    board.Changes (board.register spec).state := by
  unfold register
  split
  · exact .refl
  · rename_i registry added
    have outputs := bind_each_changes spec.id .publisher spec.outputs.entries
      { board with registry := registry }
    unfold Outcome.andThen
    split
    · exact .head (add_change added) (outputs.trans (bind_each_changes ..))
    · exact .head (add_change added) outputs

/-! ## Types -/

/-- Samples before a refused one have given their types, one change for each of them. So a batch is
a sequence of changes even where it fails, and nothing has to be known of the rest. -/
theorem present_each_changes (module : String) (samples : List Message) (board : Switchboard) :
    board.Changes
      { board with channels := (board.channels.presentEach module samples).state } := by
  induction samples generalizing board with
  | nil => exact .refl
  | cons sample rest inductionHypothesis =>
    rw [Channels.presentEach]
    split
    · rename_i channels accepted
      obtain ⟨binding, held, rfl, free⟩ := Channels.present_types accepted
      exact .head (.agreed held free) (inductionHypothesis { board with channels := _ })
    · exact .refl

/-- Presenting a batch is made of the changes of its samples, or of none where the module has no
name. -/
theorem present_changes (module : String) (samples : List Message) (board : Switchboard) :
    board.Changes (board.present module samples).state := by
  simp only [present, Channels.presentAll, Outcome.within]
  split
  · exact .refl
  · exact present_each_changes module samples board

/-- A publication changes at most the type of its connection. The copies are put on queues, which
are no part of the board. -/
theorem publish_changes (board : Switchboard) (queues : QueueStore) (message : Message) :
    board.Changes (board.publish queues message).state.1 := by
  unfold publish
  split
  · exact .refl
  · rename_i accepted
    rcases Channels.accept_types accepted with rfl | ⟨rfl, free⟩
    · exact .refl
    · exact .single (.agreed (Channels.accept_accepts accepted).1 free)

/-! ## Requests -/

/-- A request to take modules in is one change if it succeeds and none if it is refused. -/
theorem enrolled_changes {change : Except Failure (Registry × QueueStore)}
    (each : ∀ {registry later}, change = .ok (registry, later) →
      board.Change { board with registry := registry }) :
    board.Changes (board.enrolled queues change).state.1 := by
  cases change with
  | error failure => exact .refl
  | ok taken => exact .single (each rfl)

/-- Unless everything is to be forgotten, a request is made of changes. Every invariant of the
channels that survives a change therefore survives a history. -/
theorem serve_changes (board : Switchboard) (queues : QueueStore) {request : Request}
    (other : request ≠ .clear) : board.Changes (board.serve queues request).state.1 := by
  cases request with
  | enroll module className properties =>
    exact enrolled_changes fun taken => .enrolled (Registry.enroll_more taken)
  | place module runtime => exact enrolled_changes place_change
  | bind endpoint binding =>
    cases bound : board.bind endpoint binding with
    | error failure =>
      simp only [serve, bound]
      exact .refl
    | ok changed =>
      simp only [serve, bound]
      exact bind_changes bound
  | present module samples => exact present_changes module samples board
  | publish message => exact publish_changes board queues message
  | register spec => exact register_changes board spec
  | clear => exact absurd rfl other

end Switchboard

end RelayTree
