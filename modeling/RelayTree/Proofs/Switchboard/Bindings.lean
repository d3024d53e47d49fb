import Mathlib.Data.List.Induction
import RelayTree.Proofs.Registration
import RelayTree.Proofs.Switchboard.History

/-!
# Channels and the parties of connections

What a channel is bound to is written twice: as its binding, and among the parties of a connection.
A publication is sent to the parties, and whether it may be sent at all is looked up in the
bindings, so nobody would notice at once if the two did not match. `Mirrored` says that they do,
and that no connection is without parties. Each of the changes that requests are made of keeps it,
and so do the requests, those that fail halfway included. A channel therefore has one connection
and one role in it, which it keeps until everything is forgotten.
-/

namespace RelayTree

namespace SortedSet

variable {κ : Type} [Ord κ] [Std.TransOrd κ] [Std.LawfulEqOrd κ] [DecidableEq κ]

/-- The members of a set after one is added are that one and those there were. -/
theorem mem_add {set : SortedSet κ} {member other : κ} :
    other ∈ (set.add member).toList ↔ other = member ∨ other ∈ set.toList := by
  simp only [toList, add, SortedMap.mem_keys, SortedMap.contains, SortedMap.get?_insert]
  split <;> simp [*]

end SortedSet

/-- A channel that joins is a party in its own role only, and nobody leaves when somebody joins. -/
theorem Connection.mem_join {connection : Connection} {role way : Role}
    {endpoint other : Endpoint} : other ∈ (connection.join role endpoint).members way ↔
      other = endpoint ∧ way = role ∨ other ∈ connection.members way := by
  cases role <;> cases way <;> simp [join, members, SortedSet.mem_add]

namespace Channels

/-- A connection has the channel as a party, in the role that the binding names. This is the other
of the two places where a binding is written. -/
def Lists (channels : Channels) (endpoint : Endpoint) (binding : Binding) : Prop :=
  ∃ connection, channels.connections.get? binding.connection = some connection ∧
    endpoint ∈ connection.members binding.role

/-- The channels that are bound are the parties of connections, and each connection has some. From
this it follows that a channel is a party of one connection, in one role. -/
structure Mirrored (channels : Channels) : Prop where
  listed : ∀ endpoint binding,
    channels.resolve? endpoint = some binding ↔ channels.Lists endpoint binding
  inhabited : ∀ name, channels.connections.contains name = true →
    ∃ endpoint role, channels.Lists endpoint ⟨name, role⟩

variable {channels : Channels} {endpoint other : Endpoint} {binding target : Binding}
  {name tag : String}

/-- A connection that is not there has no parties, so it makes no difference whether one asks for
the entry or for the connection by name. -/
theorem lists_iff : channels.Lists endpoint binding ↔
    endpoint ∈ (channels.connection binding.connection).members binding.role := by
  unfold Lists connection
  cases channels.connections.get? binding.connection with
  | none => cases binding.role <;> simp [Connection.empty, Connection.members, SortedSet.toList,
      SortedMap.keys, SortedMap.empty]
  | some connection => simp

/-- Without channels there are no bindings and no parties, which mirror each other. -/
theorem empty_mirrored : Channels.empty.Mirrored where
  listed := fun _ _ => iff_of_false nofun nofun
  inhabited := fun _ => nofun

/-! ## Binding a channel -/

/-- The parties after a channel has joined are those there were and that channel, under its own
binding and no other. -/
theorem joined_lists : (channels.joined endpoint binding).Lists other target ↔
    other = endpoint ∧ target = binding ∨ channels.Lists other target := by
  obtain ⟨name, role⟩ := binding
  obtain ⟨goal, way⟩ := target
  rw [lists_iff, lists_iff, joined, connection_insert]
  by_cases same : goal = name
  · simp [same, Connection.mem_join]
  · simp [same]

/-- A channel that was free becomes a party of just the connection that it is bound to. It was no
party of any connection before, because then it would have had a binding. -/
theorem joined_mirrored (mirrored : channels.Mirrored)
    (free : channels.resolve? endpoint = none) :
    (channels.joined endpoint binding).Mirrored where
  listed := fun other target => by
    rw [joined_lists, ← mirrored.listed, joined, resolve?, SortedMap.get?_insert]
    split
    · rename_i same
      subst same
      rw [free]
      simp [eq_comm]
    · rename_i apart
      simp [apart, resolve?]
  inhabited := fun name there => by
    rw [joined, SortedMap.contains, SortedMap.get?_insert] at there
    split at there
    · rename_i same
      exact ⟨endpoint, binding.role, joined_lists.mpr (.inl ⟨rfl, same ▸ rfl⟩)⟩
    · obtain ⟨party, role, listed⟩ := mirrored.inhabited name there
      exact ⟨party, role, joined_lists.mpr (.inr listed)⟩

/-! ## Giving a type to a connection -/

/-- Its type makes no difference to the parties of a connection, so types can be agreed on without a
look at them. -/
theorem typed_lists :
    (channels.typed name tag).Lists other target ↔ channels.Lists other target := by
  rw [lists_iff, lists_iff, typed, connection_insert]
  split
  · rename_i same
    rw [same]
    cases target.role <;> rfl
  · rfl

/-- Giving a type to the connection of a bound channel keeps the mirror. The connection may be
entered anew by this, and then the bound channel is its party. -/
theorem typed_mirrored (mirrored : channels.Mirrored)
    (held : channels.resolve? endpoint = some binding) :
    (channels.typed binding.connection tag).Mirrored where
  listed := fun other target => (mirrored.listed other target).trans typed_lists.symm
  inhabited := fun name there => by
    rw [typed, SortedMap.contains, SortedMap.get?_insert] at there
    split at there
    · rename_i same
      subst same
      exact ⟨endpoint, binding.role, typed_lists.mpr ((mirrored.listed _ _).mp held)⟩
    · obtain ⟨party, role, listed⟩ := mirrored.inhabited name there
      exact ⟨party, role, typed_lists.mpr listed⟩

end Channels

namespace Switchboard

/-! ## What changes and requests keep -/

/-- Bindings and parties mirror each other, and belong to registered modules. It is the invariant of
a switchboard that has itself to its callers one at a time. -/
structure Orderly (board : Switchboard) : Prop where
  mirrored : board.channels.Mirrored
  owned : board.Owned

variable {board later : Switchboard}

/-- Each change keeps a switchboard in order: modules come in, a free channel joins for a registered
module, or a connection with a party gets a type. -/
theorem change_orderly (change : board.Change later) (orderly : board.Orderly) :
    later.Orderly := by
  obtain ⟨mirrored, owned⟩ := orderly
  cases change with
  | enrolled more =>
    exact ⟨mirrored, fun endpoint binding held => more _ (owned endpoint binding held)⟩
  | @bound endpoint _ registered free =>
    refine ⟨Channels.joined_mirrored mirrored free, fun other target held => ?_⟩
    rw [Channels.joined, Channels.resolve?, SortedMap.get?_insert] at held
    split at held
    · rename_i same
      exact same ▸ registered
    · exact owned other target held
  | agreed held => exact ⟨Channels.typed_mirrored mirrored held, owned⟩

/-- So does any number of changes, by induction on them. -/
theorem changes_orderly (changes : board.Changes later) (orderly : board.Orderly) :
    later.Orderly := by
  induction changes with
  | refl => exact orderly
  | tail _ change inductionHypothesis => exact change_orderly change inductionHypothesis

/-- Where nothing is bound, there is nothing that could not match, whatever modules there are. -/
theorem bare_orderly (bare : board.channels = .empty) : board.Orderly := by
  refine ⟨bare ▸ Channels.empty_mirrored, fun endpoint binding held => ?_⟩
  rw [bare] at held
  cases held

/-- After any requests a new switchboard is in order. A clear leaves it without channels, and other
requests are made of changes. -/
theorem serve_all_orderly (store queues : QueueStore) (requests : List Request) :
    ((create store).1.serveAll queues requests).1.Orderly := by
  induction requests using List.reverseRecOn with
  | nil => exact bare_orderly rfl
  | append_singleton earlier request inductionHypothesis =>
    rw [serveAll, List.foldl_append]
    by_cases clear : request = .clear
    · subst clear
      exact bare_orderly rfl
    · exact changes_orderly (serve_changes _ _ clear) inductionHypothesis

/-- Every binding is that of a party, and the other way round; a channel has one connection and
one role in it; its module is registered; every connection has a party. A free channel of a module
can be bound at any time, and what is bound stays so whatever is requested, until everything is
forgotten. -/
structure Bound (board : Switchboard) : Prop where
  listed : ∀ endpoint binding,
    board.channels.resolve? endpoint = some binding ↔ board.channels.Lists endpoint binding
  single : ∀ endpoint binding other, board.channels.Lists endpoint binding →
    board.channels.Lists endpoint other → binding = other
  registered : ∀ endpoint binding, board.channels.resolve? endpoint = some binding →
    board.registry.contains endpoint.module = true
  inhabited : ∀ name connection, board.channels.connections.get? name = some connection →
    ∃ endpoint role, endpoint ∈ connection.members role
  lasting : ∀ queues later, .clear ∉ later → ∀ endpoint binding,
    board.channels.resolve? endpoint = some binding →
      (board.serveAll queues later).1.channels.resolve? endpoint = some binding
  binds : ∀ endpoint binding, board.registry.contains endpoint.module = true →
    board.channels.resolve? endpoint = none →
      ∃ later, board.bind endpoint binding = .ok later ∧
        later.channels.resolve? endpoint = some binding
  cleared : ∀ endpoint, board.clear.channels.resolve? endpoint = none

/-- A free channel of a registered module can be bound, and the outcome is the channel joined to its
connection. -/
theorem bind_free_channel {endpoint : Endpoint} {binding : Binding}
    (registered : board.registry.contains endpoint.module = true)
    (free : board.channels.resolve? endpoint = none) :
    board.bind endpoint binding =
      .ok { board with channels := board.channels.joined endpoint binding } := by
  rw [bind, checkModule, if_pos registered]
  exact congrArg (Except.map _) (Channels.bind_joined free)

/-- Whatever was requested of a switchboard, and with whatever success, channels and the parties
of connections mirror each other.

Proof: `Mirrored` and `Owned` are kept by each of the small changes that requests consist of, and
requests that fail halfway have made some of these changes. So both hold after any requests. That a
binding lasts is a property of what follows, which only adds to the channels as long as nothing is
forgotten. All other parts of `Bound` are read off the two invariants. -/
theorem channels_mirror_parties (store queues : QueueStore) (requests : List Request) :
    ((create store).1.serveAll queues requests).1.Bound := by
  obtain ⟨mirrored, owned⟩ := serve_all_orderly store queues requests
  generalize ((create store).1.serveAll queues requests).1 = board at mirrored owned
  refine
    { listed := mirrored.listed
      single := ?single
      registered := owned
      inhabited := ?inhabited
      lasting := fun queues later uncleared endpoint binding =>
        (serve_all_extends board queues later uncleared).bindings
      binds := ?binds
      cleared := fun _ => rfl }
  case single =>
    intro endpoint binding other one also
    have held := (mirrored.listed endpoint binding).mpr one
    exact Option.some.inj (held.symm.trans ((mirrored.listed endpoint other).mpr also))
  case inhabited =>
    intro name connection there
    have known : board.channels.connections.contains name = true := by
      rw [SortedMap.contains, there]
      rfl
    obtain ⟨endpoint, role, found, same, listed⟩ := mirrored.inhabited name known
    cases there.symm.trans same
    exact ⟨endpoint, role, listed⟩
  case binds =>
    intro endpoint binding registered free
    refine ⟨_, bind_free_channel registered free, ?_⟩
    rw [Channels.joined, Channels.resolve?, SortedMap.get?_insert, if_pos rfl]

end Switchboard

end RelayTree
