import Mathlib.Data.List.Nodup
import RelayTree.Switchboard

/-!
# Which modules can be registered

Registering a list of modules goes through unless two of them share a name, or one of
them uses a channel in both directions. Nothing else can fail: a new module has no
channel bound, because only channels of registered modules are ever bound. `Owned` is
that invariant. After that the modules are registered and their channels are bound as they
declare them, and nothing else is.
-/

namespace RelayTree

namespace SortedMap

variable {κ ν : Type} [Ord κ] [Std.LawfulEqOrd κ]

/-- No key is listed twice, as a key that compares as less than another is not the same. -/
theorem keys_nodup (map : SortedMap κ ν) : (map.entries.map (·.1)).Nodup := by
  refine List.Pairwise.map _ ?_ map.increasing
  intro first second less same
  have self : compare second.1 second.1 = .eq := Std.LawfulEqCmp.compare_eq_iff_eq.2 rfl
  rw [same, self] at less
  cases less

/-- A key is present when some entry has it, whatever the value there. -/
theorem contains_iff [Std.TransOrd κ] (map : SortedMap κ ν) (key : κ) :
    map.contains key = true ↔ ∃ value, (key, value) ∈ map.entries := by
  simp only [contains, Option.isSome_iff_exists, mem_entries_iff]

/-- The keys are those that are present, which leads from a listing to single look-ups. -/
theorem mem_keys [Std.TransOrd κ] (map : SortedMap κ ν) (key : κ) :
    key ∈ map.keys ↔ map.contains key = true := by
  simp only [keys, List.mem_map, contains_iff, Prod.exists, exists_and_right, exists_eq_right]

end SortedMap

/-! ## What a module declares -/

namespace ModuleSpec

/-- The channels that a module uses in a role, with their connections: its outputs as a publisher,
its inputs as a subscriber. -/
def channelsAs (spec : ModuleSpec) : Role → SortedMap String String
  | .publisher => spec.outputs
  | .subscriber => spec.inputs

/-- A module is described with this connection and role for a channel. This is what its registration
is to bind. -/
def Declares (spec : ModuleSpec) (channel : String) (binding : Binding) : Prop :=
  (spec.channelsAs binding.role).get? channel = some binding.connection

/-- What is declared is listed with the outputs or with the inputs, in the list that belongs to its
role. -/
theorem declares_iff {spec : ModuleSpec} {channel : String} {binding : Binding} :
    (channel, binding.connection) ∈ spec.outputs.entries ∧ binding.role = .publisher ∨
        (channel, binding.connection) ∈ spec.inputs.entries ∧ binding.role = .subscriber ↔
      spec.Declares channel binding := by
  obtain ⟨connection, role⟩ := binding
  cases role <;> simp [Declares, channelsAs, SortedMap.mem_entries_iff]

end ModuleSpec

/-! ## One channel -/

namespace Channels

/-- A channel can be bound unless it is bound otherwise, and then just this channel has
the binding. -/
theorem bind_free {channels : Channels} {endpoint : Endpoint} {binding : Binding}
    (free : ∀ bound, channels.resolve? endpoint = some bound → bound = binding) :
    ∃ changed, channels.bind endpoint binding = .ok changed ∧
      ∀ other, changed.resolve? other =
        if other = endpoint then some binding else channels.resolve? other := by
  unfold bind
  cases found : channels.resolve? endpoint with
  | none => exact ⟨_, rfl, fun other => SortedMap.get?_insert ..⟩
  | some bound =>
    refine ⟨channels, by simp [free bound found], fun other => ?_⟩
    split
    · rename_i same
      rw [same, found, free bound found]
    · rfl

/-- A channel that is bound otherwise is a conflict, be it another connection or the other role. -/
theorem bind_taken {channels : Channels} {endpoint : Endpoint} {binding bound : Binding}
    (found : channels.resolve? endpoint = some bound) (other : bound ≠ binding) :
    ∃ failure, channels.bind endpoint binding = .error failure := by
  simp [bind, found, other]

end Channels

namespace Switchboard

/-- Only channels of registered modules are bound. It is what makes the channels of a new module
free, whatever was requested before. -/
def Owned (board : Switchboard) : Prop :=
  ∀ endpoint binding, board.channels.resolve? endpoint = some binding →
    board.registry.contains endpoint.module = true

/-! ## The channels of one module -/

variable {module : String} {role : Role}

/-- With the first channel of a list bound, what is bound then or is in the rest of the
list was bound before or is in the list. -/
theorem bound_first {before after : Channels} {channel connection : String}
    {rest : List (String × String)}
    (here : ∀ bound, before.resolve? ⟨module, channel⟩ = some bound → bound = ⟨connection, role⟩)
    (lookups : ∀ endpoint, after.resolve? endpoint =
      if endpoint = ⟨module, channel⟩ then some ⟨connection, role⟩ else before.resolve? endpoint)
    (endpoint : Endpoint) (binding : Binding) :
    after.resolve? endpoint = some binding ∨ endpoint.module = module ∧
        (endpoint.channel, binding.connection) ∈ rest ∧ binding.role = role ↔
      before.resolve? endpoint = some binding ∨ endpoint.module = module ∧
        (endpoint.channel, binding.connection) ∈ (channel, connection) :: rest ∧
          binding.role = role := by
  rw [lookups]
  by_cases same : endpoint = ⟨module, channel⟩
  · subst same
    obtain ⟨target, direction⟩ := binding
    simp only [if_true, Option.some.injEq, Binding.mk.injEq, List.mem_cons, Prod.mk.injEq,
      true_and]
    constructor
    · rintro (⟨rfl, rfl⟩ | ⟨member, rfl⟩)
      · exact .inr ⟨.inl rfl, rfl⟩
      · exact .inr ⟨.inr member, rfl⟩
    · rintro (found | ⟨rfl | member, rfl⟩)
      · obtain ⟨rfl, rfl⟩ := Binding.mk.inj (here _ found)
        exact .inl ⟨rfl, rfl⟩
      · exact .inl ⟨rfl, rfl⟩
      · exact .inr ⟨member, rfl⟩
  · have elsewhere : endpoint.module = module → endpoint.channel ≠ channel := by
      rintro rfl rfl
      exact same rfl
    rw [if_neg same]
    simp only [List.mem_cons, Prod.mk.injEq]
    constructor
    · rintro (found | ⟨own, member, way⟩)
      · exact .inl found
      · exact .inr ⟨own, .inr member, way⟩
    · rintro (found | ⟨own, ⟨name, _⟩ | member, way⟩)
      · exact .inl found
      · exact absurd name (elsewhere own)
      · exact .inr ⟨own, member, way⟩

/-- Channels with different names that are not bound otherwise can all be bound. What is bound
afterwards is what was, and these. The names must differ because the first of two equal ones would
be in the way of the second. -/
theorem bind_each_free (entries : List (String × String)) (board : Switchboard)
    (registered : board.registry.contains module = true)
    (distinct : (entries.map (·.1)).Nodup)
    (free : ∀ channel connection, (channel, connection) ∈ entries → ∀ bound,
      board.channels.resolve? ⟨module, channel⟩ = some bound → bound = ⟨connection, role⟩) :
    let bound := board.bindEach module role entries
    bound.result = .ok () ∧ bound.state.registry = board.registry ∧
      ∀ endpoint binding, bound.state.channels.resolve? endpoint = some binding ↔
        board.channels.resolve? endpoint = some binding ∨ endpoint.module = module ∧
          (endpoint.channel, binding.connection) ∈ entries ∧ binding.role = role := by
  induction entries generalizing board with
  | nil => simp [bindEach, Outcome.ok]
  | cons entry rest inductionHypothesis =>
    obtain ⟨channel, connection⟩ := entry
    obtain ⟨fresh, apart⟩ := List.nodup_cons.mp distinct
    have here : ∀ bound, board.channels.resolve? ⟨module, channel⟩ = some bound →
        bound = ⟨connection, role⟩ := free channel connection List.mem_cons_self
    obtain ⟨changed, bound, lookups⟩ := Channels.bind_free here
    have step : board.bind ⟨module, channel⟩ ⟨connection, role⟩ =
        .ok { board with channels := changed } := by
      simp [bind, checkModule, registered, bindChannel, bound, Except.map]
    have freeAfter : ∀ other target, (other, target) ∈ rest → ∀ found,
        changed.resolve? ⟨module, other⟩ = some found → found = ⟨target, role⟩ := by
      intro other target member found
      have different : other ≠ channel := by
        rintro rfl
        exact fresh (List.mem_map.mpr ⟨_, member, rfl⟩)
      rw [lookups, if_neg (by simpa using different)]
      exact free other target (List.mem_cons_of_mem _ member) found
    obtain ⟨result, registry, later⟩ :=
      inductionHypothesis { board with channels := changed } registered apart freeAfter
    simp only [bindEach, step]
    refine ⟨result, registry, fun endpoint binding => ?_⟩
    rw [later]
    exact bound_first here lookups endpoint binding

/-- A channel that is bound in the other role is refused, wherever it stands among the
others: bindings before it leave it as it is. -/
theorem bind_each_taken (entries : List (String × String)) (board : Switchboard)
    (registered : board.registry.contains module = true) {channel connection : String}
    {bound : Binding} (member : (channel, connection) ∈ entries)
    (found : board.channels.resolve? ⟨module, channel⟩ = some bound) (other : bound.role ≠ role) :
    ∃ failure, (board.bindEach module role entries).result = .error failure := by
  induction entries generalizing board with
  | nil => cases member
  | cons entry rest inductionHypothesis =>
    obtain ⟨first, target⟩ := entry
    by_cases conflict : ∃ taken, board.channels.resolve? ⟨module, first⟩ = some taken ∧
        taken ≠ ⟨target, role⟩
    · obtain ⟨taken, held, different⟩ := conflict
      obtain ⟨failure, refused⟩ := Channels.bind_taken held different
      exact ⟨failure, by
        simp [bindEach, bind, checkModule, registered, bindChannel, refused, Except.map,
          Outcome.fail]⟩
    · have free : ∀ taken, board.channels.resolve? ⟨module, first⟩ = some taken →
          taken = ⟨target, role⟩ := by
        intro taken held
        by_contra different
        exact conflict ⟨taken, held, different⟩
      obtain ⟨changed, accepted, lookups⟩ := Channels.bind_free free
      have apart : channel ≠ first := by
        rintro rfl
        exact other (congrArg Binding.role (free bound found))
      have later : (channel, connection) ∈ rest := by
        rcases List.mem_cons.mp member with same | later
        · exact absurd (congrArg Prod.fst same) apart
        · exact later
      have kept : changed.resolve? ⟨module, channel⟩ = some bound := by
        rw [lookups, if_neg (by simpa using apart)]
        exact found
      have step : board.bind ⟨module, first⟩ ⟨target, role⟩ =
          .ok { board with channels := changed } := by
        simp [bind, checkModule, registered, bindChannel, accepted, Except.map]
      simp only [bindEach, step]
      exact inductionHypothesis { board with channels := changed } registered later kept

/-! ## One module -/

/-- No channel of the module is bound in both directions, as one that is would conflict with
itself. -/
def OneWay (spec : ModuleSpec) : Prop :=
  ∀ channel, spec.outputs.contains channel = true → spec.inputs.contains channel = false

/-- The board on which a new module has a place and no channel yet. If a runtime was parked under
its name it takes that over, and it is not parked any more. -/
def enroll (board : Switchboard) (spec : ModuleSpec) : Switchboard :=
  { board with
    registry :=
      { board.registry with
        modules := board.registry.modules.insert spec.id
          ⟨spec.className, spec.properties, board.registry.parked.get? spec.id⟩
        parked := board.registry.parked.erase spec.id } }

/-- A new module only has its channels bound, since entering it cannot fail: outputs first, then
inputs, on the board that has the module already. -/
theorem register_fresh {board : Switchboard} {spec : ModuleSpec}
    (fresh : board.registry.contains spec.id = false) :
    board.register spec =
      ((board.enroll spec).bindEach spec.id .publisher spec.outputs.entries).andThen
        fun board _ => board.bindEach spec.id .subscriber spec.inputs.entries := by
  simp [register, Registry.add, fresh, enroll]

/-- A name that is taken is refused, and nothing changes, whatever channels the module declares. -/
theorem register_taken {board : Switchboard} {spec : ModuleSpec}
    (taken : board.registry.contains spec.id = true) :
    (board.register spec).result = .error (.duplicateModule spec.id) := by
  simp [register, Registry.add, taken, Outcome.fail]

/-- The new module is registered beside those that were there. -/
theorem contains_enroll (board : Switchboard) (spec : ModuleSpec) (other : String) :
    (board.enroll spec).registry.contains other = true ↔
      other = spec.id ∨ board.registry.contains other = true := by
  by_cases same : other = spec.id <;> simp [enroll, Registry.contains, SortedMap.contains, same]

variable {board : Switchboard} {spec : ModuleSpec}

/-- After the outputs of a new module just these are bound for it, as publishers. On a board that
only has channels of registered modules nothing can be in their way. -/
theorem bind_outputs (owned : board.Owned) (fresh : board.registry.contains spec.id = false) :
    let bound := (board.enroll spec).bindEach spec.id .publisher spec.outputs.entries
    bound.result = .ok () ∧ bound.state.registry = (board.enroll spec).registry ∧
      ∀ endpoint binding, bound.state.channels.resolve? endpoint = some binding ↔
        board.channels.resolve? endpoint = some binding ∨ endpoint.module = spec.id ∧
          (endpoint.channel, binding.connection) ∈ spec.outputs.entries ∧
          binding.role = .publisher := by
  have registered : (board.enroll spec).registry.contains spec.id = true :=
    (contains_enroll board spec spec.id).mpr (.inl rfl)
  refine bind_each_free _ _ registered spec.outputs.keys_nodup ?_
  intro channel connection _ bound found
  have known := owned ⟨spec.id, channel⟩ bound found
  simp [fresh] at known

/-- A new module without a channel in both directions is registered beside those that were
there, and just its own channels are bound for it, each as it declares. -/
theorem register_accepted (owned : board.Owned)
    (fresh : board.registry.contains spec.id = false) (oneWay : OneWay spec) :
    let registered := board.register spec
    registered.result = .ok () ∧
      (∀ other, registered.state.registry.contains other = true ↔
        other = spec.id ∨ board.registry.contains other = true) ∧
      ∀ endpoint binding, registered.state.channels.resolve? endpoint = some binding ↔
        board.channels.resolve? endpoint = some binding ∨
          endpoint.module = spec.id ∧ spec.Declares endpoint.channel binding := by
  obtain ⟨result, registry, lookups⟩ := bind_outputs owned fresh
  generalize bound : (board.enroll spec).bindEach spec.id .publisher spec.outputs.entries = outputs
    at result registry lookups
  have registered : outputs.state.registry.contains spec.id = true := by
    rw [registry]
    exact (contains_enroll board spec spec.id).mpr (.inl rfl)
  have free : ∀ channel connection, (channel, connection) ∈ spec.inputs.entries → ∀ held,
      outputs.state.channels.resolve? ⟨spec.id, channel⟩ = some held →
        held = ⟨connection, .subscriber⟩ := by
    intro channel connection member held found
    rcases (lookups _ _).mp found with earlier | ⟨_, published, _⟩
    · have known := owned _ _ earlier
      simp [fresh] at known
    · have both := oneWay channel ((spec.outputs.contains_iff channel).mpr ⟨_, published⟩)
      have subscribed := (spec.inputs.contains_iff channel).mpr ⟨_, member⟩
      simp [both] at subscribed
  obtain ⟨resultThen, registryThen, lookupsThen⟩ :=
    bind_each_free spec.inputs.entries outputs.state registered spec.inputs.keys_nodup free
  have whole : board.register spec =
      (outputs.state.bindEach spec.id .subscriber spec.inputs.entries).after outputs.events := by
    rw [register_fresh fresh, bound, Outcome.andThen, result]
  simp only [whole, Outcome.after]
  refine ⟨resultThen, fun other => ?_, fun endpoint binding => ?_⟩
  · rw [registryThen, registry]
    exact contains_enroll board spec other
  · rw [lookupsThen, lookups, or_assoc, ← and_or_left, ModuleSpec.declares_iff]

/-- The board has only channels of registered modules afterwards as well: those it had, and those of
the module that was just registered. -/
theorem owned_registered (owned : board.Owned)
    (fresh : board.registry.contains spec.id = false) (oneWay : OneWay spec) :
    (board.register spec).state.Owned := by
  obtain ⟨_, members, lookups⟩ := register_accepted owned fresh oneWay
  intro endpoint binding found
  rw [members]
  rcases (lookups endpoint binding).mp found with before | ⟨own, _⟩
  · exact .inr (owned endpoint binding before)
  · exact .inl own

/-- A new module with a channel in both directions is refused at the input. The output of that name
was bound just before, as a publisher, and an input would be bound as a subscriber. -/
theorem register_two_way (owned : board.Owned)
    (fresh : board.registry.contains spec.id = false) (twoWay : ¬ OneWay spec) :
    ∃ failure, (board.register spec).result = .error failure := by
  obtain ⟨result, registry, lookups⟩ := bind_outputs owned fresh
  generalize bound : (board.enroll spec).bindEach spec.id .publisher spec.outputs.entries = outputs
    at result registry lookups
  obtain ⟨channel, published, subscribed⟩ :
      ∃ channel, spec.outputs.contains channel = true ∧ spec.inputs.contains channel = true := by
    simpa [OneWay] using twoWay
  obtain ⟨source, listed⟩ := (spec.outputs.contains_iff channel).mp published
  obtain ⟨target, member⟩ := (spec.inputs.contains_iff channel).mp subscribed
  have registered : outputs.state.registry.contains spec.id = true := by
    rw [registry]
    exact (contains_enroll board spec spec.id).mpr (.inl rfl)
  have held : outputs.state.channels.resolve? ⟨spec.id, channel⟩ = some ⟨source, .publisher⟩ :=
    (lookups _ _).mpr (.inr ⟨rfl, listed, rfl⟩)
  obtain ⟨failure, refused⟩ := bind_each_taken spec.inputs.entries outputs.state registered member
    held fun same : Role.publisher = .subscriber => nomatch same
  refine ⟨failure, ?_⟩
  rw [register_fresh fresh, bound, Outcome.andThen, result]
  exact refused

/-! ## All modules -/

/-- Names are distinct, and no module uses a channel in both directions. It is a property of the
list alone, without any board. -/
structure Registrable (specs : List ModuleSpec) : Prop where
  distinct : (specs.map (·.id)).Nodup
  oneWay : ∀ spec ∈ specs, OneWay spec

/-- A list can be registered if its first module uses no channel both ways, the rest can be
registered, and nobody in the rest has the first one's name. -/
theorem registrable_cons {rest : List ModuleSpec} :
    Registrable (spec :: rest) ↔
      OneWay spec ∧ Registrable rest ∧ ∀ other ∈ rest, other.id ≠ spec.id := by
  constructor
  · rintro ⟨distinct, oneWay⟩
    obtain ⟨apart, distinct⟩ := List.nodup_cons.mp distinct
    refine ⟨oneWay spec List.mem_cons_self, ⟨distinct, ?_⟩, ?_⟩
    · exact fun other member => oneWay other (List.mem_cons_of_mem _ member)
    · exact fun other member same => apart (List.mem_map.mpr ⟨other, member, same⟩)
  · rintro ⟨first, registrable, apart⟩
    constructor
    · refine List.nodup_cons.mpr ⟨fun again => ?_, registrable.distinct⟩
      obtain ⟨other, member, same⟩ := List.mem_map.mp again
      exact apart other member same
    · intro other member
      rcases List.mem_cons.mp member with rfl | member
      · exact first
      · exact registrable.oneWay other member

/-- A list of modules can be registered on a board exactly if it is registrable and no
name is taken there. -/
theorem register_all_iff (specs : List ModuleSpec) (board : Switchboard) (owned : board.Owned) :
    (board.registerAll specs).result = .ok () ↔
      Registrable specs ∧ ∀ spec ∈ specs, board.registry.contains spec.id = false := by
  induction specs generalizing board with
  | nil => simpa [registerAll, Outcome.ok] using (⟨.nil, by simp⟩ : Registrable [])
  | cons spec rest inductionHypothesis =>
    rw [registrable_cons, List.forall_mem_cons]
    cases fresh : board.registry.contains spec.id with
    | true =>
      have refused := register_taken fresh
      simp [registerAll, Outcome.andThen, refused]
    | false =>
      by_cases oneWay : OneWay spec
      · obtain ⟨result, members, _⟩ := register_accepted owned fresh oneWay
        have ownedThen := owned_registered owned fresh oneWay
        have later : (board.registerAll (spec :: rest)).result =
            ((board.register spec).state.registerAll rest).result := by
          simp [registerAll, Outcome.andThen, result, Outcome.after]
        have untaken : ∀ other, (board.register spec).state.registry.contains other = false ↔
            other ≠ spec.id ∧ board.registry.contains other = false := by
          intro other
          rw [← Bool.not_eq_true, members, not_or, Bool.not_eq_true]
        rw [later, inductionHypothesis _ ownedThen]
        constructor
        · rintro ⟨registrable, free⟩
          refine ⟨⟨oneWay, registrable, ?_⟩, rfl, ?_⟩
          · exact fun other member => ((untaken other.id).mp (free other member)).1
          · exact fun other member => ((untaken other.id).mp (free other member)).2
        · rintro ⟨⟨_, registrable, apart⟩, _, free⟩
          refine ⟨registrable, fun other member => ?_⟩
          exact (untaken other.id).mpr ⟨apart other member, free other member⟩
      · obtain ⟨failure, refused⟩ := register_two_way owned fresh oneWay
        simp [registerAll, Outcome.andThen, refused, oneWay]

/-- Then just these modules are registered beside those that were there, and just their channels
are bound, each as its module declares. -/
theorem register_all_accepted (specs : List ModuleSpec) (board : Switchboard)
    (owned : board.Owned) (registrable : Registrable specs)
    (untaken : ∀ spec ∈ specs, board.registry.contains spec.id = false) :
    let later := (board.registerAll specs).state
    (∀ other, later.registry.contains other = true ↔
        (∃ spec ∈ specs, other = spec.id) ∨ board.registry.contains other = true) ∧
      ∀ endpoint binding, later.channels.resolve? endpoint = some binding ↔
        board.channels.resolve? endpoint = some binding ∨
          ∃ spec ∈ specs, endpoint.module = spec.id ∧ spec.Declares endpoint.channel binding := by
  induction specs generalizing board with
  | nil => simp [registerAll, Outcome.ok]
  | cons spec rest inductionHypothesis =>
    obtain ⟨oneWay, others, apart⟩ := registrable_cons.mp registrable
    obtain ⟨fresh, free⟩ := List.forall_mem_cons.mp untaken
    obtain ⟨result, members, lookups⟩ := register_accepted owned fresh oneWay
    have freeThen : ∀ other ∈ rest,
        (board.register spec).state.registry.contains other.id = false := by
      intro other listed
      rw [← Bool.not_eq_true, members, not_or, Bool.not_eq_true]
      exact ⟨apart other listed, free other listed⟩
    obtain ⟨membersThen, lookupsThen⟩ :=
      inductionHypothesis _ (owned_registered owned fresh oneWay) others freeThen
    have later : (board.registerAll (spec :: rest)).state =
        ((board.register spec).state.registerAll rest).state := by
      simp [registerAll, Outcome.andThen, result, Outcome.after]
    simp only [later, membersThen, lookupsThen, members, lookups, List.exists_mem_cons_iff]
    refine ⟨fun other => ?_, fun endpoint binding => ?_⟩
    · rw [or_assoc, or_left_comm]
    · rw [or_assoc]

/-- On a cleared board there is no module, and no channel is bound. -/
theorem cleared_bare (board : Switchboard) :
    board.clear.Owned ∧ (∀ module, board.clear.registry.contains module = false) ∧
      ∀ endpoint, board.clear.channels.resolve? endpoint = none := by
  have unbound : ∀ endpoint, board.clear.channels.resolve? endpoint = none := fun _ => rfl
  refine ⟨fun endpoint binding found => ?_, fun _ => rfl, unbound⟩
  cases (unbound endpoint).symm.trans found

/-- On a cleared board it only depends on the modules: no name is taken there and no channel
bound. -/
theorem register_cleared_iff (board : Switchboard) (specs : List ModuleSpec) :
    (board.clear.registerAll specs).result = .ok () ↔ Registrable specs := by
  obtain ⟨owned, untaken, _⟩ := cleared_bare board
  rw [register_all_iff specs board.clear owned]
  exact and_iff_left fun spec _ => untaken spec.id

end Switchboard

end RelayTree
