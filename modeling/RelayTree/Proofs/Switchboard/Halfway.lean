import RelayTree.Proofs.Switchboard.Bindings
import RelayTree.Proofs.Switchboard.Runtimes
import RelayTree.Switchboard.Switchroom

/-!
# Registrations that stop halfway

Registering a module enters it first and then binds its channels, outputs before inputs, each for
itself. Nothing is taken back where a channel is refused: the module stays, in the runtime that was
parked for it, with the channels before the refused one. `Wires` says so of the binding, for any
board. From there the module's name is taken until everything is forgotten, and only then a
description without the fault goes through, with the runtime not lost on the way.

On a board that only has channels of registered modules, and requests never make another one, such
a description is easily told: it names a channel both among its outputs and among its inputs.
-/

namespace RelayTree

namespace Channels

variable {channels : Channels}

/-- The channels with some more of them bound, one after the other, if none is refused. -/
def wired (channels : Channels) (wishes : List Wish) : Except Failure Channels :=
  wishes.foldlM (fun channels wish => channels.bind wish.endpoint wish.binding) channels

/-- Without wishes the channels are wired as they are. -/
theorem wired_nil : channels.wired [] = .ok channels := rfl

/-- Wiring goes on from the channels that the first wish has made. -/
theorem wired_cons {changed : Channels} {wish : Wish} (rest : List Wish)
    (bound : channels.bind wish.endpoint wish.binding = .ok changed) :
    channels.wired (wish :: rest) = changed.wired rest := by
  rw [wired, List.foldlM_cons, bound]
  rfl

/-- Wiring one list of wishes and then another is wiring both, where all of the first could be
bound. -/
theorem wired_append {changed : Channels} {wishes : List Wish} (rest : List Wish)
    (bound : channels.wired wishes = .ok changed) :
    channels.wired (wishes ++ rest) = changed.wired rest := by
  rw [wired, List.foldlM_append]
  change channels.wired wishes >>= _ = _
  rw [bound]
  rfl

/-- A channel is refused exactly if it is bound otherwise, and the failure shows both bindings. To
be bound once more in the same way is no conflict. -/
theorem bind_error_iff {endpoint : Endpoint} {binding : Binding} {failure : Failure} :
    channels.bind endpoint binding = .error failure ↔
      ∃ held, channels.resolve? endpoint = some held ∧ held ≠ binding ∧
        failure = .channelConflict endpoint.module endpoint.channel held.text binding.text := by
  rw [bind]
  cases found : channels.resolve? endpoint with
  | none => simp
  | some held =>
    by_cases same : held = binding
    · simp [same]
    · simp only [if_neg same, Except.error.injEq, Option.some.injEq, exists_eq_left']
      exact ⟨fun shown => ⟨same, shown.symm⟩, fun shown => shown.2.symm⟩

end Channels

namespace Switchboard

variable {board : Switchboard} {spec : ModuleSpec}

/-! ## One channel after the other -/

/-- What comes of binding channels in this order: all of them are bound, or those before the first
refused one are. -/
inductive Wires (board : Switchboard) (wishes : List Wish) : Outcome Switchboard Unit → Prop where
  | whole {channels : Channels} (wired : board.channels.wired wishes = .ok channels) :
    Wires board wishes (.ok { board with channels := channels } ())
  | halfway (bound rest : List Wish) {refused : Wish} {channels : Channels} {failure : Failure}
    (order : wishes = bound ++ refused :: rest)
    (wired : board.channels.wired bound = .ok channels)
    (conflict : channels.bind refused.endpoint refused.binding = .error failure) :
    Wires board wishes (.fail { board with channels := channels } failure)

/-- A registered module may bind what the channels take, so the check of the module drops out of the
account. -/
theorem bind_known (endpoint : Endpoint) (binding : Binding)
    (known : board.registry.contains endpoint.module = true) :
    board.bind endpoint binding = (board.channels.bind endpoint binding).map fun channels =>
      { board with channels := channels } := by
  rw [bind, checkModule, if_pos known]
  rfl

/-- The channels of one role. A channel that is bound is the first of those that are bound with
it, or stands before the refused one. -/
theorem bind_each_wires (module : String) (role : Role) (entries : List (String × String))
    (board : Switchboard) (known : board.registry.contains module = true) :
    board.Wires (entries.map fun entry => ⟨⟨module, entry.1⟩, ⟨entry.2, role⟩⟩)
      (board.bindEach module role entries) := by
  induction entries generalizing board with
  | nil => exact .whole Channels.wired_nil
  | cons entry rest inductionHypothesis =>
    obtain ⟨channel, connection⟩ := entry
    have allowed := bind_known ⟨module, channel⟩ ⟨connection, role⟩ known
    rw [bindEach, List.map_cons]
    cases taken : board.channels.bind ⟨module, channel⟩ ⟨connection, role⟩ with
    | error failure =>
      rw [allowed, taken]
      exact .halfway [] _ rfl Channels.wired_nil taken
    | ok channels =>
      rw [allowed, taken]
      simp only [Except.map]
      have later := inductionHypothesis { board with channels := channels } known
      generalize bindEach { board with channels := channels } module role rest = outcome at later
      cases later with
      | whole wired => exact .whole ((Channels.wired_cons _ taken).trans wired)
      | halfway bound left order wired conflict =>
        refine .halfway (⟨⟨module, channel⟩, ⟨connection, role⟩⟩ :: bound) left ?_
          ((Channels.wired_cons _ taken).trans wired) conflict
        rw [order, List.cons_append]

/-- More channels follow only where all of the first were bound. A registration binds the outputs of
a module and then its inputs, and this puts the two accounts together. -/
theorem wires_and_then {first second : List Wish} {outcome : Outcome Switchboard Unit}
    {next : Switchboard → Unit → Outcome Switchboard Unit} (wires : board.Wires first outcome)
    (further : ∀ channels, Wires { board with channels := channels } second
      (next { board with channels := channels } ())) :
    board.Wires (first ++ second) (outcome.andThen next) := by
  cases wires with
  | halfway bound rest order wired conflict =>
    refine .halfway bound (rest ++ second) ?_ wired conflict
    rw [order, List.append_assoc, List.cons_append]
  | @whole channels bound =>
    have later := further channels
    rw [Outcome.ok, Outcome.andThen_ok]
    generalize next { board with channels := channels } () = outcome at later
    cases later with
    | whole wired => exact .whole ((Channels.wired_append second bound).trans wired)
    | halfway further rest order wired conflict =>
      refine .halfway (first ++ further) rest ?_ ((Channels.wired_append _ bound).trans wired)
        conflict
      rw [order, List.append_assoc]

/-- A new module is entered, and then its channels are bound as far as they can be. -/
theorem register_wires (fresh : board.registry.contains spec.id = false) :
    (board.enroll spec).Wires spec.wishes (board.register spec) := by
  have known : (board.enroll spec).registry.contains spec.id = true :=
    (contains_enroll board spec spec.id).mpr (.inl rfl)
  rw [register_fresh fresh]
  exact wires_and_then (bind_each_wires _ _ _ _ known)
    fun channels => bind_each_wires _ _ _ { board.enroll spec with channels := channels } known

/-! ## What is left -/

/-- A module that was new is registered afterwards, whether its channels could be bound or not. -/
theorem registered_anyway (fresh : board.registry.contains spec.id = false) :
    (board.register spec).state.registry = (board.enroll spec).registry := by
  have wires := register_wires fresh
  generalize board.register spec = registered at wires
  cases wires <;> rfl

/-- All channels that a module binds are its own, be they outputs or inputs. -/
theorem own_wishes {wish : Wish} (member : wish ∈ spec.wishes) :
    wish.endpoint.module = spec.id := by
  rw [ModuleSpec.wishes, List.mem_append, List.mem_map, List.mem_map] at member
  obtain ⟨entry, _, rfl⟩ | ⟨entry, _, rfl⟩ := member <;> rfl

/-- What a failed registration leaves. Where the name is taken, nothing has changed. Where a channel
is refused, the module was new and is registered now, in the runtime that was parked for it, and of
its channels those are bound that come before. -/
inductive Refuses (board : Switchboard) (spec : ModuleSpec) : Failure → Switchboard → Prop where
  | taken (known : board.registry.contains spec.id = true) :
    Refuses board spec (.duplicateModule spec.id) board
  | halfway {bound rest : List Wish} {refused : Wish} {channels : Channels} {held : Binding}
    (fresh : board.registry.contains spec.id = false)
    (order : spec.wishes = bound ++ refused :: rest)
    (wired : board.channels.wired bound = .ok channels)
    (found : channels.resolve? refused.endpoint = some held) (other : held ≠ refused.binding) :
    Refuses board spec
      (.channelConflict spec.id refused.endpoint.channel held.text refused.binding.text)
      { board.enroll spec with channels := channels }

/-- A registration that fails was either refused for its name and changed nothing, or has entered
the module and bound the channels before the one that was refused. -/
theorem register_refuses {failure : Failure}
    (failed : (board.register spec).result = .error failure) :
    board.Refuses spec failure (board.register spec).state := by
  cases known : board.registry.contains spec.id with
  | true =>
    have unchanged : board.register spec = .fail board (.duplicateModule spec.id) := by
      simp [register, Registry.add, known]
    rw [unchanged] at failed ⊢
    cases failed
    exact .taken known
  | false =>
    have wires := register_wires known
    generalize board.register spec = registered at wires failed
    cases wires with
    | whole => cases failed
    | halfway bound rest order wired conflict =>
      cases failed
      obtain ⟨held, found, other, rfl⟩ := Channels.bind_error_iff.mp conflict
      rw [own_wishes (order ▸ List.mem_append_right _ List.mem_cons_self)]
      exact .halfway known order wired found other

/-- On a board that only has channels of registered modules, a module can be registered if its name
is free and it uses no channel in both directions. -/
theorem register_ok_iff (owned : board.Owned) :
    (board.register spec).result = .ok () ↔
      board.registry.contains spec.id = false ∧ OneWay spec := by
  constructor
  · intro accepted
    cases known : board.registry.contains spec.id with
    | true => cases (register_taken known).symm.trans accepted
    | false =>
      by_contra twoWay
      obtain ⟨failure, refused⟩ := register_two_way owned known fun oneWay => twoWay ⟨rfl, oneWay⟩
      cases refused.symm.trans accepted
  · rintro ⟨fresh, oneWay⟩
    exact (register_accepted owned fresh oneWay).1

/-! ## What is done about it later -/

/-- No request but one takes a registered name back, so the name stays taken whatever is requested
in between, and however it comes out. -/
theorem registered_until_clear {module : String} (queues : QueueStore) {requests : List Request}
    (uncleared : .clear ∉ requests) (known : board.registry.contains module = true) :
    (board.serveAll queues requests).1.registry.contains module = true :=
  serve_all_turns (·.contains module = true) requests board queues known
    fun _ listed _ _ holds turn =>
      Registry.turn_registered turn (fun clear => uncleared (clear ▸ listed)) holds

/-- A registered module stays in its runtime unless it is placed in another one. The invariant says
that it is registered, too: a name that is free would take a parked runtime back. -/
theorem runtime_until_placed {module : String} (queues : QueueStore) {requests : List Request}
    (uncleared : .clear ∉ requests) (unplaced : ∀ runtime, .place module runtime ∉ requests)
    (known : board.registry.contains module = true) :
    (board.serveAll queues requests).1.registry.runtimeOf? module =
      board.registry.runtimeOf? module := by
  have kept := serve_all_turns
    (fun registry => registry.contains module = true ∧
      registry.runtimeOf? module = board.registry.runtimeOf? module)
    requests board queues ⟨known, rfl⟩ fun request listed registry later holds turn => by
      have other : request ≠ .clear := fun clear => uncleared (clear ▸ listed)
      have aside : ∀ runtime, request ≠ .place module runtime := fun runtime place =>
        unplaced runtime (place ▸ listed)
      exact ⟨Registry.turn_registered turn other holds.1,
        (Registry.turn_runs turn other aside holds.1).trans holds.2⟩
  exact kept.2

/-- The runtime that was parked for a new module is its own after the registration, whether this
has failed or not. -/
theorem runtime_registered (fresh : board.registry.contains spec.id = false) :
    (board.register spec).state.registry.runtimeOf? spec.id =
      board.registry.parked.get? spec.id := by
  rw [registered_anyway fresh]
  simp [enroll, Registry.runtimeOf?]

/-- When everything is forgotten, the next registration of a module finds the runtime that it ran
in just before, and again it makes no difference whether that one succeeds. -/
theorem runtime_after_clear (board : Switchboard) (spec : ModuleSpec) :
    (board.clear.register spec).state.registry.runtimeOf? spec.id =
      board.registry.runtimeOf? spec.id := by
  have turn := register_turn board.clear spec
  have awaits := Registry.turn_awaits turn Request.noConfusion (fun _ => Request.noConfusion)
    (Registry.clear_awaits board.registry spec.id)
  apply awaits.returned
  rw [registered_anyway rfl]
  exact (contains_enroll board.clear spec spec.id).mpr (.inl rfl)

/-- A registration that fails is not always undone. For a name that is taken nothing has changed.
Otherwise the module is registered, with the channels before the refused one. Where only registered
modules have channels, a new module is refused exactly if it uses a channel in both directions.

What can be done about it depends on what is requested in the meantime, successfully or not. Until
everything is forgotten the name is taken, also for a corrected description. As soon as it is
forgotten a description without the fault goes through. If the module was not placed anew meanwhile,
it is back in the runtime that was parked for it before the failed registration.

Proof: binding is followed wish by wish, so that what a failure leaves is a statement about any
board. Whether a name is free decides the first part of the outcome, and `OneWay` the second part,
since on such a board no channel of a new module is bound by anybody else. The later requests are a
history, along which registered names and their runtimes are invariants. -/
theorem failed_registration_left (board : Switchboard) (spec : ModuleSpec) :
    let registered := board.register spec
    (∀ failure, registered.result = .error failure →
      board.Refuses spec failure registered.state) ∧
    (board.Owned → (registered.result = .ok () ↔
      board.registry.contains spec.id = false ∧ OneWay spec)) ∧
    ∀ corrected : ModuleSpec, corrected.id = spec.id →
      board.registry.contains spec.id = false →
        ∀ (queues : QueueStore) (requests : List Request),
          let later := (registered.state.serveAll queues requests).1
          (.clear ∉ requests →
            (later.register corrected).result = .error (.duplicateModule spec.id)) ∧
          (OneWay corrected → (later.clear.register corrected).result = .ok ()) ∧
          (.clear ∉ requests → (∀ runtime, .place spec.id runtime ∉ requests) →
            (later.clear.register corrected).state.registry.runtimeOf? spec.id =
              board.registry.parked.get? spec.id) := by
  refine ⟨fun _ => register_refuses, register_ok_iff, ?_⟩
  intro corrected same fresh queues requests later
  have known : (board.register spec).state.registry.contains spec.id = true := by
    rw [registered_anyway fresh]
    exact (contains_enroll board spec spec.id).mpr (.inl rfl)
  refine ⟨fun uncleared => ?_, fun oneWay => ?_, fun uncleared unplaced => ?_⟩
  · have taken : later.registry.contains corrected.id = true :=
      same ▸ registered_until_clear queues uncleared known
    exact same ▸ register_taken taken
  · obtain ⟨bare, free, _⟩ := cleared_bare later
    exact (register_ok_iff bare).mpr ⟨free corrected.id, oneWay⟩
  · calc (later.clear.register corrected).state.registry.runtimeOf? spec.id
        = later.registry.runtimeOf? spec.id := same ▸ runtime_after_clear later corrected
      _ = (board.register spec).state.registry.runtimeOf? spec.id :=
        runtime_until_placed queues uncleared unplaced known
      _ = board.registry.parked.get? spec.id := runtime_registered fresh

/-- What a module was told before everything was forgotten: to be there, and to run in a runtime. -/
def formerShift : List Request := [.enroll "A" "class" .empty, .place "A" "runtime", .clear]

/-- The board that it left: no module is there, and a runtime is parked for the one that was. -/
def deserted : Switchboard :=
  ((create .empty).1.serveAll (create .empty).2 formerShift).1

/-- A module that publishes and listens under one name, to two connections, so that its second
binding under that name is refused. -/
def twoFaced : ModuleSpec :=
  ((((ModuleSpec.plain "A" "class" "S").publish "out" "c").publish "talk" "c").subscribe
    "in" "d").subscribe "talk" "d"

/-- The same module without the fault, which keeps the name it publishes under. -/
def straight : ModuleSpec := (ModuleSpec.plain "A" "class" "S").publish "out" "c"

/-- It is refused and stays registered, with all channels but the last one. A description without
the fault is kept out until everything is forgotten once more. -/
theorem two_faced_left :
    let registered := deserted.register twoFaced
    let failure := Failure.channelConflict "A" "talk" "c (publisher)" "d (subscriber)"
    registered.result = .error failure ∧ deserted.Refuses twoFaced failure registered.state ∧
      ¬ OneWay twoFaced ∧ registered.state.channels.resolve? ⟨"A", "in"⟩ =
        some ⟨"d", .subscriber⟩ ∧
      (registered.state.register straight).result = .error (.duplicateModule "A") ∧
      (registered.state.clear.register straight).result = .ok () ∧
      (registered.state.clear.register straight).state.registry.runtimeOf? "A" =
        some "runtime" := by
  dsimp only
  obtain ⟨left, decided, corrected⟩ := failed_registration_left deserted twoFaced
  have owned : deserted.Owned := (serve_all_orderly .empty _ formerShift).owned
  have fresh : deserted.registry.contains twoFaced.id = false := by decide
  have failed : (deserted.register twoFaced).result =
      .error (.channelConflict "A" "talk" "c (publisher)" "d (subscriber)") := by decide
  have twoWay : ¬ OneWay twoFaced := fun oneWay =>
    nomatch failed.symm.trans ((decided owned).mpr ⟨fresh, oneWay⟩)
  have oneWay : OneWay straight := fun _ _ => rfl
  obtain ⟨again, cleared, runtime⟩ := corrected straight rfl fresh .empty []
  have named : twoFaced.id = "A" := rfl
  have parked : deserted.registry.parked.get? "A" = some "runtime" := by decide
  rw [named, parked] at runtime
  have uncleared : Request.clear ∉ [] := List.not_mem_nil
  exact ⟨failed, left _ failed, twoWay, by decide, again uncleared, cleared oneWay,
    runtime uncleared fun _ => List.not_mem_nil⟩

/-- So a registration can fail and still change the board, also one that requests lead to. Here it
is the board of a host that has just started, and the module is registered afterwards. -/
theorem registration_not_undone :
    ¬ ∀ (store queues : QueueStore) (requests : List Request) (spec : ModuleSpec)
      (failure : Failure),
      let board := ((create store).1.serveAll queues requests).1
      (board.register spec).result = .error failure → (board.register spec).state = board := by
  intro undone
  have same := undone .empty .empty [] twoFaced
    (.channelConflict "A" "talk" "c (publisher)" "d (subscriber)") (by decide)
  have known := congrArg (fun board => board.registry.contains "A") same
  revert known
  decide

end Switchboard

end RelayTree
