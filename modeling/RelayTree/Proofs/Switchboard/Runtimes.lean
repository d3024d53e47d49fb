import Mathlib.Data.List.Induction
import RelayTree.Proofs.Dispatcher.FreshStart
import RelayTree.Switchboard.Requests

/-!
# Back in the same runtime

When everything is forgotten, each module leaves the name of its runtime behind, and takes it back
when it is registered again. The queue is that of the name, and the queue of a name never changes.
`Turn` lists what a request can make of the registered modules: of all requests only four kinds
touch them. That each turn keeps an invariant is therefore three cases, and `serve_all_turns` is the
one induction over a history. Two invariants carry the result: a runtime that is recorded anywhere
has a queue (`Housed`), and after everything was forgotten a module is either registered and runs
where it ran just before, or the name of that runtime is parked for it (`Awaits`).
-/

namespace RelayTree

namespace Registry

/-- What a request can make of the registered modules. All requests that concern channels leave them
alone, and so does every request that is refused before it enters a module. -/
inductive Turn (registry : Registry) : Request → Registry → Prop where
  | idle {request : Request} (other : request ≠ .clear) : Turn registry request registry
  /-- A new module takes a runtime back that is parked for it. -/
  | added {request : Request} {module className : String} {properties : SortedMap String String}
    (other : request ≠ .clear) (unknown : registry.contains module = false) :
    Turn registry request
      { registry with
        modules := registry.modules.insert module
          ⟨className, properties, registry.parked.get? module⟩
        parked := registry.parked.erase module }
  /-- A registered module is placed in a runtime that has a queue then. -/
  | placed {module runtime : String} {entry : ModuleEntry} {runtimes : SortedMap String QueueId}
    (known : registry.modules.get? module = some entry)
    (housed : ∃ queue, runtimes.get? runtime = some queue)
    (kept : ∀ name queue, registry.runtimes.get? name = some queue →
      runtimes.get? name = some queue) :
    Turn registry (.place module runtime)
      { registry with
        modules := registry.modules.insert module { entry with runtime := some runtime }
        runtimes := runtimes }
  | cleared : Turn registry .clear registry.clear

variable {registry later : Registry} {request : Request}

/-- Registering a module that is not there yet is one of these turns, whichever request does it. -/
theorem add_turn {module className : String} {properties : SortedMap String String}
    (other : request ≠ .clear)
    (added : registry.add module className properties = .ok later) :
    registry.Turn request later := by
  rw [add] at added
  split at added
  · cases added
  · rename_i unknown
    cases added
    exact .added other (Bool.eq_false_iff.mpr unknown)

/-- Placing a module is another one. The runtime is opened if nobody was placed in it before, and
the queues of all others stay. -/
theorem place_turn {module runtime : String} {queues left : QueueStore}
    (placed : registry.place module runtime queues = .ok (later, left)) :
    registry.Turn (.place module runtime) later := by
  rw [place] at placed
  split at placed
  · cases placed
  · rename_i entry known
    simp only [openRuntime] at placed
    split at placed
    · rename_i there
      cases placed
      exact .placed known (Option.isSome_iff_exists.mp there) fun _ _ => id
    · rename_i missing
      cases placed
      refine .placed known ⟨_, by rw [SortedMap.get?_insert, if_pos rfl]⟩ fun name queue found => ?_
      have apart : name ≠ runtime := by
        rintro rfl
        exact missing (by rw [SortedMap.contains, found]; rfl)
      rw [SortedMap.get?_insert, if_neg apart]
      exact found

/-! ## What turns keep -/

/-- A runtime that is recorded for a module, registered or not, has a queue. -/
def Housed (registry : Registry) : Prop :=
  ∀ module runtime, registry.runtimeOf? module = some runtime ∨
    registry.parked.get? module = some runtime →
      ∃ queue, registry.runtimeQueue? runtime = some queue

/-- A module that is registered again runs where it ran before, and for one that is not, just that
is parked. -/
structure Awaits (before now : Registry) (module : String) : Prop where
  returned : now.contains module = true → now.runtimeOf? module = before.runtimeOf? module
  parked : now.contains module = false → now.parked.get? module = before.runtimeOf? module

/-- The runtime of a module that was entered is that of its entry. -/
theorem runtime_inserted (modules : SortedMap String ModuleEntry)
    (runtimes : SortedMap String QueueId) (parked : SortedMap String String)
    (module other : String) (entry : ModuleEntry) :
    Registry.runtimeOf? ⟨modules.insert module entry, runtimes, parked⟩ other =
      if other = module then entry.runtime else (modules.get? other).bind (·.runtime) := by
  rw [runtimeOf?, SortedMap.get?_insert]
  split <;> rfl

/-- Entering a module does not change which others are registered, whatever becomes of the runtimes
and of what is parked. -/
theorem contains_inserted (modules : SortedMap String ModuleEntry)
    (runtimes : SortedMap String QueueId) (parked : SortedMap String String)
    {module other : String} (entry : ModuleEntry) (apart : other ≠ module) :
    Registry.contains ⟨modules.insert module entry, runtimes, parked⟩ other =
      modules.contains other := by
  rw [contains, SortedMap.contains, SortedMap.get?_insert, if_neg apart, SortedMap.contains]

/-- The queue of a runtime stays the same: no turn closes a runtime, and one that has a queue is not
opened again. -/
theorem turn_lasting {runtime : String} {queue : QueueId} (turn : registry.Turn request later)
    (found : registry.runtimeQueue? runtime = some queue) :
    later.runtimeQueue? runtime = some queue := by
  cases turn with
  | idle | added | cleared => exact found
  | placed known housed kept => exact kept runtime queue found

/-- Each turn keeps the runtimes that are recorded anywhere in possession of a queue. A runtime is
recorded newly only when a module is placed in it, and then it is opened. -/
theorem turn_housed (turn : registry.Turn request later) (housed : registry.Housed) :
    later.Housed := by
  intro module runtime recorded
  cases turn with
  | idle => exact housed module runtime recorded
  | added =>
    rename_i added _ _ _ _
    rw [runtime_inserted, SortedMap.get?_erase] at recorded
    split at recorded
    · -- The new module runs in the runtime that was parked for it.
      rename_i same
      subst same
      exact housed module runtime (.inr (recorded.resolve_right nofun))
    · exact housed module runtime recorded
  | placed known there kept =>
    rename_i placed target entry runtimes
    rw [runtime_inserted] at recorded
    have earlier (before : registry.runtimeOf? module = some runtime ∨
        registry.parked.get? module = some runtime) :
        ∃ queue, runtimes.get? runtime = some queue := by
      obtain ⟨queue, found⟩ := housed module runtime before
      exact ⟨queue, kept runtime queue found⟩
    rcases recorded with running | parked
    · split at running
      · cases running
        exact there
      · exact earlier (.inl running)
    · exact earlier (.inr parked)
  | cleared =>
    rcases recorded with running | parked
    · cases running
    · rw [clear, SortedMap.get?_filterMap] at parked
      exact housed module runtime (.inl parked)

/-- When everything is forgotten the runtime of each module is parked under the name of the module,
and nobody is registered who could have taken it back. -/
theorem clear_awaits (registry : Registry) (module : String) :
    registry.Awaits registry.clear module where
  returned := nofun
  parked := fun _ => SortedMap.get?_filterMap ..

/-- Others may be registered and placed meanwhile, and so may the module itself be registered. What
it is not allowed is to be placed somewhere else, or to be forgotten once more. -/
theorem turn_awaits {before : Registry} {module : String} (turn : registry.Turn request later)
    (uncleared : request ≠ .clear) (unplaced : ∀ runtime, request ≠ .place module runtime)
    (awaits : before.Awaits registry module) : before.Awaits later module := by
  cases turn with
  | idle => exact awaits
  | cleared => exact absurd rfl uncleared
  | added _ unknown =>
    rename_i added _ _ _
    by_cases same : module = added
    · subst same
      constructor
      case returned =>
        intro _
        rw [runtime_inserted, if_pos rfl]
        exact awaits.parked unknown
      case parked =>
        intro absent
        simp [contains, SortedMap.contains] at absent
    · constructor
      case returned =>
        intro present
        rw [contains_inserted _ _ _ _ same] at present
        rw [runtime_inserted, if_neg same]
        exact awaits.returned present
      case parked =>
        intro absent
        rw [contains_inserted _ _ _ _ same] at absent
        rw [SortedMap.get?_erase, if_neg same]
        exact awaits.parked absent
  | placed =>
    rename_i placed target entry runtimes _ _ _
    have apart : module ≠ placed := by
      rintro rfl
      exact unplaced target rfl
    constructor
    case returned =>
      intro present
      rw [contains_inserted _ _ _ _ apart] at present
      rw [runtime_inserted, if_neg apart]
      exact awaits.returned present
    case parked =>
      intro absent
      rw [contains_inserted _ _ _ _ apart] at absent
      exact awaits.parked absent

/-- A registered module stays so, unless everything is forgotten. No other request takes a module
out of the registry, not even one that fails halfway. -/
theorem turn_registered {module : String} (turn : registry.Turn request later)
    (uncleared : request ≠ .clear) (known : registry.contains module = true) :
    later.contains module = true := by
  cases turn with
  | idle => exact known
  | added | placed => exact SortedMap.contains_inserted known
  | cleared => exact absurd rfl uncleared

/-- And it stays in the runtime that it has, unless it is placed in another one. A new module of
some other name takes back only what was parked for that name. -/
theorem turn_runs {module : String} (turn : registry.Turn request later)
    (uncleared : request ≠ .clear) (unplaced : ∀ runtime, request ≠ .place module runtime)
    (known : registry.contains module = true) :
    later.runtimeOf? module = registry.runtimeOf? module := by
  cases turn with
  | idle => rfl
  | added _ unknown =>
    have apart : module ≠ _ := fun same => by
      rw [same, unknown] at known
      cases known
    exact (runtime_inserted ..).trans (if_neg apart)
  | placed =>
    have apart : module ≠ _ := fun same => unplaced _ (by rw [same])
    exact (runtime_inserted ..).trans (if_neg apart)
  | cleared => exact absurd rfl uncleared

/-- The queue of a module is that of its runtime, so it is enough to follow the names of
runtimes. -/
theorem output_queue_eq (registry : Registry) (module : String) :
    registry.outputQueue? module = (registry.runtimeOf? module).bind registry.runtimeQueue? := by
  rw [outputQueue?, runtimeOf?]
  cases registry.modules.get? module <;> rfl

/-- A module that is not registered runs nowhere, whatever is parked for it. -/
theorem runtime_unregistered {module : String} (absent : registry.contains module = false) :
    registry.runtimeOf? module = none := by
  cases entry : registry.modules.get? module with
  | none => rw [runtimeOf?, entry, Option.bind_none]
  | some _ =>
    rw [contains, SortedMap.contains, entry] at absent
    cases absent

end Registry

namespace Switchboard

variable {board bound : Switchboard}

/-- Binding a channel registers nobody and places nobody. It looks into the registry for the module,
and that is all it has to do with it. -/
theorem bind_registry {endpoint : Endpoint} {binding : Binding}
    (done : board.bind endpoint binding = .ok bound) : bound.registry = board.registry := by
  rw [bind] at done
  split at done
  · cases done
  · rw [bindChannel] at done
    cases result : board.channels.bind endpoint binding with
    | error failure =>
      rw [result] at done
      cases done
    | ok channels =>
      rw [result] at done
      cases done
      rfl

/-- Binding one channel after another does not either, also where it stops before the end. So what a
failed registration has done to the registry was done before the first channel. -/
theorem bind_each_registry (module : String) (role : Role) (entries : List (String × String))
    (board : Switchboard) :
    (board.bindEach module role entries).state.registry = board.registry := by
  induction entries generalizing board with
  | nil => rfl
  | cons entry rest inductionHypothesis =>
    rw [bindEach]
    split
    · rename_i bound done
      exact (inductionHypothesis bound).trans (bind_registry done)
    · rfl

/-- Registering a module with its channels is the turn of entering the module, as binding the
channels is none. -/
theorem register_turn (board : Switchboard) (spec : ModuleSpec) :
    board.registry.Turn (.register spec) (board.register spec).state.registry := by
  have other : Request.register spec ≠ .clear := Request.noConfusion
  cases added : board.registry.add spec.id spec.className spec.properties with
  | error failure =>
    rw [register, added]
    exact .idle other
  | ok registry =>
    have entered : (board.register spec).state.registry = registry := by
      rw [register, added]
      refine Outcome.andThen_keeps (fun changed : Switchboard => changed.registry = registry) ?_
        fun changed _ same => ?_
      · exact bind_each_registry ..
      · exact (bind_each_registry ..).trans same
    rw [entered]
    exact Registry.add_turn other added

/-- A publication leaves modules and runtimes as they are, be it copied or refused. -/
theorem publish_registry (board : Switchboard) (queues : QueueStore) (message : Message) :
    (board.publish queues message).state.1.registry = board.registry := by
  rw [publish]
  split <;> rfl

/-- Every request is a turn for the registered modules, whether it succeeds or fails. Those that
fail are idle turns, and so are those that deal with channels only. -/
theorem serve_turn (board : Switchboard) (queues : QueueStore) (request : Request) :
    board.registry.Turn request (board.serve queues request).state.1.registry := by
  cases request with
  | enroll module className properties =>
    have other : Request.enroll module className properties ≠ .clear := Request.noConfusion
    cases added : board.registry.add module className properties with
    | error failure =>
      simp only [serve, added]
      exact .idle other
    | ok registry =>
      simp only [serve, added]
      exact Registry.add_turn other added
  | place module runtime =>
    cases placed : board.registry.place module runtime queues with
    | error failure =>
      simp only [serve, placed]
      exact .idle Request.noConfusion
    | ok result =>
      simp only [serve, placed]
      exact Registry.place_turn placed
  | bind endpoint binding =>
    have other : Request.bind endpoint binding ≠ .clear := Request.noConfusion
    cases done : board.bind endpoint binding with
    | error failure =>
      simp only [serve, done]
      exact .idle other
    | ok bound =>
      have same : (board.serve queues (.bind endpoint binding)).state.1.registry =
          board.registry := by
        simp only [serve, done]
        exact bind_registry done
      rw [same]
      exact .idle other
  | present module samples => exact .idle Request.noConfusion
  | publish message =>
    have same : (board.serve queues (.publish message)).state.1.registry = board.registry :=
      publish_registry ..
    rw [same]
    exact .idle Request.noConfusion
  | register spec => exact register_turn board spec
  | clear => exact .cleared

/-- What every turn of a history keeps, the history keeps. The property may depend on what is
requested, as it only has to be kept by the turns of the requests in the list. -/
theorem serve_all_turns (property : Registry → Prop) (requests : List Request)
    (board : Switchboard) (queues : QueueStore) (holds : property board.registry)
    (keeps : ∀ request ∈ requests, ∀ registry later, property registry →
      registry.Turn request later → property later) :
    property (board.serveAll queues requests).1.registry := by
  induction requests using List.reverseRecOn with
  | nil => exact holds
  | append_singleton earlier request inductionHypothesis =>
    rw [serveAll, List.foldl_append]
    have before := inductionHypothesis fun other listed =>
      keeps other (List.mem_append_left _ listed)
    exact keeps request (List.mem_append_right _ List.mem_cons_self) _ _ before (serve_turn ..)

/-- What the modules of a switchboard find of their runtimes, now and after everything was
forgotten. -/
structure Returns (board : Switchboard) : Prop where
  housed : ∀ module runtime, board.registry.runtimeOf? module = some runtime ∨
    board.registry.parked.get? module = some runtime →
      ∃ queue, board.registry.runtimeQueue? runtime = some queue
  lasting : ∀ queues later runtime queue, board.registry.runtimeQueue? runtime = some queue →
    (board.serveAll queues later).1.registry.runtimeQueue? runtime = some queue
  /-- A module that ran before everything was forgotten has the same queue when it is back. -/
  returned : ∀ queues later module runtime, .clear ∉ later →
    (∀ other, .place module other ∉ later) → board.registry.runtimeOf? module = some runtime →
      (board.serveAll queues (.clear :: later)).1.registry.contains module = true →
        ∃ queue, board.registry.outputQueue? module = some queue ∧
          (board.serveAll queues (.clear :: later)).1.registry.outputQueue? module = some queue
  /-- And one that did not run then has none. -/
  newcomer : ∀ queues later module, .clear ∉ later →
    (∀ other, .place module other ∉ later) → board.registry.runtimeOf? module = none →
      (board.serveAll queues (.clear :: later)).1.registry.outputQueue? module = none
  absent : ∀ queues later module,
    (board.serveAll queues later).1.registry.contains module = false →
      (board.serveAll queues later).1.registry.outputQueue? module = none

/-- Without modules nothing is recorded, so every runtime that is has a queue. -/
theorem empty_housed : Registry.empty.Housed := by
  rintro module runtime (running | parked)
  · cases running
  · cases parked

/-- Whatever was requested of a switchboard, its modules return to their runtimes. One that ran when
everything was forgotten has the same queue as soon as it is registered again, unless it was placed
anew or everything was forgotten once more; and one that ran nowhere has none.

Proof: `Housed` holds after any requests, since each turn of a registry keeps it, and the queue of a
runtime never changes. From the moment at which everything is forgotten, `Awaits` says of a module
that it is back where it was or that the name of its runtime is parked for it; turns that neither
forget everything nor place the module keep this too. So the three parts are one induction over a
history, made for three invariants. Whether the requests succeed is not asked. -/
theorem modules_return (store queues : QueueStore) (requests : List Request) :
    ((create store).1.serveAll queues requests).1.Returns := by
  have housed : ((create store).1.serveAll queues requests).1.registry.Housed :=
    serve_all_turns Registry.Housed requests _ queues empty_housed fun _ _ _ _ holds turn =>
      Registry.turn_housed turn holds
  generalize ((create store).1.serveAll queues requests).1 = board at housed
  have lasting (waiting : QueueStore) (later : List Request) (runtime : String) (queue : QueueId)
      (found : board.registry.runtimeQueue? runtime = some queue) :
      (board.serveAll waiting later).1.registry.runtimeQueue? runtime = some queue :=
    serve_all_turns (·.runtimeQueue? runtime = some queue) later board waiting found
      fun _ _ _ _ holds turn => Registry.turn_lasting turn holds
  have awaits (waiting : QueueStore) (later : List Request) (module : String)
      (uncleared : .clear ∉ later) (unplaced : ∀ other, .place module other ∉ later) :
      board.registry.Awaits (board.serveAll waiting (.clear :: later)).1.registry module :=
    serve_all_turns (board.registry.Awaits · module) later board.clear waiting
      (Registry.clear_awaits board.registry module) fun request listed _ _ holds turn =>
        Registry.turn_awaits turn (fun clear => uncleared (clear ▸ listed))
          (fun runtime place => unplaced runtime (place ▸ listed)) holds
  constructor
  case housed => exact housed
  case lasting => exact lasting
  case returned =>
    intro waiting later module runtime uncleared unplaced ran present
    obtain ⟨queue, found⟩ := housed module runtime (.inl ran)
    have runs := ((awaits waiting later module uncleared unplaced).returned present).trans ran
    have kept := lasting waiting (.clear :: later) runtime queue found
    refine ⟨queue, ?_, ?_⟩
    · rw [Registry.output_queue_eq, ran, Option.bind_some, found]
    · rw [Registry.output_queue_eq, runs, Option.bind_some, kept]
  case newcomer =>
    intro waiting later module uncleared unplaced idle
    have waits := awaits waiting later module uncleared unplaced
    generalize (board.serveAll waiting (.clear :: later)).1.registry = now at waits ⊢
    have nowhere : now.runtimeOf? module = none := by
      cases present : now.contains module with
      | true => exact (waits.returned present).trans idle
      | false => exact Registry.runtime_unregistered present
    rw [Registry.output_queue_eq, nowhere, Option.bind_none]
  case absent =>
    intro waiting later module absent
    rw [Registry.output_queue_eq, Registry.runtime_unregistered absent, Option.bind_none]

/-- The requests for a host with a module that runs in a runtime, and another one that does not. -/
def staffing : List Request :=
  [.enroll "A" "class" .empty, .enroll "B" "class" .empty, .place "A" "runtime"]

/-- After everything was forgotten both come back, the first one to its queue. -/
theorem staff_returns :
    let board := ((create .empty).1.serveAll (create .empty).2 staffing).1
    let later := [Request.enroll "B" "class" .empty, .enroll "A" "class" .empty]
    (∃ queue, board.registry.outputQueue? "A" = some queue ∧
      (board.serveAll .empty (.clear :: later)).1.registry.outputQueue? "A" = some queue) ∧
    (board.serveAll .empty (.clear :: later)).1.registry.outputQueue? "B" = none := by
  intro board later
  have returns : board.Returns := modules_return .empty _ staffing
  have uncleared : .clear ∉ later := by simp [later]
  have unplaced (module runtime : String) : .place module runtime ∉ later := by simp [later]
  constructor
  · exact returns.returned .empty later "A" "runtime" uncleared (unplaced "A") (by rfl)
      (by decide +kernel)
  · exact returns.newcomer .empty later "B" uncleared (unplaced "B") (by rfl)

end Switchboard

end RelayTree
