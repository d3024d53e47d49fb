import RelayTree.Failure
import RelayTree.Queue.Store
import RelayTree.SortedMap

/-!
# The modules of a host

Modules run in runtimes, and all modules of a runtime share its queue. When the
modules are forgotten for a reload the queues stay, and for each module the
runtime it had is parked: registered again, the module is back in it.
-/
namespace RelayTree

/-- A registered module: what it is made from, how it is set up, and the runtime it runs in once it
was placed in one. -/
structure ModuleEntry where
  className : String
  properties : SortedMap String String
  runtime : Option String
deriving DecidableEq

/-- The modules, the queue of each runtime, and the runtimes parked for modules
that may come back. -/
structure Registry where
  modules : SortedMap String ModuleEntry
  runtimes : SortedMap String QueueId
  parked : SortedMap String String
deriving DecidableEq

namespace Registry

/-- No modules and no runtimes, and nothing parked. -/
def empty : Registry := ⟨.empty, .empty, .empty⟩

/-- A registry that is read before there is one is the empty one. -/
instance : Inhabited Registry := ⟨empty⟩

/-- Whether a module is registered, be it placed in a runtime or not. -/
def contains (registry : Registry) (module : String) : Bool := registry.modules.contains module

/-- The registered modules in the order of their names. -/
def ids (registry : Registry) : List String := registry.modules.keys

/-- Register a new module. A runtime that is parked for it is taken back. -/
def add (registry : Registry) (module className : String) (properties : SortedMap String String) :
    Except Failure Registry :=
  if registry.contains module then .error (.duplicateModule module)
  else .ok
    { registry with
      modules := registry.modules.insert module
        ⟨className, properties, registry.parked.get? module⟩
      parked := registry.parked.erase module }

/-- The queue of a runtime, which every module in it shares. -/
def runtimeQueue? (registry : Registry) (runtime : String) : Option QueueId :=
  registry.runtimes.get? runtime

/-- The queue of the runtime that a module runs in. There is none for a module that is not
registered or was not placed yet. -/
def outputQueue? (registry : Registry) (module : String) : Option QueueId := do
  let entry ← registry.modules.get? module
  let runtime ← entry.runtime
  registry.runtimeQueue? runtime

/-- Have a queue for a runtime; the first module in it creates the queue. -/
def openRuntime (registry : Registry) (runtime : String) (queues : QueueStore) :
    Registry × QueueStore :=
  if registry.runtimes.contains runtime then (registry, queues)
  else
    let (queue, queues) := queues.create
    ({ registry with runtimes := registry.runtimes.insert runtime queue }, queues)

/-- Let a module run in a runtime. The module must be registered; it may have run in another runtime
before, which keeps its queue. -/
def place (registry : Registry) (module runtime : String) (queues : QueueStore) :
    Except Failure (Registry × QueueStore) :=
  match registry.modules.get? module with
  | none => .error (.unknownModule module)
  | some entry =>
    let placed : Registry :=
      { registry with
        modules := registry.modules.insert module { entry with runtime := some runtime } }
    .ok (placed.openRuntime runtime queues)

/-- Forget every module and park the runtimes of those that had one. What was
parked before is forgotten. -/
def clear (registry : Registry) : Registry :=
  { registry with
    modules := .empty
    parked := registry.modules.filterMap fun _ entry => entry.runtime }

/-- One line for each module, with a dash where it has no runtime. -/
def text (registry : Registry) : String :=
  String.join (registry.modules.entries.map fun (module, entry) =>
    "  " ++ module ++ " (" ++ entry.className ++ ") runtime=" ++ entry.runtime.getD "-" ++ "\n")

end Registry

end RelayTree
