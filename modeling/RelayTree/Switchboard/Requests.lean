import RelayTree.Switchboard

/-!
# Requests to a switchboard

Everything that is ever asked of a switchboard, as data, and what comes of it when it has the
switchboard to itself. A history is a list of requests, each served before the next one. A
request that fails may have done part of its work; the next one finds the switchboard as the
failed one left it.
-/
namespace RelayTree

/-- What a switchboard is asked to do. These are all the ways in which its modules, channels and
runtimes ever change. -/
inductive Request where
  /-- Register a module without channels. -/
  | enroll (module className : String) (properties : SortedMap String String)
  /-- Let a module run in a runtime. -/
  | place (module runtime : String)
  /-- Bind a channel of a module. -/
  | bind (endpoint : Endpoint) (binding : Binding)
  /-- Present the types of a module's channels by samples. -/
  | present (module : String) (samples : List Message)
  /-- Copy a message to the subscribers of its connection. -/
  | publish (message : Message)
  /-- Register a module with its channels. -/
  | register (spec : ModuleSpec)
  /-- Forget all modules and channels. -/
  | clear

/-- What a switchboard answers when it has done as asked. Only a publication has a number to
report. -/
inductive Reply where
  | done
  /-- So many copies were queued. -/
  | copies (count : Nat)
deriving DecidableEq, Repr

namespace Switchboard

/-- Take over a change of the registered modules, and maybe of the queues. -/
def enrolled (board : Switchboard) (queues : QueueStore) :
    Except Failure (Registry × QueueStore) → Outcome (Switchboard × QueueStore) Reply
  | .ok (registry, queues) => .ok ({ board with registry := registry }, queues) .done
  | .error failure => .fail (board, queues) failure

/-- Do as asked, with nobody coming in between. What a refused request has done until then is part
of the outcome. -/
def serve (board : Switchboard) (queues : QueueStore) :
    Request → Outcome (Switchboard × QueueStore) Reply
  | .enroll module className properties =>
    board.enrolled queues
      ((board.registry.add module className properties).map fun registry => (registry, queues))
  | .place module runtime => board.enrolled queues (board.registry.place module runtime queues)
  | .bind endpoint binding =>
    ((Outcome.change board (board.bind endpoint binding)).map fun _ => .done).within (·, queues)
  | .present module samples =>
    ((board.present module samples).map fun _ => .done).within (·, queues)
  | .publish message => (board.publish queues message).map .copies
  | .register spec => ((board.register spec).map fun _ => .done).within (·, queues)
  | .clear => .ok (board.clear, queues) .done

/-- The switchboard and the queues after all requests, one after the other, whatever came of each of
them. -/
def serveAll (board : Switchboard) (queues : QueueStore) (requests : List Request) :
    Switchboard × QueueStore :=
  requests.foldl (fun state request => (state.1.serve state.2 request).state) (board, queues)

end Switchboard

end RelayTree
