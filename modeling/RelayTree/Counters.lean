import RelayTree.Json.Value

/-!
# The three ways a message can leave a host

A message for the host itself is delivered there, a message for a host below goes down to a
connected client, and every other message goes up to the server that the host connects to.

What became of the messages is counted, for each strategy and for the host as a whole, in four
counts of 64 bits each, which wrap around. Routing never reads them.
-/
namespace RelayTree

/-- How a host passes a message on: to one of its own modules, to the server above, or to a client
below. -/
inductive Strategy where
  | onHost
  | upward
  | downward
deriving DecidableEq, Repr

/-- The name of a strategy in tables, diagnostics and logs, after what the host is to the other end:
upwards it is a client, and downwards a server. -/
def Strategy.name : Strategy → String
  | .onHost => "local"
  | .upward => "client"
  | .downward => "server"

/-- What a strategy did with a message it accepted: put it on a queue, or log and
discard it. -/
inductive Delivery where
  | forwarded
  | dropped
deriving DecidableEq, Repr

/-! ## Counters -/

/-- What a router did so far. Only routing downwards looks routes up in a cache. -/
structure Counters where
  routed : UInt64
  dropped : UInt64
  cacheHits : UInt64
  cacheMisses : UInt64
deriving DecidableEq, Repr, Inhabited

namespace Counters

/-- Nothing has happened yet, as all counts begin. -/
def zero : Counters := ⟨0, 0, 0, 0⟩

/-- A message left towards its next hop or module. The count wraps around after the last one that 64
bits can hold. -/
def addRouted (counters : Counters) : Counters := { counters with routed := counters.routed + 1 }

/-- A message was discarded, by a failure or quietly. -/
def addDropped (counters : Counters) : Counters :=
  { counters with dropped := counters.dropped + 1 }

/-- A route was found in the cache, be it a path or that there is none. -/
def addHit (counters : Counters) : Counters := { counters with cacheHits := counters.cacheHits + 1 }

/-- A route was not found in the cache, whether there was a tree to find it in or not. -/
def addMiss (counters : Counters) : Counters :=
  { counters with cacheMisses := counters.cacheMisses + 1 }

/-- The counts on one line, as a host reports them. -/
def text (counters : Counters) : String :=
  "routed=" ++ counters.routed.toNat.repr ++ " dropped=" ++ counters.dropped.toNat.repr
    ++ " cache_hits=" ++ counters.cacheHits.toNat.repr
    ++ " cache_misses=" ++ counters.cacheMisses.toNat.repr

/-- The document of the counts, with one field for each of the four. -/
def toValue (counters : Counters) : Json.Value :=
  .object
    [ ("routed", .natural counters.routed.toNat), ("dropped", .natural counters.dropped.toNat),
      ("cache_hits", .natural counters.cacheHits.toNat),
      ("cache_misses", .natural counters.cacheMisses.toNat) ]

end Counters

end RelayTree
