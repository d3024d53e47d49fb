import RelayTree.Dispatcher.Basic

/-!
# The routers of a host

A host has four routers: its dispatcher, which picks a strategy for each message, and the three
strategies, which can also be used past the dispatcher. All of them route messages, say whether
they reach a host, and keep counters of their own.
-/
namespace RelayTree

/-- What can be given a message to route: the dispatcher, or a strategy of its choice past the
dispatcher. -/
inductive Router where
  | dispatcher
  | strategy (strategy : Strategy)
deriving DecidableEq, Repr

namespace Station

/-- Give a message to a router. Past the dispatcher its counters are not touched. -/
def routeBy (station : Station) (router : Router) (message : Message) : Outcome Station Delivery :=
  match router with
  | .dispatcher => station.route message
  | .strategy strategy => (station.exchange.route strategy message).within station.adopt

/-- Ask a router whether it reaches a host. A downward look-up is remembered as after routing. -/
def reachBy (station : Station) (router : Router) (host : String) : Bool × Station :=
  match router with
  | .dispatcher => station.canReach host
  | .strategy strategy =>
    let (reached, exchange) := station.exchange.reaches strategy host
    (reached, station.adopt exchange)

/-- The counters of a router, which count what went through it and nothing else. -/
def countersOf (station : Station) : Router → Counters
  | .dispatcher => station.dispatcher.counters
  | .strategy strategy => station.dispatcher.book.counters strategy

end Station

end RelayTree
