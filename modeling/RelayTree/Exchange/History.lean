import RelayTree.Desk.Errands
import RelayTree.Exchange.Basic

/-!
# The history of an exchange

What the strategies of a host work on comes about by errands at the desk and by uses of the route
book. The two have nothing to do with each other, so any errands go with any uses.
-/
namespace RelayTree

namespace RouteBook

/-- What can be done with a book: by a build, by routing, and by whoever counts. -/
inductive Use where
  /-- Install the tree of some hosts, if they have one. -/
  | install (hosts : List Host)
  /-- Forget the remembered paths. -/
  | forget
  /-- Look a downward path up. -/
  | resolve (target : String)
  /-- Count something. -/
  | count (strategy : Strategy) (change : Counters → Counters)

/-- The book of a host after a use. Hosts that make no tree leave the one that is installed. -/
def used (current : String) (book : RouteBook) : Use → RouteBook
  | .install hosts =>
    match RoutingTree.ofHosts hosts with
    | .ok tree => book.install tree
    | .error _ => book
  | .forget => book.forget
  | .resolve target => (book.resolveDown current target).2
  | .count strategy change => book.count strategy change

/-- The book of a host after uses in order, from one that knows nothing. -/
def after (current : String) (uses : List Use) : RouteBook := uses.foldl (used current) .empty

end RouteBook

/-- What the strategies of a host work on, after errands at the desk and uses of the book. -/
def Exchange.after (host : String) (store : QueueStore) (errands : List Errand)
    (uses : List RouteBook.Use) : Exchange where
  desk := (Desk.after host store errands).1
  queues := (Desk.after host store errands).2
  book := RouteBook.after host uses

end RelayTree
