import Mathlib.Data.List.Induction
import RelayTree.Proofs.Switchboard.Changes

/-!
# A history of requests

Requests that are served one after the other, as seen from the channels. Short of forgetting
everything, each request extends what was bound and agreed on, and so does a history of them.
Whatever is requested of a new switchboard, no channel of it is bound to a connection that is
not there.
-/

namespace RelayTree

namespace Switchboard

variable {board : Switchboard}

/-- Each of the changes that requests are made of extends what was bound and agreed on. -/
theorem change_extends {changed : Switchboard} (change : board.Change changed) :
    Channels.Extends board.channels changed.channels := by
  cases change with
  | enrolled => exact Channels.extends_refl board.channels
  | bound _ free => exact Channels.bind_extends (Channels.bind_joined free)
  | agreed _ typeable =>
    exact Channels.extends_insert fun {tag} agreed => congrArg some (typeable tag agreed).symm

/-- Any number of changes extends what was bound and agreed on, since each of them does and
extending composes. -/
theorem changes_extends {later : Switchboard} (changes : board.Changes later) :
    Channels.Extends board.channels later.channels := by
  induction changes with
  | refl => exact Channels.extends_refl board.channels
  | tail _ change inductionHypothesis =>
    exact Channels.extends_trans inductionHypothesis (change_extends change)

/-- Nothing but forgetting all takes back what was bound and agreed on. A request that fails halfway
is made of changes as well. -/
theorem serve_extends (board : Switchboard) (queues : QueueStore) {request : Request}
    (other : request ≠ .clear) :
    Channels.Extends board.channels (board.serve queues request).state.1.channels :=
  changes_extends (serve_changes board queues other)

/-- A history without a clear extends the channels it began with, by induction on the history from
its end. -/
theorem serve_all_extends (board : Switchboard) (queues : QueueStore) (requests : List Request)
    (uncleared : .clear ∉ requests) :
    Channels.Extends board.channels (board.serveAll queues requests).1.channels := by
  induction requests using List.reverseRecOn with
  | nil => exact Channels.extends_refl board.channels
  | append_singleton earlier request inductionHypothesis =>
    obtain ⟨before, last⟩ := not_or.mp (List.mem_append.not.mp uncleared)
    have other : request ≠ .clear := fun clear => last (List.mem_singleton.mpr clear.symm)
    rw [serveAll, List.foldl_append]
    exact Channels.extends_trans (inductionHypothesis before) (serve_extends _ _ other)

/-- Without channels none is bound to what is not there, so a new switchboard is grounded. -/
theorem empty_grounded : Channels.empty.Grounded := by
  intro endpoint binding bound
  cases bound

/-- The channels of a new switchboard are grounded for good, whatever is requested. A clear begins
again without channels, and everything else extends the ones there are. -/
theorem serve_all_grounded (store queues : QueueStore) (requests : List Request) :
    ((create store).1.serveAll queues requests).1.channels.Grounded := by
  induction requests using List.reverseRecOn with
  | nil => exact empty_grounded
  | append_singleton earlier request inductionHypothesis =>
    rw [serveAll, List.foldl_append]
    by_cases clear : request = .clear
    · subst clear
      exact empty_grounded
    · exact (serve_extends _ _ clear).grounded inductionHypothesis

end Switchboard

end RelayTree
