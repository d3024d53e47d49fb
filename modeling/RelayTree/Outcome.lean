import RelayTree.Event
import RelayTree.Failure

/-!
# Outcomes

An operation on a state returns a result or a failure, the state after it, and
the log events on the way. A failure does not undo what was done before it: the
state of a failed outcome is the state at the point of failure.
-/
namespace RelayTree

/-- What an operation returned, left behind and logged. The state is there for failures too. -/
structure Outcome (σ α : Type) where
  result : Except Failure α
  state : σ
  events : List Event

namespace Outcome

variable {σ τ α β : Type}

/-- Success without a log event, in a state that may be a new one. -/
def ok (state : σ) (value : α) : Outcome σ α := ⟨.ok value, state, []⟩

/-- Failure without a log event, in the state that it left. -/
def fail (state : σ) (failure : Failure) : Outcome σ α := ⟨.error failure, state, []⟩

/-- The outcome of a check that leaves the state alone, whatever it finds. -/
def check (state : σ) (result : Except Failure α) : Outcome σ α := ⟨result, state, []⟩

/-- The outcome of a change that fails without any effect, so that the state is either the changed
one or the old one. -/
def change (state : σ) (result : Except Failure σ) : Outcome σ Unit :=
  match result with
  | .ok changed => ok changed ()
  | .error failure => fail state failure

/-- Put log events in front of those of an outcome, as what was logged before. -/
def after (events : List Event) (outcome : Outcome σ α) : Outcome σ α :=
  { outcome with events := events ++ outcome.events }

/-- Go on with the result, unless there was a failure, which then is the failure of the whole.
Events stand in the order in which they were logged. -/
def andThen (outcome : Outcome σ α) (next : σ → α → Outcome σ β) : Outcome σ β :=
  match outcome.result with
  | .ok value => (next outcome.state value).after outcome.events
  | .error failure => ⟨.error failure, outcome.state, outcome.events⟩

/-- View the state as part of a larger one, which is otherwise as the function makes it. -/
def within (outcome : Outcome σ α) (whole : σ → τ) : Outcome τ α :=
  ⟨outcome.result, whole outcome.state, outcome.events⟩

/-- Change the result and leave state and events alone. A failure stays that failure. -/
def map (outcome : Outcome σ α) (f : α → β) : Outcome σ β :=
  ⟨outcome.result.map f, outcome.state, outcome.events⟩

/-- After a success the next operation is what follows, with the events of the first before its
own. -/
@[simp] theorem andThen_ok (state : σ) (value : α) (events : List Event)
    (next : σ → α → Outcome σ β) :
    andThen ⟨.ok value, state, events⟩ next = (next state value).after events := rfl

end Outcome

end RelayTree
