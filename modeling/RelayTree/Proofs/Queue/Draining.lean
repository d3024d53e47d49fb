import Mathlib.Data.List.Induction
import RelayTree.Proofs.Queue.Turn
import RelayTree.Queue.Ferry

/-!
# What a forwarder leaves behind

A forwarder's loop ends by itself when it has waited in vain and then finds its input closed.
These are two looks at the input, and in between producers go on. Nothing is lost on the way:
`balanced` says that what the input has accepted was handed to the output, is in the loop's
hand, or still waits. Once the loop has ended, what still waits will wait for ever. That there
is something exactly means that the loop was raced: it had found the input open and empty, and
before it looked again somebody had added a message and somebody had closed the queue.
-/

namespace RelayTree

namespace Forwarder

variable {forwarder : Forwarder} {store : QueueStore}

/-- A step does not tell the loop to end: that is for whoever stops the forwarder, and so a loop
that ends here ended by itself. -/
theorem step_active (forwarder : Forwarder) (store : QueueStore) :
    (forwarder.step store).1.active = forwarder.active := by
  unfold step
  split
  case h_4 => split <;> rfl
  all_goals rfl

/-- Where there is something, waiting ends with the first message, which is in the hand of the loop
then and not in the input any more. -/
theorem step_taking (polling : forwarder.stage = .polling) {message : Message}
    {rest : List Message} (items : (store.read forwarder.input).items = message :: rest) :
    forwarder.step store = ({ forwarder with stage := .holding message },
      store.update forwarder.input Queue.tail) := by
  simp only [step, polling, QueueStore.take, items]

/-- Where there is nothing, waiting may end in vain. This is the first of the two looks at the
input, and it changes nothing. -/
theorem step_vain (polling : forwarder.stage = .polling)
    (items : (store.read forwarder.input).items = []) :
    forwarder.step store = ({ forwarder with stage := .emptyHanded }, store) := by
  simp only [step, polling, QueueStore.take, items]

/-- After that the loop ends if the input is closed, whatever is in it by now. This is the second
look, and it looks at something else. -/
theorem step_deciding (vain : forwarder.stage = .emptyHanded) :
    forwarder.step store = ({ forwarder with
      stage := if (store.read forwarder.input).closed then .ended else .ready }, store) := by
  simp only [step, vain]

/-- A loop that was not told to end goes on to wait for the next message. -/
theorem step_going (ready : forwarder.stage = .ready) (active : forwarder.active = true) :
    forwarder.step store = ({ forwarder with stage := .polling }, store) := by
  simp only [step, ready, active, if_true]

/-- A loop that holds a message hands it on. Where the output is closed the message is lost, and the
loop goes on all the same. -/
theorem step_handing {message : Message} (holding : forwarder.stage = .holding message) :
    forwarder.step store = ({ forwarder with stage := .ready },
      (store.pushBack? forwarder.output message).getD store) := by
  simp only [step, holding]

end Forwarder

namespace Ferry

variable {start ferry : Ferry} {actions : List Action} {action : Action}

/-- The last of several actions finds the ferry as the others left it. -/
theorem run_append (start : Ferry) (earlier later : List Action) :
    start.run (earlier ++ later) = (start.run earlier).run later := by
  simp [run]

/-- A run with one more action takes it last. What is known of a run is known at its end, so the
inductions below go from there. -/
theorem run_snoc (start : Ferry) (actions : List Action) (action : Action) :
    start.run (actions ++ [action]) = (start.run actions).after action := by
  simp [run]

/-! ## Producers -/

/-- Only the loop itself takes steps, so what producers and others do leaves the forwarder in its
stage. -/
theorem after_forwarder (other : action ≠ .work) :
    (ferry.after action).forwarder = ferry.forwarder := by
  cases action with
  | work => exact absurd rfl other
  | pushBack message =>
    rw [after]
    cases ferry.queues.pushBack? ferry.forwarder.input message <;> rfl
  | pushFront message =>
    rw [after]
    cases ferry.queues.pushFront? ferry.forwarder.input message <;> rfl
  | close => rfl
  | elsewhere id queue =>
    rw [after]
    split <;> rfl

/-- A closed input stays closed and takes nothing, as long as the loop does not take from it. -/
theorem after_shut (shut : ferry.input.closed = true) (other : action ≠ .work) :
    (ferry.after action).input = ferry.input := by
  cases action with
  | work => exact absurd rfl other
  | pushBack message =>
    rw [after, QueueStore.push_back_closed shut]
    rfl
  | pushFront message =>
    rw [after, QueueStore.push_front_closed shut]
    rfl
  | close =>
    rw [input, after, QueueStore.close, QueueStore.read_update, if_pos rfl]
    exact congrArg (Queue.mk _) shut.symm
  | elsewhere id queue =>
    rw [after]
    split
    · rfl
    · rename_i apart
      exact (QueueStore.read_write ..).trans (if_neg (Ne.symm apart))

/-- So it is after several actions of producers, by induction on them. -/
theorem run_shut (shut : ferry.input.closed = true) (idle : Action.work ∉ actions) :
    (ferry.run actions).input = ferry.input := by
  induction actions using List.reverseRecOn with
  | nil => rfl
  | append_singleton earlier action inductionHypothesis =>
    obtain ⟨before, last⟩ := not_or.mp (List.mem_append.not.mp idle)
    have same := inductionHypothesis before
    have other : action ≠ .work := fun work => last (List.mem_singleton.mpr work.symm)
    rw [run_snoc, after_shut (same ▸ shut) other, same]

/-- Without steps of the loop the forwarder is as it was, whatever happened to the queues
meanwhile. -/
theorem run_forwarder (idle : Action.work ∉ actions) :
    (ferry.run actions).forwarder = ferry.forwarder := by
  induction actions using List.reverseRecOn with
  | nil => rfl
  | append_singleton earlier action inductionHypothesis =>
    obtain ⟨before, last⟩ := not_or.mp (List.mem_append.not.mp idle)
    have other : action ≠ .work := fun work => last (List.mem_singleton.mpr work.symm)
    rw [run_snoc, after_forwarder other, inductionHypothesis before]

/-! ## Where a message is -/

/-- What was in the input at the start, and what it has accepted since, was handed to the
output, is in the loop's hand, or waits. -/
def Balanced (ferry : Ferry) : Prop :=
  ferry.accepted.Perm (ferry.handed ++ ferry.forwarder.stage.held ++ ferry.input.items)

/-- Nothing is lost when the loop hands on what it holds. Where the output is the input
itself, the message comes back as one that was accepted. -/
theorem hand_balanced {message : Message} (holding : ferry.forwarder.stage = .holding message)
    (balanced : ferry.Balanced) : ferry.work.Balanced := by
  have held : ferry.forwarder.stage.held = [message] := by rw [holding, Stage.held]
  have contents : ferry.work.input.items =
      ferry.input.items ++ ferry.forwarder.returning ferry.queues := by
    rw [work, Forwarder.step_handing holding, input, Forwarder.returning, held]
    cases shut : (ferry.queues.read ferry.forwarder.output).closed with
    | true =>
      rw [QueueStore.push_back_closed shut, if_neg]
      · exact (List.append_nil _).symm
      · rintro ⟨same, opened⟩
        rw [same, opened] at shut
        cases shut
    | false =>
      rw [QueueStore.push_open shut, Option.getD_some, QueueStore.append_items]
      by_cases same : ferry.forwarder.output = ferry.forwarder.input
      · rw [if_pos same.symm, if_pos ⟨same, same ▸ shut⟩, same]
        rfl
      · rw [if_neg (Ne.symm same), if_neg fun both => same both.1]
        exact (List.append_nil _).symm
  have free : ferry.work.forwarder.stage.held = [] := by
    rw [work, Forwarder.step_handing holding]
    rfl
  rw [Balanced, held] at balanced
  rw [Balanced, free, contents, List.append_nil, work, held, ← List.append_assoc]
  exact balanced.append_right _

/-- A loop that holds nothing hands nothing on, and nothing comes back into the input either. -/
theorem work_idle (nothing : ferry.forwarder.stage.held = []) :
    ferry.work.accepted = ferry.accepted ∧ ferry.work.handed = ferry.handed := by
  have none : ferry.forwarder.returning ferry.queues = [] := by
    rw [Forwarder.returning, nothing, ite_self]
  exact ⟨by rw [work, none, List.append_nil], by rw [work, nothing, List.append_nil]⟩

/-- Nothing is lost when the loop takes the first message: it was waiting before and is held now. -/
theorem take_balanced (polling : ferry.forwarder.stage = .polling) {message : Message}
    {rest : List Message} (items : ferry.input.items = message :: rest)
    (balanced : ferry.Balanced) : ferry.work.Balanced := by
  have free : ferry.forwarder.stage.held = [] := by rw [polling]; rfl
  obtain ⟨accepted, handed⟩ := work_idle free
  have left : ferry.work.input.items = rest := by
    rw [work, Forwarder.step_taking polling items, input, QueueStore.read_update, if_pos rfl]
    exact congrArg List.tail items
  have held : ferry.work.forwarder.stage.held = [message] := by
    rw [work, Forwarder.step_taking polling items]
    rfl
  rw [Balanced, free, items] at balanced
  rw [Balanced, accepted, handed, held, left]
  simpa using balanced

/-- A step that moves nothing leaves everything where it is, and so it does not touch the
account. -/
theorem still_balanced (nothing : ferry.forwarder.stage.held = [])
    (queues : ferry.work.queues = ferry.queues) (free : ferry.work.forwarder.stage.held = [])
    (balanced : ferry.Balanced) : ferry.work.Balanced := by
  obtain ⟨accepted, handed⟩ := work_idle nothing
  have same : ferry.work.input = ferry.input := by
    rw [input, queues, work, (Forwarder.step_ends ferry.forwarder ferry.queues).1]
    rfl
  rw [Balanced, nothing] at balanced
  rw [Balanced, accepted, handed, free, same]
  exact balanced

/-- Nothing is lost by a step of the loop, whichever of its stages it takes the step from. -/
theorem work_balanced (balanced : ferry.Balanced) : ferry.work.Balanced := by
  cases stage : ferry.forwarder.stage with
  | holding message => exact hand_balanced stage balanced
  | polling =>
    cases items : ferry.input.items with
    | cons message rest => exact take_balanced stage items balanced
    | nil =>
      refine still_balanced (by rw [stage]; rfl) ?_ ?_ balanced
      · rw [work, Forwarder.step_vain stage items]
      · rw [work, Forwarder.step_vain stage items]
        rfl
  | emptyHanded =>
    refine still_balanced (by rw [stage]; rfl) ?_ ?_ balanced
    · rw [work, Forwarder.step_deciding stage]
    · rw [work, Forwarder.step_deciding stage]
      dsimp only
      split <;> rfl
  | ready =>
    refine still_balanced (by rw [stage]; rfl) ?_ ?_ balanced
    · simp only [work, Forwarder.step, stage]
    · simp only [work, Forwarder.step, stage]
      split <;> rfl
  | stopped | ended =>
    refine still_balanced (by rw [stage]; rfl) ?_ ?_ balanced
    · simp only [work, Forwarder.step, stage]
    · simp only [work, Forwarder.step, stage]
      rfl

/-- A message that the input takes, wherever it is put, is one more that waits. -/
theorem offer_balanced (balanced : ferry.Balanced) {message : Message} {queues : QueueStore}
    (items : (queues.read ferry.forwarder.input).items.Perm (ferry.input.items ++ [message])) :
    (ferry.offer message (some queues)).Balanced := by
  have added := (balanced.append_right [message]).trans
    (by rw [List.append_assoc] : (ferry.handed ++ ferry.forwarder.stage.held ++ ferry.input.items ++
      [message]).Perm (ferry.handed ++ ferry.forwarder.stage.held ++ (ferry.input.items ++ [message])))
  exact added.trans (items.symm.append_left _)

/-- Nothing is lost by any action: what a producer adds is accepted and waits, and others never
reach the input. -/
theorem after_balanced (balanced : ferry.Balanced) (action : Action) :
    (ferry.after action).Balanced := by
  cases action with
  | work => exact work_balanced balanced
  | pushBack message =>
    rw [after]
    cases shut : ferry.input.closed with
    | true =>
      rw [QueueStore.push_back_closed shut]
      exact balanced
    | false =>
      rw [QueueStore.push_open shut]
      refine offer_balanced balanced ?_
      rw [QueueStore.append_items, if_pos rfl]
      exact .refl _
  | pushFront message =>
    rw [after]
    cases shut : ferry.input.closed with
    | true =>
      rw [QueueStore.push_front_closed shut]
      exact balanced
    | false =>
      rw [QueueStore.push_front_open shut]
      refine offer_balanced balanced ?_
      rw [QueueStore.read_update, if_pos rfl]
      exact (List.perm_append_singleton ..).symm
  | close =>
    have same : (ferry.after .close).input.items = ferry.input.items := by
      rw [input, after, QueueStore.close, QueueStore.read_update, if_pos rfl]
      rfl
    rw [Balanced, same]
    exact balanced
  | elsewhere id queue =>
    rw [after]
    split
    · exact balanced
    · rename_i apart
      have same : input { ferry with queues := ferry.queues.write id queue } = ferry.input :=
        (QueueStore.read_write ..).trans (if_neg (Ne.symm apart))
      rw [Balanced, same]
      exact balanced

/-- Nothing is lost in the course of a run, by induction on it from its end. -/
theorem run_balanced (balanced : start.Balanced) (actions : List Action) :
    (start.run actions).Balanced := by
  induction actions using List.reverseRecOn with
  | nil => exact balanced
  | append_singleton earlier action inductionHypothesis =>
    rw [run_snoc]
    exact after_balanced inductionHypothesis action

/-! ## How a loop ends -/

/-- The loop waited in vain, and the input is open and empty. From here it takes a message and a
closing, both before the next step, to leave something behind. -/
structure Vain (ferry : Ferry) : Prop where
  stage : ferry.forwarder.stage = .emptyHanded
  opened : ferry.input.closed = false
  empty : ferry.input.items = []

/-- The loop was raced: after it had waited in vain, and before its next step, somebody added a
message and somebody closed the input. -/
def Raced (start : Ferry) (actions : List Action) : Prop :=
  ∃ before between later, actions = before ++ between ++ .work :: later ∧ .work ∉ between ∧
    (start.run before).Vain ∧ (start.run (before ++ between)).input.closed = true ∧
    (start.run (before ++ between)).input.items ≠ []

/-- The step after waiting in vain does not touch the input, and ends the loop if the input is
closed. -/
theorem work_deciding (vain : ferry.forwarder.stage = .emptyHanded) :
    ferry.work.input = ferry.input ∧
      (ferry.work.forwarder.stage = .ended ↔ ferry.input.closed = true) := by
  rw [work, Forwarder.step_deciding vain]
  refine ⟨rfl, ?_⟩
  change (if ferry.input.closed = true then Stage.ended else .ready) = .ended ↔ _
  split <;> simp [*]

/-- Waiting ends in vain only where the input is empty at that moment. It may have been closed by
then. -/
theorem work_vain (vain : ferry.work.forwarder.stage = .emptyHanded) :
    ferry.work.input.items = [] := by
  cases stage : ferry.forwarder.stage with
  | polling =>
    cases items : ferry.input.items with
    | nil =>
      rw [work, Forwarder.step_vain stage items]
      exact items
    | cons message rest =>
      rw [work, Forwarder.step_taking stage items] at vain
      cases vain
  | emptyHanded =>
    simp only [work, Forwarder.step_deciding stage] at vain
    split at vain <;> cases vain
  | ready =>
    simp only [work, Forwarder.step, stage] at vain
    split at vain <;> cases vain
  | stopped | ended | holding => simp [work, Forwarder.step, stage] at vain

/-- A loop that was not told to end ends only after it has waited in vain. From any other stage a
single step leads elsewhere, so the cases are those of the stage before. -/
theorem work_ended (active : ferry.forwarder.active = true)
    (ended : ferry.work.forwarder.stage = .ended) :
    ferry.forwarder.stage = .ended ∨ ferry.forwarder.stage = .emptyHanded := by
  cases stage : ferry.forwarder.stage with
  | ended => exact .inl rfl
  | emptyHanded => exact .inr rfl
  | ready =>
    rw [work, Forwarder.step_going stage active] at ended
    cases ended
  | polling =>
    cases items : ferry.input.items with
    | nil =>
      rw [work, Forwarder.step_vain stage items] at ended
      cases ended
    | cons message rest =>
      rw [work, Forwarder.step_taking stage items] at ended
      cases ended
  | stopped | holding => simp [work, Forwarder.step, stage] at ended

/-- Once the loop has ended and the input is closed, both stay so. The loop does not begin again by
itself, and a closed queue is neither added to nor taken from. -/
theorem run_ended (ended : ferry.forwarder.stage = .ended) (shut : ferry.input.closed = true)
    (actions : List Action) :
    (ferry.run actions).forwarder.stage = .ended ∧ (ferry.run actions).input = ferry.input := by
  induction actions using List.reverseRecOn with
  | nil => exact ⟨ended, rfl⟩
  | append_singleton earlier action inductionHypothesis =>
    obtain ⟨finished, same⟩ := inductionHypothesis
    rw [run_snoc]
    by_cases own : action = .work
    · subst own
      have step : (ferry.run earlier).forwarder.step (ferry.run earlier).queues =
          ((ferry.run earlier).forwarder, (ferry.run earlier).queues) := by
        simp only [Forwarder.step, finished]
      rw [after, work, step]
      exact ⟨finished, same⟩
    · rw [after_forwarder own, after_shut (same ▸ shut) own]
      exact ⟨finished, same⟩

/-- A loop that was raced leaves something behind: the message was added after its first look and
the input was closed before its second, and nobody takes from the input afterwards. -/
theorem raced_leaves (raced : Raced start actions) : (start.run actions).input.items ≠ [] := by
  obtain ⟨before, between, later, rfl, idle, vain, shut, left⟩ := raced
  have waiting : (start.run (before ++ between)).forwarder.stage = .emptyHanded := by
    rw [run_append, run_forwarder idle]
    exact vain.stage
  obtain ⟨same, ends⟩ := work_deciding waiting
  have rest := run_ended (ends.mpr shut) (same ▸ shut) later
  rw [run_append]
  change ((start.run (before ++ between)).work.run later).input.items ≠ []
  rw [rest.2, same]
  exact left

/-- What a run of a loop that nobody stops has come to. A loop about to look whether the input
is closed has found it empty before; one that has ended has found it closed, and has left
nothing behind unless it was raced. -/
structure Unstopped (start : Ferry) (actions : List Action) : Prop where
  active : (start.run actions).forwarder.active = true
  waited : (start.run actions).forwarder.stage = .emptyHanded →
    ∃ before between, actions = before ++ between ∧ .work ∉ between ∧
      (start.run before).forwarder.stage = .emptyHanded ∧ (start.run before).input.items = []
  ended : (start.run actions).forwarder.stage = .ended →
    (start.run actions).input.closed = true ∧
      ((start.run actions).input.items = [] ∨ Raced start actions)

/-- A race that is over is not undone by anything that happens later, since it is told by how the
run began. -/
theorem raced_later (raced : Raced start actions) (action : Action) :
    Raced start (actions ++ [action]) := by
  obtain ⟨before, between, later, rfl, rest⟩ := raced
  exact ⟨before, between, later ++ [action], by simp, rest⟩

/-- What others do in between leaves the loop where it stands. If they add a message and close the
input while it has waited in vain, this is where a race begins. -/
theorem others_unstopped (unstopped : Unstopped start actions) (other : action ≠ .work) :
    Unstopped start (actions ++ [action]) := by
  have same : (start.run (actions ++ [action])).forwarder = (start.run actions).forwarder := by
    rw [run_snoc, after_forwarder other]
  refine ⟨same ▸ unstopped.active, fun vain => ?_, fun finished => ?_⟩
  · obtain ⟨before, between, rfl, idle, found⟩ := unstopped.waited (same ▸ vain)
    refine ⟨before, between ++ [action], by simp, ?_, found⟩
    simpa [idle] using Ne.symm other
  · obtain ⟨shut, left⟩ := unstopped.ended (same ▸ finished)
    rw [run_snoc, after_shut shut other]
    exact ⟨shut, left.imp_right (raced_later · action)⟩

/-- A loop that ends when it looks whether the input is closed has left nothing behind, unless
it was raced since it waited in vain. -/
theorem deciding_unstopped (unstopped : Unstopped start actions)
    (vain : (start.run actions).forwarder.stage = .emptyHanded)
    (finished : (start.run actions).work.forwarder.stage = .ended) :
    (start.run actions).work.input.closed = true ∧
      ((start.run actions).work.input.items = [] ∨ Raced start (actions ++ [.work])) := by
  obtain ⟨same, ends⟩ := work_deciding vain
  have shut := ends.mp finished
  rw [same]
  refine ⟨shut, ?_⟩
  obtain ⟨before, between, rfl, idle, waiting, empty⟩ := unstopped.waited vain
  by_cases left : (start.run (before ++ between)).input.items = []
  · exact .inl left
  · refine .inr ⟨before, between, [], by simp, idle, ⟨waiting, ?_, empty⟩, shut, left⟩
    -- A queue that was closed then would have taken nothing since.
    rw [← Bool.not_eq_true]
    intro closed
    rw [run_append, run_shut closed idle] at left
    exact left empty

/-- A step of the loop itself. It is the second look that matters: the input is found closed, and
either nothing was added before or a race is complete. -/
theorem work_unstopped (unstopped : Unstopped start actions) :
    Unstopped start (actions ++ [.work]) := by
  have last : start.run (actions ++ [.work]) = (start.run actions).work := run_snoc ..
  refine ⟨?_, fun vain => ?_, fun finished => ?_⟩
  · rw [last]
    exact (Forwarder.step_active ..).trans unstopped.active
  · refine ⟨actions ++ [.work], [], by simp, by simp, vain, ?_⟩
    rw [last] at vain ⊢
    exact work_vain vain
  · rw [last] at finished ⊢
    rcases work_ended unstopped.active finished with ended | vain
    · obtain ⟨shut, left⟩ := unstopped.ended ended
      have same : (start.run actions).work.input = (start.run actions).input :=
        (run_ended ended shut [.work]).2
      rw [same]
      exact ⟨shut, left.imp_right (raced_later · .work)⟩
    · exact deciding_unstopped unstopped vain finished

/-- The three parts hold throughout, by induction on the run from its end, for a loop that begins
ready and was not told to end. -/
theorem run_unstopped (active : start.forwarder.active = true)
    (begins : start.forwarder.stage = .ready) (actions : List Action) :
    Unstopped start actions := by
  induction actions using List.reverseRecOn with
  | nil =>
    refine ⟨active, fun vain => ?_, fun finished => ?_⟩
    · cases begins.symm.trans vain
    · cases begins.symm.trans finished
  | append_singleton earlier action inductionHypothesis =>
    by_cases own : action = .work
    · exact own ▸ work_unstopped inductionHypothesis
    · exact others_unstopped inductionHypothesis own

/-- By itself the loop ends with its input closed, and then it has handed on all that the input
ever accepted, but for what is left there. Something is left exactly if the loop was raced.

Proof: two invariants are kept by every action and carried over the run by induction. `Balanced`
counts messages, so what was accepted was handed on, is held, or is still there; at the end nothing
is held. `Unstopped` remembers, while the loop has not looked a second time, the moment at which it
found the input empty, and this moment is what a race begins with. Nothing is assumed about the
order of the actions, nor about what others do to the output. -/
theorem ended_drained_unless_raced (input output : QueueId) (queues : QueueStore)
    (actions : List Action)
    (ended : ((launch input output queues).run actions).forwarder.stage = .ended) :
    let ferry := (launch input output queues).run actions
    ferry.input.closed = true ∧ ferry.accepted.Perm (ferry.handed ++ ferry.input.items) ∧
      (ferry.input.items ≠ [] ↔ Raced (launch input output queues) actions) := by
  intro ferry
  have unstopped : Unstopped (launch input output queues) actions := run_unstopped rfl rfl actions
  obtain ⟨shut, drained⟩ := unstopped.ended ended
  have begins : (launch input output queues).Balanced := List.Perm.refl _
  have balanced : ferry.Balanced := run_balanced begins actions
  have free : ferry.forwarder.stage.held = [] := by
    rw [ended]
    rfl
  rw [Balanced, free, List.append_nil] at balanced
  exact ⟨shut, balanced, drained.resolve_left, raced_leaves⟩

/-- A message that nobody looks into, which is all that the examples need. -/
def parcel : Message := ⟨"m", "", ⟨"", ""⟩, ⟨"", ""⟩, "", 0, .data .empty⟩

/-- A producer adds a message and closes the input while the loop holds it. -/
def unhurried : List Action :=
  [.work, .pushBack parcel, .work, .close, .work, .work, .work, .work]

/-- With the closing in the other order the loop ends with everything handed on, as the theorem says
of a loop that was not raced. -/
theorem closed_while_carrying :
    ((launch ⟨0⟩ ⟨1⟩ .empty).run unhurried).forwarder.stage = .ended ∧
      ((launch ⟨0⟩ ⟨1⟩ .empty).run unhurried).accepted = [parcel] ∧
      ((launch ⟨0⟩ ⟨1⟩ .empty).run unhurried).handed = [parcel] ∧
      ¬ Raced (launch ⟨0⟩ ⟨1⟩ .empty) unhurried := by
  have ended : ((launch ⟨0⟩ ⟨1⟩ .empty).run unhurried).forwarder.stage = .ended := rfl
  obtain ⟨_, _, left⟩ := ended_drained_unless_raced ⟨0⟩ ⟨1⟩ .empty unhurried ended
  exact ⟨ended, rfl, rfl, fun raced => left.mpr raced rfl⟩

/-- A producer adds a message and closes the input after the loop has waited in vain and before
it looks whether the input is closed. -/
def hurried : List Action := [.work, .work, .pushBack parcel, .close, .work]

/-- So a forwarder can end with a message in its input, which nobody will take any more. -/
theorem race_strands_message :
    ¬ ∀ (input output : QueueId) (queues : QueueStore) (actions : List Action),
      ((launch input output queues).run actions).forwarder.stage = .ended →
        ((launch input output queues).run actions).input.closed = true ∧
        ((launch input output queues).run actions).input.items = [] ∧
        ((launch input output queues).run actions).accepted.Perm
          ((launch input output queues).run actions).handed := by
  intro drained
  have ended : ((launch ⟨0⟩ ⟨1⟩ .empty).run hurried).forwarder.stage = .ended := rfl
  have left : ((launch ⟨0⟩ ⟨1⟩ .empty).run hurried).input.items = [parcel] := rfl
  obtain ⟨_, empty, _⟩ := drained ⟨0⟩ ⟨1⟩ .empty hurried ended
  rw [left] at empty
  cases empty

end Ferry

end RelayTree
