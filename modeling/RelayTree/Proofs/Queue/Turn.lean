import RelayTree.Queue.Forwarder

/-!
# Turns of a worker

A worker with one hand takes the first message of its input, or puts the message in its
hand at the end of an output, or does neither. `Turn` is this relation. A forwarder
keeps to it whenever the output is open for what it holds; looking whether to go on, and
waiting in vain, are turns in which nothing moves.
-/

namespace RelayTree

namespace QueueStore

/-- The store with a message more at the end of a queue, without asking whether the queue takes
it. -/
def append (store : QueueStore) (id : QueueId) (message : Message) : QueueStore :=
  store.update id fun queue => { queue with items := queue.items ++ [message] }

/-- An open queue takes every message, and is appended to by it. -/
theorem push_open {store : QueueStore} {id : QueueId} (opened : (store.read id).closed = false)
    (message : Message) : store.pushBack? id message = some (store.append id message) := by
  simp [pushBack?, Queue.pushBack?, opened, append, update]

/-- An open queue takes every message at its head as well, before those that wait. -/
theorem push_front_open {store : QueueStore} {id : QueueId}
    (opened : (store.read id).closed = false) (message : Message) :
    store.pushFront? id message =
      some (store.update id fun queue => { queue with items := message :: queue.items }) := by
  simp [pushFront?, Queue.pushFront?, opened, update]

/-- A closed queue takes nothing at its end, and so there is no store to go on with. -/
theorem push_back_closed {store : QueueStore} {id : QueueId}
    (closed : (store.read id).closed = true) (message : Message) :
    store.pushBack? id message = none := by
  simp [pushBack?, Queue.pushBack?, closed]

/-- A closed queue takes nothing at its head either. Administrative messages are no exception. -/
theorem push_front_closed {store : QueueStore} {id : QueueId}
    (closed : (store.read id).closed = true) (message : Message) :
    store.pushFront? id message = none := by
  simp [pushFront?, Queue.pushFront?, closed]

/-- Only the queue that is appended to changes, and it gets the message behind those that wait. -/
theorem append_items (store : QueueStore) (id other : QueueId) (message : Message) :
    ((store.append id message).read other).items =
      if other = id then (store.read id).items ++ [message] else (store.read other).items := by
  rw [append, read_update]
  split <;> rfl

/-- Appending opens and closes no queue, so one can go on to ask of the others what was known of
them. -/
@[simp] theorem append_closed (store : QueueStore) (id other : QueueId) (message : Message) :
    ((store.append id message).read other).closed = (store.read other).closed := by
  rw [append, read_update]
  split
  · rename_i same
    rw [same]
  · rfl

/-- What is true of a fresh queue and of all that were created is true of every queue. -/
theorem read_all {store : QueueStore} (property : Queue Message → Prop) (fresh : property .empty)
    (listed : ∀ queue ∈ store.queues.values, property queue) (id : QueueId) :
    property (store.read id) := by
  unfold read
  cases found : store.queues.get? id with
  | none => exact fresh
  | some queue =>
    exact listed queue (List.mem_map.mpr ⟨_, SortedMap.mem_entries_iff.mpr found, rfl⟩)

end QueueStore

/-- One turn with one hand: what is in the hand before and after it, and the queues. Which
output is right may depend on the message. -/
inductive Turn (input : QueueId) (output : Message → QueueId → Prop) (held : List Message)
    (store : QueueStore) : List Message → QueueStore → Prop where
  | wait : Turn input output held store held store
  | take {message : Message} {rest : List Message} (free : held = [])
      (first : (store.read input).items = message :: rest) :
      Turn input output held store [message] (store.update input Queue.tail)
  | give {message : Message} {queue : QueueId} (full : held = [message])
      (goes : output message queue) : Turn input output held store [] (store.append queue message)

/-- A turn opens and closes no queue: workers take and add messages, and closing is for those who
start and stop them. -/
theorem turn_closed {input : QueueId} {output : Message → QueueId → Prop}
    {held after : List Message} {store later : QueueStore}
    (turn : Turn input output held store after later) (queue : QueueId) :
    (later.read queue).closed = (store.read queue).closed := by
  cases turn with
  | wait => rfl
  | take free first =>
    rw [QueueStore.read_update]
    split
    · rename_i same
      rw [same]
      rfl
    · rfl
  | give full goes => exact QueueStore.append_closed ..

namespace Forwarder

/-- A step leaves the forwarder between its queues, which were chosen when it was made. -/
theorem step_ends (forwarder : Forwarder) (store : QueueStore) :
    (forwarder.step store).1.input = forwarder.input ∧
      (forwarder.step store).1.output = forwarder.output := by
  unfold step
  split
  case h_4 => split <;> exact ⟨rfl, rfl⟩
  all_goals exact ⟨rfl, rfl⟩

/-- Without a loop there are no steps, and asking for one changes nothing. -/
theorem step_stopped {forwarder : Forwarder} (stopped : forwarder.stage = .stopped)
    (store : QueueStore) : forwarder.step store = (forwarder, store) := by
  simp [step, stopped]

/-- A loop does not vanish by a step, and none comes to be. Ending is not vanishing: a loop that has
ended is still there until it is joined. -/
theorem step_stopped_iff (forwarder : Forwarder) (store : QueueStore) :
    (forwarder.step store).1.stage = .stopped ↔ forwarder.stage = .stopped := by
  cases stage : forwarder.stage with
  | stopped => simp [step, stage]
  | ended => simp [step, stage]
  | ready => cases active : forwarder.active <;> simp [step, stage, active]
  | polling =>
    cases items : (store.read forwarder.input).items <;>
      simp [step, stage, QueueStore.take, items]
  | emptyHanded =>
    cases closed : (store.read forwarder.input).closed <;> simp [step, stage, closed]
  | holding message => simp [step, stage]

/-- A step of any forwarder is a turn between its queues, as long as a message in its hand
finds the output open. -/
theorem step_carries (forwarder : Forwarder) (store : QueueStore)
    (opened : ∀ message ∈ forwarder.stage.held, (store.read forwarder.output).closed = false) :
    Turn forwarder.input (fun _ queue => queue = forwarder.output) forwarder.stage.held store
      (forwarder.step store).1.stage.held (forwarder.step store).2 := by
  cases stage : forwarder.stage with
  | stopped =>
    rw [step_stopped stage, stage]
    exact .wait
  | ended =>
    simp only [step, stage]
    exact .wait
  | ready =>
    simp only [step, stage]
    split <;> exact .wait
  | polling =>
    cases items : (store.read forwarder.input).items with
    | nil =>
      simp only [step, stage, QueueStore.take, items]
      exact .wait
    | cons message rest =>
      simp only [step, stage, QueueStore.take, items]
      exact .take rfl items
  | emptyHanded =>
    simp only [step, stage]
    split <;> exact .wait
  | holding message =>
    have receptive : (store.read forwarder.output).closed = false :=
      opened message (stage ▸ List.mem_singleton_self message)
    simp only [step, stage, QueueStore.push_open receptive, Option.getD_some]
    exact .give rfl rfl

/-- The forwarder was started between two queues, and its loop goes on: it was neither told to end
nor did it end by itself. -/
structure Works (forwarder : Forwarder) (input output : QueueId) : Prop where
  input : forwarder.input = input
  output : forwarder.output = output
  active : forwarder.active = true
  started : forwarder.stage ≠ .stopped
  going : forwarder.stage ≠ .ended

/-- A working forwarder works on while its input is open, since it ends by itself only after it has
found the input closed. -/
theorem step_works {forwarder : Forwarder} {input output : QueueId}
    (works : forwarder.Works input output) {store : QueueStore}
    (opened : (store.read input).closed = false) :
    (forwarder.step store).1.Works input output := by
  obtain ⟨rfl, rfl, active, started, going⟩ := works
  obtain ⟨start, goal⟩ := step_ends forwarder store
  have stages : (forwarder.step store).1.active = true ∧
      (forwarder.step store).1.stage ≠ .stopped ∧ (forwarder.step store).1.stage ≠ .ended := by
    cases stage : forwarder.stage with
    | stopped => exact absurd stage started
    | ended => exact absurd stage going
    | ready => simp [step, stage, active]
    | polling =>
      cases items : (store.read forwarder.input).items <;>
        simp [step, stage, active, QueueStore.take, items]
    | emptyHanded => simp [step, stage, active, opened]
    | holding message => simp [step, stage, active]
  exact ⟨start, goal, stages.1, stages.2.1, stages.2.2⟩

/-- A step of a working forwarder is a turn between its queues, after which it works on. -/
theorem step_turn {forwarder : Forwarder} {input output : QueueId}
    (works : forwarder.Works input output) {store : QueueStore}
    (opened : ∀ queue, (store.read queue).closed = false) :
    (forwarder.step store).1.Works input output ∧
      Turn input (fun _ queue => queue = output) forwarder.stage.held store
        (forwarder.step store).1.stage.held (forwarder.step store).2 := by
  have turn := step_carries forwarder store fun _ _ => opened forwarder.output
  rw [works.input, works.output] at turn
  exact ⟨step_works works (opened input), turn⟩

end Forwarder

end RelayTree
