import RelayTree.Proofs.Network.Operation

/-!
# Traffic in a network

Modules hand messages to their hosts while the workers take steps, in any order.
`Tracked` is what holds at every moment of such a history: the network is in operation,
it holds nothing but what was handed over, and a ledger of the parts accounts for all
of it. `tracked_happens` says what a single happening does to the ledger, and
`tracked_run` keeps a ledger over the whole history.
-/

namespace RelayTree

/-- What happens at once: a module hands over a message, or a worker takes a step. A history is any
list of these, so no worker is made to wait for another. -/
inductive Happening where
  | enter (injection : Injection)
  | work (worker : Worker)

/-- The message that was handed over, if it was that, with the host it was handed over at. -/
def Happening.injection? : Happening → Option Injection
  | .enter injection => some injection
  | .work _ => none

/-- The messages that were handed over, the first one first. The place in this list is the number of
a message. -/
def entered (history : List Happening) : List Injection :=
  history.filterMap Happening.injection?

namespace Network

/-- Put a message at the end of the queue from the modules of a host. If the queue were closed
nothing would happen, and likewise for a host that is not there. -/
def enter (network : Network) (injection : Injection) : Network :=
  match network.nodes.get? injection.source with
  | none => network
  | some node =>
    network.adoptQueues
      ((network.queues.pushBack? node.desk.board.fromModules injection.message).getD
        network.queues)

/-- The network after something has happened, be it that a message was handed over or that a worker
took a step. -/
def happen (network : Network) : Happening → Network
  | .enter injection => network.enter injection
  | .work worker => network.step worker

/-- The network after all of a history has happened, in its order. -/
def run (network : Network) (history : List Happening) : Network := history.foldl happen network

end Network

namespace Layout

/-- Messages are handed over at hosts of the tree, and can be delivered. When the workers
take their steps is left open. -/
def Allows (layout : Layout) : Happening → Prop
  | .enter injection =>
    injection.source ∈ layout.tree.hosts ∧ layout.Deliverable injection.message
  | .work _ => True

open Classical in
/-- What is at a part; nothing is at one that does not exist. -/
noncomputable def cargo (layout : Layout) (network : Network) (berth : Berth) : List Message :=
  if layout.Valid berth then network.holds (layout.spot berth) else []

/-- The network is in operation, and the ledger accounts for what was handed over. The ledger is of
the parts of the layout, and it is turned into one of spots only in the end. -/
structure Tracked (layout : Layout) (sound : layout.tree.Sound) (network : Network)
    (log : List Injection) (ledger : Berth → List Nat) : Prop where
  operating : layout.Operating network
  loaded : layout.Loaded network
  allowed : ∀ injection ∈ log, layout.Allows (.enter injection)
  accounts : (layout.course sound).Accounts (layout.cargo network) log ledger

/-- How a ledger goes on when something happens: the number of a message that is handed
over is written down where it enters, and a step of a worker moves the first number of
some part as the layout moves its message, or none. The parts may be anything that has
a place for each of them. -/
inductive Continues {σ : Type} [DecidableEq σ] (layout : Layout) (place : Berth → σ)
    (log : List Injection) (ledger : σ → List Nat) : Happening → (σ → List Nat) → Prop where
  | enters (injection : Injection) : Continues layout place log ledger (.enter injection)
      (Course.written ledger log.length (place (.source injection.source 0)))
  | waits (worker : Worker) : Continues layout place log ledger (.work worker) ledger
  | moves (worker : Worker) {berth next : Berth} {first : Nat} {rest : List Nat}
      {injection : Injection} (heads : Course.Heads log ledger (place berth) first rest injection)
      (onward : layout.Moves injection.message berth next) :
      Continues layout place log ledger (.work worker)
        (Course.moved ledger first (place berth) (place next))

variable {layout : Layout} {before after network : Network} {message : Message}
  {berth next : Berth} {injection : Injection} {log : List Injection}

/-! ## From spots to parts -/

/-- At a part that there is, what the network holds at the spot that plays it. -/
theorem cargo_valid (valid : layout.Valid berth) :
    layout.cargo network berth = network.holds (layout.spot berth) := if_pos valid

/-- A part that there is not holds nothing, so nothing is to be accounted for there. -/
theorem cargo_invalid (invalid : ¬ layout.Valid berth) : layout.cargo network berth = [] :=
  if_neg invalid

/-- If the spot of a part holds what it held, so does the part. -/
theorem cargo_same (same : layout.Valid berth →
      after.holds (layout.spot berth) = before.holds (layout.spot berth)) :
    layout.cargo after berth = layout.cargo before berth := by
  by_cases valid : layout.Valid berth
  · rw [cargo_valid valid, cargo_valid valid, same valid]
  · rw [cargo_invalid valid, cargo_invalid valid]

/-- A message that moves between the spots of two parts moves between the parts, as no
other part has these spots. -/
theorem cargo_shifts (wired : layout.Wired) (moves : layout.Moves message berth next)
    (shift : Shift before.holds after.holds (layout.spot berth) (layout.spot next) message) :
    Shift (layout.cargo before) (layout.cargo after) berth next message := by
  obtain ⟨here, there⟩ := moves_valid (RoutingTree.accepted_sound wired.accepted) moves
  refine ⟨?_, ?_, ?_, ?_⟩
  · rintro rfl
    exact shift.apart rfl
  · rw [cargo_valid here, cargo_valid here]
    exact shift.taken
  · rw [cargo_valid there, cargo_valid there]
    exact shift.given
  · intro place notHere notThere
    apply cargo_same
    intro valid
    apply shift.others
    · exact fun same => notHere (wired.separate valid here same)
    · exact fun same => notThere (wired.separate valid there same)

/-- Messages that move by the layout stay at parts, and every message is still one that can be
delivered. -/
theorem advances_loaded (wired : layout.Wired) (loaded : layout.Loaded before)
    (advances : layout.Advances before after) : layout.Loaded after := by
  rcases advances.moved with same | ⟨message, berth, next, moves, shift⟩
  · exact ⟨fun {spot _} member => loaded.deliverable (same spot ▸ member),
      fun {spot _} member => loaded.berthed (same spot ▸ member)⟩
  · obtain ⟨_, there⟩ := moves_valid (RoutingTree.accepted_sound wired.accepted) moves
    have had : message ∈ before.holds (layout.spot berth) := by
      rw [shift.taken]
      exact List.mem_cons_self
    constructor
    · intro spot other member
      rcases shift_origin shift member with stayed | ⟨_, rfl⟩
      · exact loaded.deliverable stayed
      · exact loaded.deliverable had
    · intro spot other member
      rcases shift_origin shift member with stayed | ⟨rfl, _⟩
      · exact loaded.berthed stayed
      · exact ⟨next, there, rfl⟩

/-! ## Handing over -/

/-- The queue from the modules of a host takes what is handed over. -/
theorem enter_appends (operating : layout.Operating network)
    (described : injection.source ∈ layout.tree.hosts) :
    network.enter injection = network.adoptQueues (network.queues.append
      (layout.desk injection.source).board.fromModules injection.message) := by
  obtain ⟨node, workers, found, staffs⟩ := operating.staffed described
  simp only [Network.enter, found, staffs.desk, QueueStore.push_open (operating.opened _),
    Option.getD_some]

/-- What is handed over is last in the queue from the modules of the host. -/
theorem enter_given (operating : layout.Operating network)
    (described : injection.source ∈ layout.tree.hosts) :
    (network.enter injection).holds (layout.spot (.source injection.source 0)) =
      network.holds (layout.spot (.source injection.source 0)) ++ [injection.message] := by
  rw [enter_appends operating described]
  exact (QueueStore.append_items ..).trans (if_pos rfl)

/-- Nothing else changes when a message is handed over: only the queue for what comes from modules
is added to. -/
theorem enter_others (operating : layout.Operating network)
    (described : injection.source ∈ layout.tree.hosts) {spot : Spot}
    (other : spot ≠ layout.spot (.source injection.source 0)) :
    (network.enter injection).holds spot = network.holds spot := by
  rw [enter_appends operating described]
  cases spot with
  | queue id =>
    refine (QueueStore.append_items ..).trans (if_neg ?_)
    exact fun same => other (congrArg Spot.queue same)
  | hand worker => cases worker <;> rfl

/-- The network stays in operation when a message is handed over, as no worker and no table is
concerned. -/
theorem enter_operating (operating : layout.Operating network)
    (described : injection.source ∈ layout.tree.hosts) :
    layout.Operating (network.enter injection) := by
  rw [enter_appends operating described]
  refine ⟨operating.staffed, operating.manned, operating.linked, operating.unmerged, fun queue => ?_⟩
  exact (QueueStore.append_closed ..).trans (operating.opened queue)

/-- What is handed over can be delivered, so the network still holds nothing else. A message that is
held afterwards was held before, or it is the new one at its source. -/
theorem enter_loaded (operating : layout.Operating network) (loaded : layout.Loaded network)
    (allowed : layout.Allows (.enter injection)) : layout.Loaded (network.enter injection) := by
  obtain ⟨described, deliverable⟩ := allowed
  have origin : ∀ {spot : Spot} {message : Message},
      message ∈ (network.enter injection).holds spot → message ∈ network.holds spot ∨
        spot = layout.spot (.source injection.source 0) ∧ message = injection.message := by
    intro spot message member
    by_cases here : spot = layout.spot (.source injection.source 0)
    · rw [here, enter_given operating described, List.mem_append, List.mem_singleton] at member
      rcases member with stayed | new
      · exact .inl (here ▸ stayed)
      · exact .inr ⟨here, new⟩
    · exact .inl (enter_others operating described here ▸ member)
  constructor
  · intro spot message member
    rcases origin member with stayed | ⟨_, rfl⟩
    · exact loaded.deliverable stayed
    · exact deliverable
  · intro spot message member
    rcases origin member with stayed | ⟨rfl, _⟩
    · exact loaded.berthed stayed
    · exact ⟨.source injection.source 0, ⟨described, by decide⟩, rfl⟩

/-! ## Histories -/

variable {ledger : Berth → List Nat}

/-- A network in operation that holds nothing is tracked, by the ledger that is empty. This is where
histories begin, since no message has come in yet. -/
theorem tracked_idle (sound : layout.tree.Sound) (operating : layout.Operating network)
    (idle : ∀ spot, network.holds spot = []) :
    layout.Tracked sound network [] fun _ => [] := by
  refine ⟨operating, ⟨?_, ?_⟩, by simp, Course.accounts_nothing fun berth => ?_⟩
  · intro spot message member
    simp [idle] at member
  · intro spot message member
    simp [idle] at member
  · by_cases valid : layout.Valid berth
    · rw [cargo_valid valid, idle]
    · exact cargo_invalid valid

/-- When a message is handed over, nothing is dropped, and the network stays tracked. Its number is
written down at the source, which is open and takes it. -/
theorem tracked_enter (wired : layout.Wired) {sound : layout.tree.Sound}
    (tracked : layout.Tracked sound network log ledger)
    (allowed : layout.Allows (.enter injection)) :
    (network.enter injection).drops = network.drops ∧
      layout.Tracked sound (network.enter injection) (log ++ [injection])
        (Course.written ledger log.length (.source injection.source 0)) := by
  obtain ⟨operating, loaded, earlier, accounts⟩ := tracked
  have described := allowed.1
  have valid : layout.Valid (.source injection.source 0) := ⟨described, by decide⟩
  refine ⟨?_, enter_operating operating described, enter_loaded operating loaded allowed, ?_,
    Course.accounts_entered accounts injection ?_ ?_⟩
  · rw [enter_appends operating described]
    rfl
  · intro other member
    rcases List.mem_append.mp member with before | new
    · exact earlier other before
    · exact List.mem_singleton.mp new ▸ allowed
  · change layout.cargo _ (.source injection.source 0) =
      layout.cargo network (.source injection.source 0) ++ _
    rw [cargo_valid valid, cargo_valid valid]
    exact enter_given operating described
  · intro berth other
    apply cargo_same
    intro there
    apply enter_others operating described
    exact fun same => other (wired.separate there valid same)

/-- When a worker takes a step, nothing is dropped, and the network stays tracked. The step moves
one message or none, and the ledger follows by moving the number of that message. -/
theorem tracked_step (wired : layout.Wired) {sound : layout.tree.Sound}
    (tracked : layout.Tracked sound network log ledger) (worker : Worker) :
    (network.step worker).drops = network.drops ∧
      ∃ later, layout.Tracked sound (network.step worker) log later ∧
        layout.Continues id log ledger (.work worker) later := by
  obtain ⟨operating, loaded, earlier, accounts⟩ := tracked
  have advances := step_advances wired operating loaded worker
  have loadedThen := advances_loaded wired loaded advances
  refine ⟨advances.drops, ?_⟩
  rcases advances.moved with same | ⟨message, berth, next, moves, shift⟩
  · have cargo : layout.cargo (network.step worker) = layout.cargo network :=
      funext fun berth => cargo_same fun _ => same _
    exact ⟨ledger, ⟨advances.operating, loadedThen, earlier, cargo ▸ accounts⟩, .waits worker⟩
  · obtain ⟨first, rest, injection, heads, rfl, later⟩ :=
      Course.accounts_shifted accounts (cargo_shifts wired moves shift) moves
    exact ⟨_, ⟨advances.operating, loadedThen, earlier, later⟩, .moves worker heads moves⟩

/-- Whatever happens, nothing is dropped, and the network stays tracked. The ledger goes on by the
one number that was added or moved, if any was. -/
theorem tracked_happens (wired : layout.Wired) {sound : layout.tree.Sound}
    (tracked : layout.Tracked sound network log ledger) {happening : Happening}
    (allowed : layout.Allows happening) :
    (network.happen happening).drops = network.drops ∧
      ∃ later, layout.Tracked sound (network.happen happening)
          (log ++ happening.injection?.toList) later ∧
        layout.Continues id log ledger happening later := by
  cases happening with
  | enter injection =>
    obtain ⟨drops, later⟩ := tracked_enter wired tracked allowed
    exact ⟨drops, _, later, .enters injection⟩
  | work worker =>
    have nothing : log ++ (Happening.work worker).injection?.toList = log := List.append_nil log
    rw [nothing]
    exact tracked_step wired tracked worker

/-- Over a whole history nothing is dropped, and there is a ledger for every moment of
it, each of which continues the one before. -/
theorem tracked_run (wired : layout.Wired) {sound : layout.tree.Sound}
    (tracked : layout.Tracked sound network log ledger) {history : List Happening}
    (allowed : ∀ happening ∈ history, layout.Allows happening) :
    ∃ ledgers : Nat → Berth → List Nat, ledgers 0 = ledger ∧ ∀ count ≤ history.length,
      (network.run (history.take count)).drops = network.drops ∧
      layout.Tracked sound (network.run (history.take count))
        (log ++ entered (history.take count)) (ledgers count) ∧
      ∀ happening ∈ history[count]?, layout.Continues id (log ++ entered (history.take count))
        (ledgers count) happening (ledgers (count + 1)) := by
  induction history generalizing network log ledger with
  | nil =>
    refine ⟨fun _ => ledger, rfl, fun count _ => ?_⟩
    rw [List.take_nil, entered, List.filterMap_nil, List.append_nil]
    exact ⟨rfl, tracked, by simp⟩
  | cons happening history inductionHypothesis =>
    obtain ⟨drops, later, next, continues⟩ :=
      tracked_happens wired tracked (allowed _ List.mem_cons_self)
    obtain ⟨ledgers, begins, further⟩ := inductionHypothesis next fun other member =>
      allowed other (List.mem_cons_of_mem _ member)
    refine ⟨fun count => count.casesOn ledger ledgers, rfl, fun count bounded => ?_⟩
    cases count with
    | zero =>
      rw [List.take_zero, entered, List.filterMap_nil, List.append_nil]
      refine ⟨rfl, tracked, fun other here => ?_⟩
      obtain rfl : happening = other := Option.some.inj here
      change layout.Continues id log ledger happening (ledgers 0)
      rw [begins]
      exact continues
    | succ count =>
      obtain ⟨more, trackedThen, goesOn⟩ := further count (Nat.le_of_succ_le_succ bounded)
      have split : entered ((happening :: history).take (count + 1)) =
          happening.injection?.toList ++ entered (history.take count) := by
        cases happening <;> rfl
      rw [split, ← List.append_assoc]
      exact ⟨more.trans drops, trackedThen, goesOn⟩

end Layout

end RelayTree
