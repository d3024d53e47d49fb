import RelayTree.Network.Background
import RelayTree.Proofs.Dispatcher.Hop
import RelayTree.Proofs.Network.Flow

/-!
# The layout of a network

A network at work consists of queues and of workers that each hold one message at
most. Which queue and which worker plays which part is fixed while it works, and
`Layout` writes it down: for each host its desk and inbound queue, for each link the
queue and the two forwarders. A `Berth` names a part, and `spot` tells what plays it.

Between berths a message for some module can move in one way only, which ends in the
queue of the module's runtime. `course` shows it: six berths for every hop of the
route, so that the rank of a berth comes from the number of hosts still to visit.
-/

namespace RelayTree

/-- Where a message can be: in a queue, or in the hand of a worker. Between the two steps in which a
worker takes a message and puts it down, it is in the hand. -/
inductive Spot where
  | queue (id : QueueId)
  | hand (worker : Worker)
deriving DecidableEq

namespace Network

/-- What a worker has taken and not yet put down, which is one message at most. A worker that is not
there has nothing. -/
def hand (network : Network) : Worker → List Message
  | .forwarder name => ((network.forwarders.get? name).map (·.stage.held)).getD []
  | .merging name index =>
    (((network.mergers.get? name).bind (·.forwarders[index]?)).map (·.stage.held)).getD []
  | .gathering name index =>
    ((((network.nodes.get? name).bind (·.dispatcher.workers)).bind
      (·.merger.forwarders[index]?)).map (·.stage.held)).getD []
  | .dispatching name =>
    (((network.nodes.get? name).bind (·.dispatcher.workers)).map (·.loop.held)).getD []

/-- What is at a spot, the next message first, be it a queue or a hand. -/
def holds (network : Network) : Spot → List Message
  | .queue id => (network.queues.read id).items
  | .hand worker => network.hand worker

end Network

/-- Who plays which part: the tree and the hosts it was made from, the desk and the
inbound queue of each host, and for each client the queue towards it at its server and
the names of the forwarders that carry its messages up and down. -/
structure Layout where
  roster : Roster
  tree : RoutingTree
  desk : String → Desk
  inbound : String → QueueId
  toClient : String → QueueId
  upward : String → String
  downward : String → String

/-- A part in a network. The sources of a host are numbered in the order in which they
are merged: from its modules, from its clients, from its server. -/
inductive Berth where
  | source (host : String) (index : Nat)
  | gathering (host : String) (index : Nat)
  | inbound (host : String)
  | dispatching (host : String)
  | toServer (client : String)
  | climbing (client : String)
  | toClient (client : String)
  | descending (client : String)
  | runtime (queue : QueueId)
deriving DecidableEq

namespace Layout

variable (layout : Layout)

/-- The queue or the hand that plays a part, as the layout has it. It does not change while the
network works. -/
def spot : Berth → Spot
  | .source host index => .queue ((layout.desk host).sources.getD index default)
  | .gathering host index => .hand (.gathering host index)
  | .inbound host => .queue (layout.inbound host)
  | .dispatching host => .hand (.dispatching host)
  | .toServer client => .queue (layout.desk client).uplink.toServer
  | .climbing client => .hand (.forwarder (layout.upward client))
  | .toClient client => .queue (layout.toClient client)
  | .descending client => .hand (.forwarder (layout.downward client))
  | .runtime queue => .queue queue

/-- The parts that there are: hosts are those of the tree, clients have a server, and a
runtime is the one of some module. -/
def Valid : Berth → Prop
  | .source host index | .gathering host index => host ∈ layout.tree.hosts ∧ index < 3
  | .inbound host | .dispatching host => host ∈ layout.tree.hosts
  | .toServer client | .climbing client | .toClient client | .descending client =>
    ∃ server, layout.tree.parent? client = some server
  | .runtime queue => ∃ host ∈ layout.tree.hosts, ∃ module,
    (layout.desk host).board.registry.outputQueue? module = some queue

/-- The layout is that of an accepted list of hosts, with every client connected once at
its server, and no queue and no forwarder plays two parts. -/
structure Wired : Prop where
  accepted : RoutingTree.ofHosts layout.roster.hosts = .ok layout.tree
  named : ∀ {host : String}, host ∈ layout.tree.hosts → (layout.desk host).host = host
  registered : ∀ {client server : String}, layout.tree.parent? client = some server →
    (layout.desk server).users.tokens client = [""] ∧
      (layout.desk server).users.queueOf ⟨client, ""⟩ = .ok (layout.toClient client)
  separate : ∀ {one other : Berth}, layout.Valid one → layout.Valid other →
    layout.spot one = layout.spot other → one = other

/-- A message with data for a module that has a runtime, on a host that the tree knows. -/
structure Deliverable (message : Message) : Prop where
  routable : message.Routable layout.tree
  runs : ∃ queue, (layout.desk message.target.host).board.registry.outputQueue?
    message.target.module = some queue

/-- One move of a message. What a dispatcher does with it depends on where its host is;
everything else just carries it on. -/
inductive Moves (message : Message) : Berth → Berth → Prop where
  | gather {host : String} {index : Nat} (present : host ∈ layout.tree.hosts)
      (bounded : index < 3) : Moves message (.source host index) (.gathering host index)
  | merge {host : String} {index : Nat} (present : host ∈ layout.tree.hosts)
      (bounded : index < 3) : Moves message (.gathering host index) (.inbound host)
  | take {host : String} (present : host ∈ layout.tree.hosts) :
      Moves message (.inbound host) (.dispatching host)
  | sendUp {host server : String} (present : host ∈ layout.tree.hosts)
      (known : message.target.host ∈ layout.tree.hosts)
      (onward : layout.tree.Onward host message.target.host .up server) :
      Moves message (.dispatching host) (.toServer host)
  | sendDown {host client : String} (present : host ∈ layout.tree.hosts)
      (known : message.target.host ∈ layout.tree.hosts)
      (onward : layout.tree.Onward host message.target.host .down client) :
      Moves message (.dispatching host) (.toClient client)
  | deliver {queue : QueueId} (known : message.target.host ∈ layout.tree.hosts)
      (runs : (layout.desk message.target.host).board.registry.outputQueue?
        message.target.module = some queue) :
      Moves message (.dispatching message.target.host) (.runtime queue)
  | climb {client server : String} (connects : layout.tree.parent? client = some server) :
      Moves message (.toServer client) (.climbing client)
  | reach {client server : String} (connects : layout.tree.parent? client = some server) :
      Moves message (.climbing client) (.source server 1)
  | descend {client server : String} (connects : layout.tree.parent? client = some server) :
      Moves message (.toClient client) (.descending client)
  | land {client server : String} (connects : layout.tree.parent? client = some server) :
      Moves message (.descending client) (.source client 2)

/-- How many hosts a message still has to visit, which is the length of its way from where it is. -/
def hops (target host : String) : Nat := (layout.tree.waypoints host target).length

/-- The hosts that a message comes through, from where it enters to the one that it is for. -/
def way (injection : Injection) : List String :=
  injection.source :: layout.tree.waypoints injection.source injection.message.target.host

/-- A bound on the moves that a message still has before it, from a berth on its way. Each hop is
counted as six of them, and what is left of a stay at a host is added. -/
def rank (target : String) : Berth → Nat
  | .source host _ => 6 * layout.hops target host + 4
  | .gathering host _ => 6 * layout.hops target host + 3
  | .inbound host => 6 * layout.hops target host + 2
  | .dispatching host => 6 * layout.hops target host + 1
  | .toServer client =>
    6 * ((layout.tree.parent? client).map (layout.hops target)).getD 0 + 6
  | .climbing client =>
    6 * ((layout.tree.parent? client).map (layout.hops target)).getD 0 + 5
  | .toClient client => 6 * layout.hops target client + 6
  | .descending client => 6 * layout.hops target client + 5
  | .runtime _ => 0

variable {layout} {message other : Message} {berth after one two : Berth}

/-- With every hop there is a host less to visit, so a message cannot go round in a circle. -/
theorem hops_onward (sound : layout.tree.Sound) {host hop target : String}
    {direction : Direction} (present : host ∈ layout.tree.hosts)
    (known : target ∈ layout.tree.hosts)
    (onward : layout.tree.Onward host target direction hop) :
    layout.hops target host = layout.hops target hop + 1 := by
  have apart := RoutingTree.onward_apart sound present known onward
  simp [hops, RoutingTree.waypoints_of_onward sound present known apart onward]

/-- There is one direction and one next host for a message at a host, as there is one simple
path. -/
theorem onward_unique (sound : layout.tree.Sound) {host target hop other : String}
    {direction another : Direction} (present : host ∈ layout.tree.hosts)
    (known : target ∈ layout.tree.hosts)
    (first : layout.tree.Onward host target direction hop)
    (second : layout.tree.Onward host target another other) :
    hop = other ∧ direction = another := by
  have apart := RoutingTree.onward_apart sound present known first
  have route := RoutingTree.route_of_onward sound present known apart first
  rw [RoutingTree.route_of_onward sound present known apart second] at route
  obtain ⟨path, way⟩ := Route.mk.inj (Except.ok.inj route)
  exact ⟨(List.cons.inj path).1.symm, way.symm⟩

/-- A dispatcher delivers only where it does not pass on: from its own host no way leads on to
itself. -/
theorem onward_elsewhere (sound : layout.tree.Sound) {target hop : String}
    {direction : Direction} (known : target ∈ layout.tree.hosts) :
    ¬ layout.tree.Onward target target direction hop := fun onward =>
  RoutingTree.onward_apart sound known known onward rfl

/-- Every move takes a message one step on, in the number of berths that are still before it. -/
theorem rank_falls (sound : layout.tree.Sound) (moves : layout.Moves message berth after) :
    layout.rank message.target.host berth = layout.rank message.target.host after + 1 := by
  cases moves with
  | gather | merge | take => simp [rank]
  | sendUp present known onward =>
    have hop := hops_onward sound present known onward
    cases onward with
    | up aside connects =>
      simp only [rank, connects, Option.map_some, Option.getD_some]
      omega
  | sendDown present known onward =>
    have hop := hops_onward sound present known onward
    simp only [rank]
    omega
  | deliver => simp [rank, hops]
  | climb connects | reach connects => simp [rank, connects]
  | descend | land => simp [rank]

/-- From a berth a message has only one move, which depends on the tree and on where the message is
to go. -/
theorem moves_unique (sound : layout.tree.Sound) (first : layout.Moves message berth one)
    (second : layout.Moves message berth two) : one = two := by
  cases first with
  | gather => cases second with | gather => rfl
  | merge => cases second with | merge => rfl
  | take => cases second with | take => rfl
  | sendUp present known onward =>
    cases second with
    | sendUp => rfl
    | sendDown _ _ down => cases (onward_unique sound present known onward down).2
    | deliver => exact absurd onward (onward_elsewhere sound known)
  | sendDown present known onward =>
    cases second with
    | sendUp _ _ up => cases (onward_unique sound present known onward up).2
    | sendDown _ _ down => rw [(onward_unique sound present known onward down).1]
    | deliver => exact absurd onward (onward_elsewhere sound known)
  | deliver known runs =>
    cases second with
    | sendUp _ _ up => exact absurd up (onward_elsewhere sound known)
    | sendDown _ _ down => exact absurd down (onward_elsewhere sound known)
    | deliver _ others => rw [Option.some.inj (runs.symm.trans others)]
  | climb => cases second with | climb => rfl
  | reach connects =>
    cases second with
    | reach same => rw [Option.some.inj (connects.symm.trans same)]
  | descend => cases second with | descend => rfl
  | land => cases second with | land => rfl

/-- Up to the delivery a move depends on the target host only. The module decides just the last of
them. -/
theorem moves_alike (same : message.target.host = other.target.host)
    (moves : layout.Moves message berth after)
    (under : layout.rank message.target.host after ≠ 0) : layout.Moves other berth after := by
  cases moves with
  | gather present bounded => exact .gather present bounded
  | merge present bounded => exact .merge present bounded
  | take present => exact .take present
  | sendUp present known onward => exact .sendUp present (same ▸ known) (same ▸ onward)
  | sendDown present known onward => exact .sendDown present (same ▸ known) (same ▸ onward)
  | deliver => exact absurd rfl under
  | climb connects => exact .climb connects
  | reach connects => exact .reach connects
  | descend connects => exact .descend connects
  | land connects => exact .land connects

/-- The moves of a layout make a course, which starts at the queue from the modules. -/
def course (layout : Layout) (sound : layout.tree.Sound) : Course Berth where
  entry := fun host => .source host 0
  next := layout.Moves
  rank := layout.rank
  functional := moves_unique sound
  falls := rank_falls sound
  alike := moves_alike

/-- Moves stay among the parts that there are, since the hosts of a way are hosts of the tree. -/
theorem moves_valid (sound : layout.tree.Sound) (moves : layout.Moves message berth after) :
    layout.Valid berth ∧ layout.Valid after := by
  cases moves with
  | gather present bounded => exact ⟨⟨present, bounded⟩, present, bounded⟩
  | merge present bounded => exact ⟨⟨present, bounded⟩, present⟩
  | take present => exact ⟨present, present⟩
  | sendUp present known onward =>
    cases onward with
    | up aside connects => exact ⟨present, _, connects⟩
  | sendDown present known onward =>
    cases onward with
    | down below connects => exact ⟨present, _, connects⟩
  | deliver known runs => exact ⟨known, _, known, _, runs⟩
  | climb connects => exact ⟨⟨_, connects⟩, _, connects⟩
  | reach connects => exact ⟨⟨_, connects⟩, sound.closed connects, by decide⟩
  | descend connects => exact ⟨⟨_, connects⟩, _, connects⟩
  | land connects => exact ⟨⟨_, connects⟩, RoutingTree.described_of_parent connects, by decide⟩

/-! ## On the way -/

/-- A part is on the way of a message: it belongs to a host that the message comes
through, or it is the queue of the runtime that the message is for. With a link the
hosts at both ends are on the way. -/
def OnWay (layout : Layout) (injection : Injection) : Berth → Prop
  | .source host _ | .gathering host _ | .inbound host | .dispatching host =>
    host ∈ layout.way injection
  | .toServer client | .climbing client | .toClient client | .descending client =>
    client ∈ layout.way injection ∧
      ∀ {server : String}, layout.tree.parent? client = some server →
        server ∈ layout.way injection
  | .runtime queue => (layout.desk injection.message.target.host).board.registry.outputQueue?
    injection.message.target.module = some queue

/-- No move leads off the way, by cases on the moves: most stay at their host, and the others go to
the next one of the way. -/
theorem moves_on_way (sound : layout.tree.Sound) {injection : Injection}
    (entered : injection.source ∈ layout.tree.hosts)
    (moves : layout.Moves injection.message berth after) (near : layout.OnWay injection berth) :
    layout.OnWay injection after := by
  cases moves with
  | gather | merge | take => exact near
  | sendUp present known onward =>
    have further := RoutingTree.waypoints_next sound entered known near onward
    cases onward with
    | up aside connects =>
      refine ⟨near, fun {server} other => ?_⟩
      rw [← Option.some.inj (connects.symm.trans other)]
      exact List.mem_cons_of_mem _ further
  | sendDown present known onward =>
    have further := RoutingTree.waypoints_next sound entered known near onward
    cases onward with
    | down below connects =>
      refine ⟨List.mem_cons_of_mem _ further, fun {server} other => ?_⟩
      rw [← Option.some.inj (connects.symm.trans other)]
      exact near
  | deliver known runs => exact runs
  | climb | descend => exact near
  | reach connects => exact near.2 connects
  | land => exact near.1

/-- A message is on its way, wherever it has come, by induction on the places that it came
through. -/
theorem visits_on_way (sound : layout.tree.Sound) {injection : Injection}
    (entered : injection.source ∈ layout.tree.hosts)
    (visits : (layout.course sound).Visits injection berth) : layout.OnWay injection berth := by
  induction visits with
  | refl => exact List.mem_cons_self
  | tail _ moves inductionHypothesis => exact moves_on_way sound entered moves inductionHypothesis

end Layout

end RelayTree
