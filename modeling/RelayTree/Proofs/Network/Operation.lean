import RelayTree.Proofs.Dispatcher.Work
import RelayTree.Proofs.Network.Layout

/-!
# A network in operation

`Operating` says that a network works as a layout lays it out: on every host a
dispatcher runs that was built from the hosts of the layout, forwarders carry messages
over the links, nothing else is at work, and all queues are open. A step of any worker
keeps this, drops nothing, and moves one message by one move of the layout, or none.
-/

namespace RelayTree

/-! ## One turn seen from all spots -/

namespace Network

variable {before after network : Network} {worker : Worker}

/-- A turn of one worker, while the others hold what they held, moves one message from
the input to the hand or from the hand to an output, or nothing. -/
theorem turn_shifts {input : QueueId} {output : Message → QueueId → Prop}
    (turn : Turn input output (before.hand worker) before.queues (after.hand worker) after.queues)
    (others : ∀ other, other ≠ worker → after.hand other = before.hand other) :
    (∀ spot, after.holds spot = before.holds spot) ∨
      (∃ message, Shift before.holds after.holds (.queue input) (.hand worker) message) ∨
      ∃ message queue, output message queue ∧ message ∈ before.hand worker ∧
        Shift before.holds after.holds (.hand worker) (.queue queue) message := by
  generalize held : after.hand worker = holding at turn
  generalize queues : after.queues = store at turn
  cases turn with
  | wait =>
    refine .inl fun spot => ?_
    cases spot with
    | queue id => simp [holds, queues]
    | hand other =>
      by_cases same : other = worker
      · rw [same, holds, holds, held]
      · exact others other same
  | @take message rest free first =>
    refine .inr (.inl ⟨message, nofun, ?_, ?_, ?_⟩)
    · simp [holds, queues, Queue.tail, first]
    · simp [holds, held, free]
    · intro spot notInput notHand
      cases spot with
      | queue id =>
        have other : id ≠ input := fun same => notInput (same ▸ rfl)
        simp [holds, queues, other]
      | hand other => exact others other fun same => notHand (same ▸ rfl)
  | @give message queue full goes =>
    refine .inr (.inr ⟨message, queue, goes, by simp [full], nofun, ?_, ?_, ?_⟩)
    · simp [holds, held, full]
    · simp [holds, queues, QueueStore.append_items]
    · intro spot notHand notOutput
      cases spot with
      | queue id =>
        have other : id ≠ queue := fun same => notOutput (same ▸ rfl)
        simp [holds, queues, QueueStore.append_items, other]
      | hand other => exact others other fun same => notHand (same ▸ rfl)

/-- How many messages the dispatcher of a node and its strategies have dropped. -/
def drops (network : Network) (name : String) : List UInt64 :=
  ((network.nodes.get? name).map (·.dispatcher.drops)).getD []

/-! ## What the workers hold after a step -/

/-- Setting a forwarder changes what this one holds, which is told by its stage. -/
theorem hand_forwarder (network : Network) (name : String) (forwarder : Forwarder)
    (queues : QueueStore) :
    (network.setForwarder name forwarder queues).hand (.forwarder name) = forwarder.stage.held := by
  simp [hand, setForwarder]

/-- Setting a forwarder changes nobody else's hand, since each worker is looked up under a name of
its own. -/
theorem hand_forwarder_other {name : String} (forwarder : Forwarder) (queues : QueueStore)
    {other : Worker} (apart : other ≠ .forwarder name) :
    (network.setForwarder name forwarder queues).hand other = network.hand other := by
  cases other with
  | forwarder another =>
    have different : another ≠ name := fun same => apart (same ▸ rfl)
    simp [hand, setForwarder, different]
  | merging | gathering | dispatching => rfl

/-- The hand of a gatherer of a node whose dispatcher has the workers. -/
theorem hand_gathering {name : String} {node : Node} {workers : Workers}
    (found : network.nodes.get? name = some node) (running : node.dispatcher.workers = some workers)
    (index : Nat) : network.hand (.gathering name index) =
      ((workers.merger.forwarders[index]?).map (·.stage.held)).getD [] := by
  simp [hand, found, running]

/-- What a dispatch loop holds is told by the workers of its node. -/
theorem hand_dispatching {name : String} {node : Node} {workers : Workers}
    (found : network.nodes.get? name = some node)
    (running : node.dispatcher.workers = some workers) :
    network.hand (.dispatching name) = workers.loop.held := by
  simp [hand, found, running]

/-- The node after its station was taken over has the desk and the dispatcher of the station, and
the routes for operation by hand that it had. -/
theorem adopted_found (name : String) (node : Node) (station : Station) :
    (network.adoptStation name node station).nodes.get? name =
      some { node with desk := station.desk, dispatcher := station.dispatcher } := by
  simp [adoptStation]

/-- Taking over the station of one node leaves every other node as it was. -/
theorem adopted_other {name other : String} (apart : other ≠ name) (node : Node)
    (station : Station) :
    (network.adoptStation name node station).nodes.get? other = network.nodes.get? other := by
  simp [adoptStation, apart]

/-- Workers elsewhere hold what they held, whatever became of the station that was taken over. A
station has gatherers and one dispatch loop, so these are the workers to be excluded. -/
theorem hand_adopted_other {name : String} (node : Node) (station : Station) {other : Worker}
    (gathering : ∀ index, other ≠ .gathering name index) (dispatching : other ≠ .dispatching name) :
    (network.adoptStation name node station).hand other = network.hand other := by
  cases other with
  | forwarder | merging => rfl
  | gathering another index =>
    have different : another ≠ name := fun same => gathering index (same ▸ rfl)
    simp [hand, adopted_other different]
  | dispatching another =>
    have different : another ≠ name := fun same => dispatching (same ▸ rfl)
    simp [hand, adopted_other different]

/-- After a step of one gatherer all others hold what they held, those of the same node included. -/
theorem hand_merge_other {name : String} {node : Node} {station : Station} {workers : Workers}
    {index : Nat} {stepped : Forwarder} (found : network.nodes.get? name = some node)
    (running : node.dispatcher.workers = some workers)
    (runs : station.dispatcher.workers = some
      { workers with
        merger := { workers.merger with
          forwarders := workers.merger.forwarders.set index stepped } })
    {other : Worker} (apart : other ≠ .gathering name index) :
    (network.adoptStation name node station).hand other = network.hand other := by
  by_cases gathers : ∃ another, other = .gathering name another
  · obtain ⟨another, rfl⟩ := gathers
    have different : index ≠ another := by
      rintro rfl
      exact apart rfl
    rw [hand_gathering (adopted_found ..) runs, hand_gathering found running,
      List.getElem?_set_ne different]
  · by_cases dispatches : other = .dispatching name
    · rw [dispatches, hand_dispatching (adopted_found ..) runs, hand_dispatching found running]
    · exact hand_adopted_other node _ (fun another same => gathers ⟨another, same⟩) dispatches

/-- After a step of a dispatch loop all others hold what they held. -/
theorem hand_loop_other {name : String} {node : Node} {station : Station} {workers : Workers}
    {loop : LoopStage} (found : network.nodes.get? name = some node)
    (running : node.dispatcher.workers = some workers)
    (runs : station.dispatcher.workers = some { workers with loop := loop })
    {other : Worker} (apart : other ≠ .dispatching name) :
    (network.adoptStation name node station).hand other = network.hand other := by
  by_cases gathers : ∃ index, other = .gathering name index
  · obtain ⟨index, rfl⟩ := gathers
    rw [hand_gathering (adopted_found ..) runs, hand_gathering found running]
  · exact hand_adopted_other node _ (fun index same => gathers ⟨index, same⟩) apart

/-- A station that did not change is taken over without effect, as when a worker found nothing to
do. -/
theorem adopt_same {name : String} {node : Node} (found : network.nodes.get? name = some node) :
    network.adoptStation name node (network.station node) = network := by
  have nodes : network.nodes.insert name node = network.nodes := by
    apply SortedMap.ext_get?
    intro key
    rw [SortedMap.get?_insert]
    by_cases same : key = name
    · rw [if_pos same, same, found]
    · rw [if_neg same]
  simp only [adoptStation, station, nodes]

end Network

namespace Layout

/-! ## Networks that work by a layout -/

/-- A node plays the parts of a host: it has the desk that the layout says, a dispatcher that was
built from its hosts and runs, and its three gatherers at work. -/
structure Staffs (layout : Layout) (host : String) (node : Node) (workers : Workers) : Prop where
  desk : node.desk = layout.desk host
  built : node.dispatcher.BuiltFrom host layout.roster layout.tree
  inbound : node.dispatcher.inbound = layout.inbound host
  running : node.dispatcher.workers = some workers
  few : workers.merger.forwarders.length = 3
  gatherers : ∀ {index : Nat} {forwarder : Forwarder},
    workers.merger.forwarders[index]? = some forwarder →
      forwarder.Works ((layout.desk host).sources.getD index default) (layout.inbound host)
  going : workers.loop ≠ .done

/-- A forwarder plays one of the two parts of a link, leading up from the client or down to it. -/
def Links (layout : Layout) (name : String) (forwarder : Forwarder) (client server : String) :
    Prop :=
  layout.tree.parent? client = some server ∧
    (name = layout.upward client ∧
        forwarder.Works (layout.desk client).uplink.toServer
          (layout.desk server).users.fromClients ∨
      name = layout.downward client ∧
        forwarder.Works (layout.toClient client) (layout.desk client).uplink.fromServer)

/-- The nodes play the hosts, the forwarders play the links, nothing else is at work, and
all queues are open. -/
structure Operating (layout : Layout) (network : Network) : Prop where
  staffed : ∀ {host : String}, host ∈ layout.tree.hosts →
    ∃ node workers, network.nodes.get? host = some node ∧ layout.Staffs host node workers
  manned : ∀ {name : String} {node : Node}, network.nodes.get? name = some node →
    name ∈ layout.tree.hosts
  linked : ∀ {name : String} {forwarder : Forwarder},
    network.forwarders.get? name = some forwarder →
      ∃ client server, layout.Links name forwarder client server
  unmerged : ∀ name, network.mergers.get? name = none
  opened : ∀ queue, (network.queues.read queue).closed = false

/-- Only messages for modules with a runtime are about, and only where the layout has a
part. -/
structure Loaded (layout : Layout) (network : Network) : Prop where
  deliverable : ∀ {spot : Spot} {message : Message}, message ∈ network.holds spot →
    layout.Deliverable message
  berthed : ∀ {spot : Spot} {message : Message}, message ∈ network.holds spot →
    ∃ berth, layout.Valid berth ∧ layout.spot berth = spot

/-- Nothing is dropped, and one message has moved one step on, or none has. This is what is shown of
every step of every worker, and all that histories need to know of it. -/
structure Advances (layout : Layout) (before after : Network) : Prop where
  operating : layout.Operating after
  drops : after.drops = before.drops
  moved : (∀ spot, after.holds spot = before.holds spot) ∨
    ∃ message berth next, layout.Moves message berth next ∧
      Shift before.holds after.holds (layout.spot berth) (layout.spot next) message

variable {layout : Layout} {network : Network}

/-- A network that stays the same advances, without a message. -/
theorem advances_same (operating : layout.Operating network) : layout.Advances network network :=
  ⟨operating, rfl, .inl fun _ => rfl⟩

/-- A step of a forwarder that moves messages from one part over its hand to another. Upward and
downward links differ in their parts only, so this is said once, with the parts and their moves as
arguments. -/
theorem link_advances (operating : layout.Operating network) {name client server : String}
    {forwarder : Forwarder} (found : network.forwarders.get? name = some forwarder)
    {input output : QueueId} (works : forwarder.Works input output)
    (links : ∀ stepped : Forwarder, stepped.Works input output →
      layout.Links name stepped client server)
    (first second third : Berth) (atInput : layout.spot first = .queue input)
    (atHand : layout.spot second = .hand (.forwarder name))
    (atOutput : layout.spot third = .queue output)
    (take : ∀ message, layout.Moves message first second)
    (give : ∀ message, layout.Moves message second third) :
    layout.Advances network (network.step (.forwarder name)) := by
  obtain ⟨worksOn, turn⟩ := Forwarder.step_turn works operating.opened
  have step : network.step (.forwarder name) =
      network.setForwarder name (forwarder.step network.queues).1
        (forwarder.step network.queues).2 := by
    simp [Network.step, found]
  have hand : network.hand (.forwarder name) = forwarder.stage.held := by
    simp [Network.hand, found]
  have closed := turn_closed turn
  rw [← hand, ← Network.hand_forwarder network name _
    (forwarder.step network.queues).2] at turn
  rw [step]
  refine ⟨⟨operating.staffed, operating.manned, ?_, operating.unmerged, ?_⟩, rfl, ?_⟩
  · intro other stepped there
    by_cases same : other = name
    · subst same
      rw [Network.setForwarder, SortedMap.get?_insert, if_pos rfl, Option.some.injEq] at there
      exact ⟨client, server, there ▸ links _ worksOn⟩
    · rw [Network.setForwarder, SortedMap.get?_insert, if_neg same] at there
      exact operating.linked there
  · exact fun queue => (closed queue).trans (operating.opened queue)
  · rcases Network.turn_shifts turn fun other apart =>
        Network.hand_forwarder_other _ _ apart with
      same | ⟨message, shift⟩ | ⟨message, queue, rfl, _, shift⟩
    · exact .inl same
    · exact .inr ⟨message, first, second, take message, atInput ▸ atHand ▸ shift⟩
    · exact .inr ⟨message, second, third, give message, atHand ▸ atOutput ▸ shift⟩

/-- A step of a link forwarder moves a message from the queue of the link to its hand, or from its
hand to the other end, or moves none. -/
theorem forwarder_advances (operating : layout.Operating network) (name : String) :
    layout.Advances network (network.step (.forwarder name)) := by
  cases found : network.forwarders.get? name with
  | none =>
    rw [Network.step, found]
    exact advances_same operating
  | some forwarder =>
    obtain ⟨client, server, connects, ⟨rfl, works⟩ | ⟨rfl, works⟩⟩ := operating.linked found
    · exact link_advances operating found works
        (fun _ worksOn => ⟨connects, .inl ⟨rfl, worksOn⟩⟩)
        (.toServer client) (.climbing client) (.source server 1) rfl rfl rfl
        (fun _ => .climb connects) fun _ => .reach connects
    · exact link_advances operating found works
        (fun _ worksOn => ⟨connects, .inr ⟨rfl, worksOn⟩⟩)
        (.toClient client) (.descending client) (.source client 2) rfl rfl rfl
        (fun _ => .descend connects) fun _ => .land connects

/-- A node that is there plays the parts of a host, since no others are at work in the network. -/
theorem found_staffs (operating : layout.Operating network) {name : String} {node : Node}
    (found : network.nodes.get? name = some node) :
    name ∈ layout.tree.hosts ∧ ∃ workers, layout.Staffs name node workers := by
  have described := operating.manned found
  obtain ⟨other, workers, there, staffs⟩ := operating.staffed described
  obtain rfl : node = other := Option.some.inj (found.symm.trans there)
  exact ⟨described, workers, staffs⟩

/-- A node whose workers changed, but not its desk and not what its dispatcher knows,
still plays the parts of its host. -/
theorem adopted_operating (operating : layout.Operating network) {host : String} {node : Node}
    {workers changed : Workers} (found : network.nodes.get? host = some node)
    (staffs : layout.Staffs host node workers) {station : Station}
    (undisturbed : (network.station node).Undisturbed station)
    (running : station.dispatcher.workers = some changed)
    (few : changed.merger.forwarders.length = 3)
    (gatherers : ∀ {index : Nat} {forwarder : Forwarder},
      changed.merger.forwarders[index]? = some forwarder →
        forwarder.Works ((layout.desk host).sources.getD index default) (layout.inbound host))
    (going : changed.loop ≠ .done)
    (opened : ∀ queue, (station.queues.read queue).closed = false) (named : node.desk.host = host) :
    layout.Operating (network.adoptStation host node station) ∧
      (network.adoptStation host node station).drops = network.drops := by
  have desk : station.desk = node.desk := undisturbed.desk
  have built : station.dispatcher.BuiltFrom host layout.roster layout.tree :=
    Station.built_after undisturbed.keeps named staffs.built
  refine ⟨⟨?_, ?_, operating.linked, operating.unmerged, opened⟩, ?_⟩
  · intro other member
    by_cases same : other = host
    · subst same
      exact ⟨_, changed, Network.adopted_found .., desk.trans staffs.desk, built,
        undisturbed.inbound.trans staffs.inbound, running, few, gatherers, going⟩
    · rw [Network.adopted_other same]
      exact operating.staffed member
  · intro other later there
    by_cases same : other = host
    · exact same ▸ operating.manned found
    · rw [Network.adopted_other same] at there
      exact operating.manned there
  · funext other
    by_cases same : other = host
    · subst same
      simp only [Network.drops, Network.adopted_found, found, Option.map_some, Option.getD_some]
      exact undisturbed.drops
    · simp [Network.drops, Network.adopted_other same]

/-- A gatherer that works on as before can take the place of one. The others are where they were,
and the place that was written to has the new one. -/
theorem gatherers_set {host : String} {node : Node} {workers : Workers}
    (staffs : layout.Staffs host node workers) {index : Nat} {stepped : Forwarder}
    (works : stepped.Works ((layout.desk host).sources.getD index default) (layout.inbound host))
    {other : Nat} {forwarder : Forwarder}
    (present : (workers.merger.forwarders.set index stepped)[other]? = some forwarder) :
    forwarder.Works ((layout.desk host).sources.getD other default) (layout.inbound host) := by
  rw [List.getElem?_set] at present
  split at present
  · rename_i same
    split at present
    · rw [← same, ← Option.some.inj present]
      exact works
    · cases present
  · exact staffs.gatherers present

/-- A step of a gatherer moves a message from a source to its hand, or from its hand to the inbound
queue, or moves none. -/
theorem gathering_advances (wired : layout.Wired) (operating : layout.Operating network)
    (name : String) (index : Nat) :
    layout.Advances network (network.step (.gathering name index)) := by
  cases found : network.nodes.get? name with
  | none =>
    rw [Network.step, found]
    exact advances_same operating
  | some node =>
    obtain ⟨described, workers, staffs⟩ := found_staffs operating found
    have step : network.step (.gathering name index) =
        network.adoptStation name node ((network.station node).mergeStep index) := by
      simp [Network.step, found]
    rw [step]
    have running : (network.station node).dispatcher.workers = some workers := staffs.running
    cases present : workers.merger.forwarders[index]? with
    | none =>
      rw [Station.merge_absent running present, Network.adopt_same found]
      exact advances_same operating
    | some forwarder =>
      have here : index < workers.merger.forwarders.length :=
        (List.getElem?_eq_some_iff.mp present).1
      have bounded : index < 3 := staffs.few ▸ here
      obtain ⟨stepped, works, runs, undisturbed, turn⟩ :=
        Station.merge_turn running present (staffs.gatherers present) operating.opened
      have kept := adopted_operating operating found staffs undisturbed runs
        (by simpa using staffs.few) (gatherers_set staffs works) staffs.going
        (fun queue => (turn_closed turn queue).trans (operating.opened queue))
        (by rw [staffs.desk, wired.named described])
      have before : network.hand (.gathering name index) = forwarder.stage.held := by
        rw [Network.hand_gathering found staffs.running, present]
        rfl
      have after : (network.adoptStation name node ((network.station node).mergeStep index)).hand
          (.gathering name index) = stepped.stage.held := by
        rw [Network.hand_gathering (Network.adopted_found ..) runs, List.getElem?_set_self here]
        rfl
      rw [← before, ← after] at turn
      refine ⟨kept.1, kept.2, ?_⟩
      rcases Network.turn_shifts turn fun _ => Network.hand_merge_other found running runs with
        same | ⟨message, shift⟩ | ⟨message, queue, rfl, _, shift⟩
      · exact .inl same
      · exact .inr ⟨message, .source name index, .gathering name index,
          .gather described bounded, shift⟩
      · exact .inr ⟨message, .gathering name index, .inbound name, .merge described bounded, shift⟩

/-- At every host there is an outlet for a message that can be delivered. It is a runtime at the
target, and otherwise the queue to the next hop, which every host of a wired layout has. -/
theorem outlet_exists (wired : layout.Wired) {message : Message}
    (deliverable : layout.Deliverable message) {host : String}
    (described : host ∈ layout.tree.hosts) :
    ∃ queue, (layout.desk host).Outlet layout.tree message queue := by
  have sound := RoutingTree.accepted_sound wired.accepted
  have named := wired.named described
  by_cases arrived : message.target.host = host
  · obtain ⟨queue, runs⟩ := deliverable.runs
    rw [arrived] at runs
    exact ⟨queue, .here (arrived.trans named.symm) runs⟩
  · obtain ⟨direction, hop, onward⟩ :=
      RoutingTree.onward_exists sound described deliverable.routable.known (Ne.symm arrived)
    rw [← named] at onward
    cases onward with
    | up aside connects => exact ⟨_, .up (.up aside connects)⟩
    | down below connects =>
      have server := connects
      rw [named] at server
      obtain ⟨once, registered⟩ := wired.registered server
      exact ⟨_, .down (.down below connects) once registered⟩

/-- What the dispatcher of a host puts on the outlet for it makes a move of the layout. -/
theorem outlet_moves (wired : layout.Wired) {message : Message}
    (deliverable : layout.Deliverable message) {host : String}
    (described : host ∈ layout.tree.hosts) {queue : QueueId}
    (outlet : (layout.desk host).Outlet layout.tree message queue) :
    ∃ next, layout.spot next = .queue queue ∧ layout.Moves message (.dispatching host) next := by
  have named := wired.named described
  have known := deliverable.routable.known
  cases outlet with
  | up onward =>
    rw [named] at onward
    exact ⟨.toServer host, rfl, .sendUp described known onward⟩
  | @down client queue onward once connected =>
    rw [named] at onward
    have connects : layout.tree.parent? client = some host := by
      cases onward
      assumption
    have registered := (wired.registered connects).2
    rw [connected, Except.ok.injEq] at registered
    exact ⟨.toClient client, congrArg Spot.queue registered.symm,
      .sendDown described known onward⟩
  | here arrived runs =>
    rw [named] at arrived
    rw [← arrived] at runs ⊢
    exact ⟨.runtime queue, rfl, .deliver known runs⟩

/-- A step of a dispatch loop takes a message from the inbound queue, or routes the one that it
holds to the outlet for it. -/
theorem dispatching_advances (wired : layout.Wired) (operating : layout.Operating network)
    (loaded : layout.Loaded network) (name : String) :
    layout.Advances network (network.step (.dispatching name)) := by
  cases found : network.nodes.get? name with
  | none =>
    rw [Network.step, found]
    exact advances_same operating
  | some node =>
    obtain ⟨described, workers, staffs⟩ := found_staffs operating found
    have named : node.desk.host = name := by rw [staffs.desk, wired.named described]
    have step : network.step (.dispatching name) =
        network.adoptStation name node (network.station node).loopStep := by
      simp [Network.step, found]
    have before := Network.hand_dispatching found staffs.running
    have deliverable : ∀ message ∈ network.hand (.dispatching name),
        layout.Deliverable message := fun message member =>
      loaded.deliverable (show message ∈ network.holds (.hand (.dispatching name)) from member)
    have built : (network.station node).dispatcher.BuiltFrom (network.station node).desk.host
        layout.roster layout.tree := by
      rw [show (network.station node).desk.host = name from named]
      exact staffs.built
    have desk : (network.station node).desk = layout.desk name := staffs.desk
    obtain ⟨loop, going, runs, undisturbed, turn⟩ :=
      Station.loop_turn staffs.running staffs.going built operating.opened fun message member => by
        have own := deliverable message (before ▸ member)
        rw [desk]
        exact ⟨own.routable, outlet_exists wired own described⟩
    have kept := adopted_operating operating found staffs undisturbed runs staffs.few
      staffs.gatherers going (fun queue => (turn_closed turn queue).trans (operating.opened queue))
      named
    have after : (network.adoptStation name node (network.station node).loopStep).hand
        (.dispatching name) = loop.held :=
      Network.hand_dispatching (Network.adopted_found ..) runs
    rw [← before, ← after, desk] at turn
    rw [step]
    refine ⟨kept.1, kept.2, ?_⟩
    have inbound : (network.station node).dispatcher.inbound = layout.inbound name :=
      staffs.inbound
    rcases Network.turn_shifts turn fun _ =>
        Network.hand_loop_other found staffs.running runs with
      same | ⟨message, shift⟩ | ⟨message, queue, outlet, member, shift⟩
    · exact .inl same
    · rw [inbound] at shift
      exact .inr ⟨message, .inbound name, .dispatching name, .take described, shift⟩
    · obtain ⟨next, atNext, moves⟩ :=
        outlet_moves wired (deliverable message member) described outlet
      exact .inr ⟨message, .dispatching name, next, moves, atNext ▸ shift⟩

/-- Whatever worker takes a step: nothing is dropped, and no more than one message moves,
by a move of the layout. -/
theorem step_advances (wired : layout.Wired) (operating : layout.Operating network)
    (loaded : layout.Loaded network) (worker : Worker) :
    layout.Advances network (network.step worker) := by
  cases worker with
  | forwarder name => exact forwarder_advances operating name
  | merging name index =>
    rw [Network.step, operating.unmerged]
    exact advances_same operating
  | gathering name index => exact gathering_advances wired operating name index
  | dispatching name => exact dispatching_advances wired operating loaded name

end Layout

end RelayTree
