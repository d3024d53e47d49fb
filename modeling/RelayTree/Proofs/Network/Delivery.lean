import RelayTree.Network.Basic
import RelayTree.Proofs.Dispatcher.Hop

/-!
# Delivery along the route

A message is handed from host to host, and each of them decides on its own where it
goes next. `Journey` follows it: the dispatcher of a host puts it on a queue, the
other end of that queue is the host that gets it next, and so on until it lies in the
queue of a runtime. The journey from a host to another one visits the hosts of the
route between them, in order, and no others.

A journey lists the networks in which its calls are made. They need not follow from
one another: whatever else happens between two calls is fine, as long as it leaves the
network `Connected` and the target module with a runtime.
-/

namespace RelayTree

namespace Network

/-- Where the messages of a queue are handed to: from a host's queue to its server to
that server, and from a server's queue for a connected client to that client. -/
inductive Conveys (network : Network) (tree : RoutingTree) (queue : QueueId) : String → Prop where
  | up {client server : String} {node : Node} (connects : tree.parent? client = some server)
      (found : network.nodes.get? client = some node)
      (own : node.desk.uplink.toServer = queue) : Conveys network tree queue server
  | down {client server : String} {node : Node} (connects : tree.parent? client = some server)
      (found : network.nodes.get? server = some node)
      (own : node.desk.users.queueOf ⟨client, ""⟩ = .ok queue) : Conveys network tree queue client

/-- Every host of an accepted list has a dispatcher built from it, is connected once at
its server, and shares no link queue with another link or a runtime; all queues are open. -/
structure Connected (network : Network) (roster : Roster) (tree : RoutingTree) : Prop where
  accepted : RoutingTree.ofHosts roster.hosts = .ok tree
  staffed : ∀ {host : String}, host ∈ tree.hosts → ∃ node, network.nodes.get? host = some node ∧
    node.desk.host = host ∧ node.dispatcher.BuiltFrom host roster tree
  registered : ∀ {client server : String} {node : Node}, tree.parent? client = some server →
    network.nodes.get? server = some node → node.desk.users.tokens client = [""] ∧
      ∃ queue, node.desk.users.queueOf ⟨client, ""⟩ = .ok queue
  opened : ∀ queue, (network.queues.read queue).closed = false
  separate : ∀ {queue : QueueId} {first second : String}, network.Conveys tree queue first →
    network.Conveys tree queue second → first = second
  inner : ∀ {host module next : String} {node : Node} {queue : QueueId},
    network.nodes.get? host = some node →
      node.desk.board.registry.outputQueue? module = some queue →
        ¬ network.Conveys tree queue next

/-- The network is connected, and the target module of the message has a runtime. Nothing is said of
what is in the queues, nor of what has been remembered or counted. -/
structure Ready (network : Network) (roster : Roster) (tree : RoutingTree) (message : Message) :
    Prop where
  connected : network.Connected roster tree
  runs : ∃ node queue, network.nodes.get? message.target.host = some node ∧
    node.desk.board.registry.outputQueue? message.target.module = some queue

/-- The way of a message from the host whose dispatcher is called first, over the hosts
that the receiving queues lead to. Every call returns that the message was forwarded
and appends it, unchanged, to one queue. -/
inductive Journey (tree : RoutingTree) (message : Message) :
    List Network → String → List String → Prop where
  | arrives {network : Network} {node : Node} {queue : QueueId}
      (found : network.nodes.get? message.target.host = some node)
      (called : (network.station node).Forwards message queue
        ((network.station node).route message))
      (runs : node.desk.board.registry.outputQueue? message.target.module = some queue) :
      Journey tree message [network] message.target.host []
  | handed {network : Network} {networks : List Network} {host next : String} {node : Node}
      {queue : QueueId} {trail : List String} (found : network.nodes.get? host = some node)
      (called : (network.station node).Forwards message queue
        ((network.station node).route message))
      (leads : network.Conveys tree queue next) (rest : Journey tree message networks next trail) :
      Journey tree message (network :: networks) host (next :: trail)

/-- The network after the dispatcher of a host was called with a message. It is the call alone;
workers that would carry the message on are not part of it. -/
def called (network : Network) (host : String) (message : Message) : Network :=
  match network.nodes.get? host with
  | none => network
  | some node => network.adoptStation host node ((network.station node).route message).state

/-- The networks in which calls at hosts are made, one directly after the other. There is one for
each call, and what the last call leaves is not among them. -/
def stages (network : Network) (message : Message) : List String → List Network
  | [] => []
  | host :: rest => network :: (network.called host message).stages message rest

variable {network : Network} {roster : Roster} {tree : RoutingTree} {message : Message}

/-- Two ways to describe one call agree on the queue: the message was put on one only, and it was
not there so often before. -/
theorem receiving_unique {station : Station} {outcome : Outcome Station Delivery}
    {queue other : QueueId} (first : station.Forwards message queue outcome)
    (second : station.Forwards message other outcome) : queue = other := by
  by_contra different
  have appended := QueueStore.append_items station.queues queue queue message
  have untouched := QueueStore.append_items station.queues other queue message
  rw [← first.queues, if_pos rfl] at appended
  rw [← second.queues, if_neg different, appended] at untouched
  have lengths := congrArg List.length untouched
  simp at lengths

/-- A call in a ready network forwards the message, at its target to the runtime and
elsewhere to the next host. -/
theorem call_forwards (ready : network.Ready roster tree message)
    (routable : message.Routable tree) {host : String} (described : host ∈ tree.hosts) :
    ∃ node queue, network.nodes.get? host = some node ∧
      (network.station node).Forwards message queue ((network.station node).route message) ∧
      (host = message.target.host ∧
          node.desk.board.registry.outputQueue? message.target.module = some queue ∨
        ∃ direction hop, tree.Onward host message.target.host direction hop ∧
          network.Conveys tree queue hop) := by
  have connected := ready.connected
  have sound := RoutingTree.accepted_sound connected.accepted
  obtain ⟨node, found, named, built⟩ := connected.staffed described
  have own : (network.station node).desk.host = host := named
  have builtHere : (network.station node).dispatcher.BuiltFrom
      (network.station node).desk.host roster tree := own ▸ built
  by_cases arrived : host = message.target.host
  · obtain ⟨target, queue, foundTarget, runs⟩ := ready.runs
    rw [← arrived, found] at foundTarget
    obtain rfl : node = target := Option.some.inj foundTarget
    have outlet : (network.station node).desk.Outlet tree message queue :=
      .here (arrived.symm.trans own.symm) runs
    exact ⟨node, queue, found,
      Station.route_outlet builtHere routable outlet (connected.opened queue),
      .inl ⟨arrived, runs⟩⟩
  · obtain ⟨direction, hop, onward⟩ :=
      RoutingTree.onward_exists sound described routable.known arrived
    have onwardHere : tree.Onward (network.station node).desk.host message.target.host
        direction hop := own.symm ▸ onward
    cases onward with
    | up aside connects =>
      exact ⟨node, node.desk.uplink.toServer, found,
        Station.route_outlet builtHere routable (.up onwardHere) (connected.opened _),
        .inr ⟨.up, hop, .up aside connects, .up connects found rfl⟩⟩
    | down below connects =>
      obtain ⟨once, queue, registered⟩ := connected.registered connects found
      exact ⟨node, queue, found,
        Station.route_outlet builtHere routable (.down onwardHere once registered)
          (connected.opened queue),
        .inr ⟨.down, hop, .down below connects, .down connects found registered⟩⟩

/-- In ready networks a message can go the whole way along the waypoints. The networks are those of
the calls, one for each host on the way, and the induction on them moves the message one host
further with each. -/
theorem journey_exists (routable : message.Routable tree) (networks : List Network)
    (ready : ∀ network ∈ networks, network.Ready roster tree message) {host : String}
    (described : host ∈ tree.hosts)
    (enough : networks.length = (tree.waypoints host message.target.host).length + 1) :
    Journey tree message networks host (tree.waypoints host message.target.host) := by
  induction networks generalizing host with
  | nil => simp at enough
  | cons network networks inductionHypothesis =>
    have here := ready network List.mem_cons_self
    have sound := RoutingTree.accepted_sound here.connected.accepted
    obtain ⟨node, queue, found, called, rest⟩ := call_forwards here routable described
    rcases rest with ⟨rfl, runs⟩ | ⟨direction, hop, onward, leads⟩
    · rw [RoutingTree.waypoints_self] at enough ⊢
      have last : networks = [] := by simpa using enough
      exact last ▸ .arrives found called runs
    · have apart := RoutingTree.onward_apart sound described routable.known onward
      have split := RoutingTree.waypoints_of_onward sound described routable.known apart onward
      rw [split] at enough ⊢
      refine .handed found called leads (inductionHypothesis (fun later member =>
        ready later (List.mem_cons_of_mem _ member))
        (RoutingTree.onward_described sound onward) ?_)
      simpa using enough

/-- In ready networks a message cannot go any other way, by induction on the journey: each call puts
it on one queue, which leads to one host. -/
theorem journey_unique (routable : message.Routable tree) {networks : List Network}
    (ready : ∀ network ∈ networks, network.Ready roster tree message) {host : String}
    (described : host ∈ tree.hosts) {trail : List String}
    (journey : Journey tree message networks host trail) :
    trail = tree.waypoints host message.target.host := by
  induction journey with
  | arrives found called runs => exact (RoutingTree.waypoints_self _).symm
  | @handed network networks host next node queue trail found called leads rest
      inductionHypothesis =>
    have here := ready network List.mem_cons_self
    have sound := RoutingTree.accepted_sound here.connected.accepted
    obtain ⟨other, receiving, foundOther, calledOther, goes⟩ :=
      call_forwards here routable described
    rw [found] at foundOther
    obtain rfl : node = other := Option.some.inj foundOther
    obtain rfl : queue = receiving := receiving_unique called calledOther
    rcases goes with ⟨_, runs⟩ | ⟨direction, hop, onward, leadsOther⟩
    · exact absurd leads (here.connected.inner found runs)
    · obtain rfl : next = hop := here.connected.separate leads leadsOther
      have apart := RoutingTree.onward_apart sound described routable.known onward
      rw [RoutingTree.waypoints_of_onward sound described routable.known apart onward,
        inductionHypothesis (fun later member => ready later (List.mem_cons_of_mem _ member))
          (RoutingTree.onward_described sound onward)]

/-! ## Calls leave a network ready -/

/-- The network after a call at a host that is there is the one that its dispatcher leaves. -/
theorem called_found {host : String} {node : Node} (found : network.nodes.get? host = some node) :
    network.called host message =
      network.adoptStation host node ((network.station node).route message).state := by
  simp [called, found]

/-- No desk changes when a message is forwarded, neither that of the host nor any other. So a
network stays connected by a call, as that is a matter of desks and trees. -/
theorem called_desk {host : String} {node : Node} {queue : QueueId}
    (found : network.nodes.get? host = some node)
    (forwards : (network.station node).Forwards message queue
      ((network.station node).route message)) (name : String) :
    ((network.called host message).nodes.get? name).map (·.desk) =
      (network.nodes.get? name).map (·.desk) := by
  rw [called_found found, adoptStation]
  by_cases same : name = host
  · subst same
    have kept : ((network.station node).route message).state.desk = node.desk := forwards.desk
    simp [found, kept]
  · simp [same]

/-- Where the desks are the same, a node that is there now was there with its desk. -/
theorem found_earlier {later : Network} {name : String} {node : Node}
    (desks : ∀ name, (later.nodes.get? name).map (·.desk) =
      (network.nodes.get? name).map (·.desk)) (found : later.nodes.get? name = some node) :
    ∃ before, network.nodes.get? name = some before ∧ before.desk = node.desk := by
  have same := desks name
  rw [found, Option.map_some] at same
  exact Option.map_eq_some_iff.mp same.symm

/-- With the same desks the same queues lead to the same hosts, so a journey can be followed from
network to network. -/
theorem conveys_of_desks {later : Network} {queue : QueueId} {host : String}
    (desks : ∀ name, (later.nodes.get? name).map (·.desk) =
      (network.nodes.get? name).map (·.desk)) (conveys : later.Conveys tree queue host) :
    network.Conveys tree queue host := by
  cases conveys with
  | up connects found own =>
    obtain ⟨before, there, desk⟩ := found_earlier desks found
    exact .up connects there (desk ▸ own)
  | down connects found own =>
    obtain ⟨before, there, desk⟩ := found_earlier desks found
    exact .down connects there (desk ▸ own)

/-- After a call the network is as ready as before: all that has changed is one queue, which is
still open, and what was remembered and counted. -/
theorem called_ready (ready : network.Ready roster tree message)
    (routable : message.Routable tree) {host : String} (described : host ∈ tree.hosts) :
    (network.called host message).Ready roster tree message := by
  obtain ⟨node, queue, found, forwards, _⟩ := call_forwards ready routable described
  have desks := called_desk found forwards
  have connected := ready.connected
  refine ⟨⟨connected.accepted, ?_, ?_, ?_, ?_, ?_⟩, ?_⟩
  · intro name member
    obtain ⟨before, there, named, built⟩ := connected.staffed member
    rw [called_found found, adoptStation]
    by_cases same : name = host
    · subst same
      obtain rfl : node = before := Option.some.inj (found.symm.trans there)
      have kept := Station.built_after forwards.keeps named built
      have desk : ((network.station node).route message).state.desk = node.desk := forwards.desk
      refine ⟨{ node with desk := _, dispatcher := _ }, by simp; rfl, ?_, kept⟩
      rw [desk, named]
    · exact ⟨before, by simp [same, there], named, built⟩
  · intro client server later connects there
    obtain ⟨before, was, desk⟩ := found_earlier desks there
    exact desk ▸ connected.registered connects was
  · intro other
    rw [called_found found, adoptStation, forwards.queues, QueueStore.append_closed]
    exact connected.opened other
  · intro other first second leads leadsOther
    exact connected.separate (conveys_of_desks desks leads) (conveys_of_desks desks leadsOther)
  · intro name module next later other there runs leads
    obtain ⟨before, was, desk⟩ := found_earlier desks there
    exact connected.inner was (desk ▸ runs) (conveys_of_desks desks leads)
  · obtain ⟨before, other, was, runs⟩ := ready.runs
    have same := desks message.target.host
    rw [was, Option.map_some] at same
    obtain ⟨later, there, desk⟩ := Option.map_eq_some_iff.mp same
    exact ⟨later, other, there, desk ▸ runs⟩

/-- So are all networks of calls one after the other, by induction on the hosts that are called. -/
theorem stages_ready (ready : network.Ready roster tree message)
    (routable : message.Routable tree) (hosts : List String)
    (described : ∀ host ∈ hosts, host ∈ tree.hosts) :
    ∀ later ∈ network.stages message hosts, later.Ready roster tree message := by
  induction hosts generalizing network with
  | nil => simp [stages]
  | cons host rest inductionHypothesis =>
    have here := described host List.mem_cons_self
    intro later member
    rcases List.mem_cons.mp member with rfl | member
    · exact ready
    · exact inductionHypothesis (called_ready ready routable here)
        (fun other further => described other (List.mem_cons_of_mem _ further)) later member

/-- There is one network for each call. -/
theorem stages_length (network : Network) (message : Message) (hosts : List String) :
    (network.stages message hosts).length = hosts.length := by
  induction hosts generalizing network with
  | nil => rfl
  | cons host rest inductionHypothesis => simp [stages, inductionHypothesis]

/-- A message between two hosts of a ready network goes along their route: it does when
the hosts of the path are called one directly after the other, it does whatever else
happens between the calls, and it has no other way to go.

Proof: the path of the route is the list of waypoints, all of them described hosts. That the journey
exists is an induction over the networks of the calls: each host on the way forwards the message, by
the table that it was built with, to the one queue that leads to the next waypoint. That there is no
other is an induction over the journey, since a call puts a message on one queue and no queue leads
to two hosts. A call leaves the network ready, so calls one after the other are no exception. What
the queues hold besides the message is not restricted. -/
theorem delivery_follows_route (ready : network.Ready roster tree message)
    (routable : message.Routable tree) {source : String} (described : source ∈ tree.hosts)
    (apart : source ≠ message.target.host) :
    ∃ route, tree.routeBetween source message.target.host = .ok route ∧
      Journey tree message (network.stages message (source :: route.path)) source route.path ∧
      (∀ networks : List Network, (∀ later ∈ networks, later.Ready roster tree message) →
        networks.length = route.path.length + 1 →
          Journey tree message networks source route.path) ∧
      ∀ (networks : List Network) (trail : List String),
        (∀ later ∈ networks, later.Ready roster tree message) →
          Journey tree message networks source trail → trail = route.path := by
  have sound := RoutingTree.accepted_sound ready.connected.accepted
  obtain ⟨direction, hop, onward⟩ :=
    RoutingTree.onward_exists sound described routable.known apart
  have route := RoutingTree.route_of_onward sound described routable.known apart onward
  rw [← RoutingTree.waypoints_of_onward sound described routable.known apart onward] at route
  have along := RoutingTree.waypoints_described sound described routable.known
  have visited : ∀ host ∈ source :: tree.waypoints source message.target.host,
      host ∈ tree.hosts := by
    intro host member
    rcases List.mem_cons.mp member with rfl | member
    · exact described
    · exact along host member
  refine ⟨_, route, ?_, ?_, ?_⟩
  · refine journey_exists routable _ (stages_ready ready routable _ visited) described ?_
    rw [stages_length, List.length_cons]
  · exact fun networks later enough => journey_exists routable networks later described enough
  · exact fun networks trail later journey => journey_unique routable later described journey

/-! ## A server with two clients -/

/-- Build the table of a node, as if its dispatcher were called for it. -/
def buildAt (network : Network) (roster : Roster) (name : String) : Network :=
  match network.nodes.get? name with
  | none => network
  | some node => network.adoptStation name node ((network.station node).build roster).state

/-- Connect a client at its server, as a user without token. -/
def connectAt (network : Network) (server client : String) : Network :=
  match network.nodes.get? server with
  | none => network
  | some node =>
    let connected := node.desk.users.connect network.queues ⟨client, ""⟩ client
    (network.adoptQueues connected.state.2).adoptUsers server node connected.state.1

/-- Give a node a module with a runtime of its own, so that messages for the module can be delivered
there. -/
def hostAt (network : Network) (name module : String) : Network :=
  match network.nodes.get? name with
  | none => network
  | some node =>
    let board := (node.desk.board.register (.plain module "class" name)).state
    match board.registry.place module module network.queues with
    | .error _ => network
    | .ok (registry, queues) =>
      (network.adoptQueues queues).adoptBoard name node { board with registry := registry }

/-- A server with two clients, as a list of hosts. -/
def trio : Roster := ⟨[.root "S" "tcp://s:1", .client "A" "S", .client "B" "S"], by decide⟩

/-- The tree of these hosts, in which the way from one client to the other leads over the server. -/
def trioTree : RoutingTree := ⟨[⟨"S", none⟩, ⟨"A", some "S"⟩, ⟨"B", some "S"⟩], "S"⟩

/-- The server and its clients, with a module on the second one, all tables built and both clients
connected. -/
def trioNetwork : Network :=
  let added := ["S", "A", "B"].foldl (fun network name => (network.addNode name).state) empty
  let built := ["S", "A", "B"].foldl (buildAt · trio) added
  (["A", "B"].foldl (connectAt · "S") built).hostAt "B" "M"

/-- A message from the first client to the module on the second one. -/
def trioMessage : Message := ⟨"m", "", ⟨"A", "N"⟩, ⟨"B", "M"⟩, "", 0, .data .empty⟩

/-- The hosts of this tree are these three. -/
theorem trio_hosts {host : String} (described : host ∈ trioTree.hosts) :
    host = "S" ∨ host = "A" ∨ host = "B" := by
  have listed : host ∈ ["S", "A", "B"] := described
  simpa using listed

/-- The only server is the root, and its clients are the two others. -/
theorem trio_parent {client server : String} (connects : trioTree.parent? client = some server) :
    server = "S" ∧ (client = "A" ∨ client = "B") := by
  rcases trio_hosts (RoutingTree.described_of_parent connects) with rfl | rfl | rfl
  · cases connects
  · exact ⟨(Option.some.inj connects).symm, .inl rfl⟩
  · exact ⟨(Option.some.inj connects).symm, .inr rfl⟩

/-- Only the module on the second client has a runtime, which therefore has the queue of any module
that runs. -/
theorem trio_runs {host module : String} {node : Node} {queue : QueueId}
    (found : trioNetwork.nodes.get? host = some node)
    (runs : node.desk.board.registry.outputQueue? module = some queue) : queue = ⟨20⟩ := by
  have listed : queue ∈ node.desk.board.registry.runtimes.values :=
    Registry.output_queue_listed runs
  have described : host ∈ trioNetwork.nodes.keys :=
    List.mem_map.mpr ⟨_, SortedMap.mem_entries_iff.mpr found, rfl⟩
  have names : trioNetwork.nodes.keys = ["A", "B", "S"] := rfl
  simp only [names, List.mem_cons, List.not_mem_nil, or_false] at described
  rcases described with rfl | rfl | rfl
  · obtain rfl := Option.some.inj ((rfl : trioNetwork.nodes.get? "A" = some _).symm.trans found)
    exact absurd listed List.not_mem_nil
  · obtain rfl := Option.some.inj ((rfl : trioNetwork.nodes.get? "B" = some _).symm.trans found)
    exact List.mem_singleton.mp listed
  · obtain rfl := Option.some.inj ((rfl : trioNetwork.nodes.get? "S" = some _).symm.trans found)
    exact absurd listed List.not_mem_nil

/-- The four link queues and where they lead: two up to the server, and one down to each client. -/
theorem trio_conveys {queue : QueueId} {host : String}
    (leads : trioNetwork.Conveys trioTree queue host) :
    queue = ⟨10⟩ ∧ host = "S" ∨ queue = ⟨16⟩ ∧ host = "S" ∨ queue = ⟨18⟩ ∧ host = "A" ∨
      queue = ⟨19⟩ ∧ host = "B" := by
  cases leads with
  | @up client server node connects found own =>
    obtain ⟨rfl, rfl | rfl⟩ := trio_parent connects
    · have queueId : (trioNetwork.nodes.get? "A").map (·.desk.uplink.toServer) = some ⟨10⟩ := rfl
      rw [found, Option.map_some, own] at queueId
      exact .inl ⟨Option.some.inj queueId, rfl⟩
    · have queueId : (trioNetwork.nodes.get? "B").map (·.desk.uplink.toServer) = some ⟨16⟩ := rfl
      rw [found, Option.map_some, own] at queueId
      exact .inr (.inl ⟨Option.some.inj queueId, rfl⟩)
  | @down client server node connects found own =>
    obtain ⟨rfl, rfl | rfl⟩ := trio_parent connects
    · have queueId : (trioNetwork.nodes.get? "S").map (·.desk.users.queueOf ⟨"A", ""⟩) =
          some (.ok ⟨18⟩) := rfl
      rw [found, Option.map_some, own] at queueId
      exact .inr (.inr (.inl ⟨Except.ok.inj (Option.some.inj queueId), rfl⟩))
    · have queueId : (trioNetwork.nodes.get? "S").map (·.desk.users.queueOf ⟨"B", ""⟩) =
          some (.ok ⟨19⟩) := rfl
      rw [found, Option.map_some, own] at queueId
      exact .inr (.inr (.inr ⟨Except.ok.inj (Option.some.inj queueId), rfl⟩))

/-- All that delivery asks of a network holds of this one, as can be computed. Who is connected to
whom is gone through by the three hosts, and queues by their numbers. -/
theorem trio_ready : trioNetwork.Ready trio trioTree trioMessage := by
  have accepted : RoutingTree.ofHosts trio.hosts = .ok trioTree := rfl
  refine ⟨⟨accepted, ?_, ?_, ?_, ?_, ?_⟩, ⟨_, ⟨20⟩, rfl, rfl⟩⟩
  · intro host described
    rcases trio_hosts described with rfl | rfl | rfl
    · exact ⟨_, rfl, rfl, Station.built_of_table accepted described rfl rfl rfl rfl⟩
    · exact ⟨_, rfl, rfl, Station.built_of_table accepted described rfl rfl rfl rfl⟩
    · exact ⟨_, rfl, rfl, Station.built_of_table accepted described rfl rfl rfl rfl⟩
  · intro client server node connects found
    obtain ⟨rfl, rfl | rfl⟩ := trio_parent connects
    · obtain rfl := Option.some.inj ((rfl : trioNetwork.nodes.get? "S" = some _).symm.trans found)
      exact ⟨rfl, ⟨18⟩, rfl⟩
    · obtain rfl := Option.some.inj ((rfl : trioNetwork.nodes.get? "S" = some _).symm.trans found)
      exact ⟨rfl, ⟨19⟩, rfl⟩
  · exact QueueStore.read_all (·.closed = false) rfl (by decide +kernel)
  · intro queue first second leads leadsOther
    have one := trio_conveys leads
    have other := trio_conveys leadsOther
    rcases one with ⟨rfl, rfl⟩ | ⟨rfl, rfl⟩ | ⟨rfl, rfl⟩ | ⟨rfl, rfl⟩ <;>
      exact Eq.symm (by simpa using other)
  · intro host module next node queue found runs leads
    obtain rfl := trio_runs found runs
    have known := trio_conveys leads
    simp at known

/-- The message can be routed in this tree, from one client to a module on the other. -/
theorem trio_routable : trioMessage.Routable trioTree := ⟨rfl, rfl, by decide, by decide⟩

/-- From one client to the other a message goes over the server, as the theorem says for this
network. -/
theorem trio_delivery :
    trioNetwork.Ready trio trioTree trioMessage ∧ trioMessage.Routable trioTree ∧
      "A" ∈ trioTree.hosts ∧ "A" ≠ trioMessage.target.host ∧
      Journey trioTree trioMessage (trioNetwork.stages trioMessage ["A", "S", "B"]) "A"
        ["S", "B"] := by
  have described : "A" ∈ trioTree.hosts := by decide
  have apart : "A" ≠ trioMessage.target.host := by decide
  obtain ⟨route, found, journey, _⟩ :=
    delivery_follows_route trio_ready trio_routable described apart
  have path : trioTree.routeBetween "A" trioMessage.target.host = .ok ⟨["S", "B"], .up⟩ := rfl
  obtain rfl : route = ⟨["S", "B"], .up⟩ := Except.ok.inj (found.symm.trans path)
  exact ⟨trio_ready, trio_routable, described, apart, journey⟩

end Network

end RelayTree
