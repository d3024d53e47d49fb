import Mathlib.Data.List.Nodup
import RelayTree.Proofs.Network.Delivery
import RelayTree.Proofs.Network.Traffic

/-!
# Delivery exactly once and in order

After every history each message that was handed over is in one place, once: at a host
of its route, or in the queue of the runtime that it is for. Nothing is dropped, and
of two messages that were handed over at one host for the same host the earlier one
stays in front. Messages may look alike, so that the numbers under which they were
handed over stand for them.
-/

namespace RelayTree.Layout

/-- The host that a part belongs to. What carries messages down to a client belongs to its
server, and the queue of a runtime is a place of its own. -/
inductive Belongs (layout : Layout) : Berth → String → Prop where
  | source {host : String} {index : Nat} : Belongs layout (.source host index) host
  | gathering {host : String} {index : Nat} : Belongs layout (.gathering host index) host
  | inbound {host : String} : Belongs layout (.inbound host) host
  | dispatching {host : String} : Belongs layout (.dispatching host) host
  | toServer {client : String} : Belongs layout (.toServer client) client
  | climbing {client : String} : Belongs layout (.climbing client) client
  | toClient {client server : String} (connects : layout.tree.parent? client = some server) :
      Belongs layout (.toClient client) server
  | descending {client server : String} (connects : layout.tree.parent? client = some server) :
      Belongs layout (.descending client) server

/-- The spot is at the host where the message was handed over or at one of its route. -/
def UnderWay (layout : Layout) (injection : Injection) (spot : Spot) : Prop :=
  ∃ route, layout.tree.routeBetween injection.source injection.message.target.host = .ok route ∧
    ∃ host ∈ injection.source :: route.path, ∃ berth,
      layout.Valid berth ∧ layout.Belongs berth host ∧ layout.spot berth = spot

/-- The spot is the queue of the runtime in which the target module runs. That is where a message
comes to rest, as runtimes take from their queues and not the network. -/
def Delivered (layout : Layout) (message : Message) (spot : Spot) : Prop :=
  ∃ queue, (layout.desk message.target.host).board.registry.outputQueue?
    message.target.module = some queue ∧ spot = .queue queue

/-- The first of two messages has not been overtaken: at one spot it stands before the
second, if the second was delivered so was the first, and wherever they are the first
has no more moves before it. -/
structure InOrder (layout : Layout) (ledger : Spot → List Nat) (first second : Nat)
    (one other : Message) : Prop where
  queued : ∀ spot, first ∈ ledger spot → second ∈ ledger spot →
    [first, second].Sublist (ledger spot)
  delivered : ∀ spot, second ∈ ledger spot → layout.Delivered other spot →
    ∃ spot, first ∈ ledger spot ∧ layout.Delivered one spot
  ahead : ∀ {front back : Berth}, layout.Valid front → layout.Valid back →
    first ∈ ledger (layout.spot front) → second ∈ ledger (layout.spot back) →
      layout.rank one.target.host front ≤ layout.rank one.target.host back

/-- The ledger tells where each message of the log is. It lists for each spot what is
there, in order; every message is at exactly one spot, once, on its route or delivered;
and messages of one host for one host are in order. -/
structure Settles (layout : Layout) (network : Network) (log : List Injection)
    (ledger : Spot → List Nat) : Prop where
  matched : ∀ spot, (ledger spot).map (fun number => log[number]?.map (·.message)) =
    (network.holds spot).map some
  placed : ∀ number < log.length, ∃! spot, number ∈ ledger spot
  once : ∀ spot, (ledger spot).Nodup
  onRoute : ∀ {number : Nat} {injection : Injection} {spot : Spot},
    log[number]? = some injection → number ∈ ledger spot →
      layout.UnderWay injection spot ∨ layout.Delivered injection.message spot
  inOrder : ∀ {first second : Nat} {one other : Injection}, first < second →
    log[first]? = some one → log[second]? = some other → one.source = other.source →
      one.message.target.host = other.message.target.host →
        layout.InOrder ledger first second one.message other.message

open Classical in
/-- A ledger of the parts, read at the spots that play them. A spot that plays no part has no
entry. -/
noncomputable def posted (layout : Layout) (ledger : Berth → List Nat) (spot : Spot) : List Nat :=
  if part : ∃ berth, layout.Valid berth ∧ layout.spot berth = spot then ledger part.choose else []

variable {layout : Layout} {network : Network} {log : List Injection} {injection : Injection}
  {berth : Berth} {spot : Spot} {ledger : Berth → List Nat}

/-! ## Places of the ledger -/

/-- At the spot of a part stands what the ledger has for the part. -/
theorem posted_spot (wired : layout.Wired) (valid : layout.Valid berth) :
    layout.posted ledger (layout.spot berth) = ledger berth := by
  have part : ∃ other, layout.Valid other ∧ layout.spot other = layout.spot berth :=
    ⟨berth, valid, rfl⟩
  have same : part.choose = berth :=
    wired.separate part.choose_spec.1 valid part.choose_spec.2
  rw [posted, dif_pos part, same]

/-- A number in the ledger stands at a part that there is, since at any other nothing is held. -/
theorem ledger_valid {sound : layout.tree.Sound}
    (accounts : (layout.course sound).Accounts (layout.cargo network) log ledger) {number : Nat}
    (member : number ∈ ledger berth) : layout.Valid berth := by
  by_contra invalid
  have empty := accounts.matched berth
  rw [cargo_invalid invalid, List.map_nil, List.map_eq_nil_iff] at empty
  rw [empty] at member
  cases member

/-- A number stands at a spot if it stands at the part that the spot plays. As no two parts share a
spot, the choice of a part in the definition makes no difference. -/
theorem mem_posted (wired : layout.Wired) {number : Nat} :
    number ∈ layout.posted ledger spot ↔
      ∃ berth, layout.Valid berth ∧ layout.spot berth = spot ∧ number ∈ ledger berth := by
  constructor
  · intro member
    by_cases part : ∃ berth, layout.Valid berth ∧ layout.spot berth = spot
    · obtain ⟨berth, valid, rfl⟩ := part
      rw [posted_spot wired valid] at member
      exact ⟨berth, valid, rfl, member⟩
    · rw [posted, dif_neg part] at member
      cases member
  · rintro ⟨berth, valid, rfl, member⟩
    rw [posted_spot wired valid]
    exact member

/-- The way of a message is its route, after where it was handed over. If it was handed over where
it is to go, the route is that host alone. -/
theorem way_of_route (sound : layout.tree.Sound) (allowed : layout.Allows (.enter injection)) :
    ∃ route, layout.tree.routeBetween injection.source injection.message.target.host = .ok route ∧
      ∀ host ∈ layout.way injection, host ∈ injection.source :: route.path := by
  obtain ⟨described, deliverable⟩ := allowed
  have known := deliverable.routable.known
  by_cases arrived : injection.source = injection.message.target.host
  · refine ⟨⟨[injection.message.target.host], .here⟩, ?_, ?_⟩
    · simp [RoutingTree.routeBetween, RoutingTree.contains, arrived, known]
    · intro host member
      rw [way, ← arrived, RoutingTree.waypoints_self] at member
      exact List.mem_cons.mpr (.inl (List.mem_singleton.mp member))
  · obtain ⟨direction, hop, onward⟩ :=
      RoutingTree.onward_exists sound described known arrived
    have route := RoutingTree.route_of_onward sound described known arrived onward
    refine ⟨_, route, fun host member => ?_⟩
    rwa [way, RoutingTree.waypoints_of_onward sound described known arrived onward] at member

/-- A part on the way of a message is at a host of its route, or it is where the message
is delivered. -/
theorem on_way_placed (sound : layout.tree.Sound) (allowed : layout.Allows (.enter injection))
    (valid : layout.Valid berth) (near : layout.OnWay injection berth) :
    layout.UnderWay injection (layout.spot berth) ∨
      layout.Delivered injection.message (layout.spot berth) := by
  obtain ⟨route, found, along⟩ := way_of_route sound allowed
  have under : ∀ {host : String}, host ∈ layout.way injection → layout.Belongs berth host →
      layout.UnderWay injection (layout.spot berth) := fun member belongs =>
    ⟨route, found, _, along _ member, berth, valid, belongs, rfl⟩
  cases berth with
  | source => exact .inl (under near .source)
  | gathering => exact .inl (under near .gathering)
  | inbound => exact .inl (under near .inbound)
  | dispatching => exact .inl (under near .dispatching)
  | toServer => exact .inl (under near.1 .toServer)
  | climbing => exact .inl (under near.1 .climbing)
  | toClient =>
    obtain ⟨server, connects⟩ := valid
    exact .inl (under (near.2 connects) (.toClient connects))
  | descending =>
    obtain ⟨server, connects⟩ := valid
    exact .inl (under (near.2 connects) (.descending connects))
  | runtime queue => exact .inr ⟨queue, near, rfl⟩

/-- Only at the queue of a runtime a message has no move before it. -/
theorem rank_zero {target : String} (last : layout.rank target berth = 0) :
    ∃ queue, berth = .runtime queue := by
  cases berth with
  | runtime queue => exact ⟨queue, rfl⟩
  | source | gathering | inbound | dispatching | toServer | climbing | toClient | descending =>
    simp [rank] at last

/-! ## Where the messages are -/

/-- What the ledger of the parts says in order is in order at the spots. That a message does not get
to its runtime before an earlier one is read off the ranks: nothing is behind the last part, so the
earlier message is there as well. -/
theorem tracked_in_order (wired : layout.Wired) {sound : layout.tree.Sound}
    (tracked : layout.Tracked sound network log ledger)
    {first second : Nat} {one other : Injection} (less : first < second)
    (foundOne : log[first]? = some one) (foundOther : log[second]? = some other)
    (from_ : one.source = other.source)
    (to_ : one.message.target.host = other.message.target.host) :
    layout.InOrder (layout.posted ledger) first second one.message other.message := by
  have accounts := tracked.accounts
  have ordered : ∀ {ahead behind : Berth}, first ∈ ledger ahead → second ∈ ledger behind →
      layout.rank one.message.target.host ahead ≤ layout.rank one.message.target.host behind ∧
        (ahead = behind → [first, second].Sublist (ledger ahead)) :=
    accounts.ordered less foundOne foundOther from_ to_
  have allowed : ∀ {number : Nat} {injection : Injection}, log[number]? = some injection →
      layout.Allows (.enter injection) := fun found =>
    tracked.allowed _ (List.mem_of_getElem? found)
  constructor
  · intro spot memberOne memberOther
    obtain ⟨front, valid, rfl, here⟩ := (mem_posted wired).mp memberOne
    obtain ⟨back, validBack, same, there⟩ := (mem_posted wired).mp memberOther
    obtain rfl := wired.separate validBack valid same
    rw [posted_spot wired valid]
    exact (ordered here there).2 rfl
  · rintro spot memberOther ⟨queue, runs, rfl⟩
    obtain ⟨back, validBack, same, there⟩ := (mem_posted wired).mp memberOther
    have known := (allowed foundOther).2.routable.known
    have last : layout.Valid (.runtime queue) := ⟨_, known, _, runs⟩
    obtain rfl := wired.separate validBack last same
    obtain ⟨front, here⟩ := accounts.present first (List.getElem?_eq_some_iff.mp foundOne).1
    have bound : layout.rank one.message.target.host front ≤ 0 := (ordered here there).1
    obtain ⟨own, rfl⟩ := rank_zero (Nat.le_zero.mp bound)
    have runsOne : layout.OnWay one (.runtime own) :=
      visits_on_way sound (allowed foundOne).1 (accounts.visited foundOne here)
    exact ⟨.queue own,
      (mem_posted wired).mpr ⟨.runtime own, ledger_valid accounts here, rfl, here⟩,
      own, runsOne, rfl⟩
  · intro front back valid validBack memberOne memberOther
    rw [posted_spot wired valid] at memberOne
    rw [posted_spot wired validBack] at memberOther
    exact (ordered memberOne memberOther).1

/-- The ledger of a tracked network, read at the spots, tells where each message is. A spot that
plays no part holds nothing, as everything in a tracked network is at some part. -/
theorem tracked_settles (wired : layout.Wired) {sound : layout.tree.Sound}
    (tracked : layout.Tracked sound network log ledger) :
    layout.Settles network log (layout.posted ledger) := by
  have accounts := tracked.accounts
  refine ⟨?_, ?_, ?_, ?_, tracked_in_order wired tracked⟩
  · intro spot
    by_cases part : ∃ berth, layout.Valid berth ∧ layout.spot berth = spot
    · obtain ⟨berth, valid, rfl⟩ := part
      rw [posted_spot wired valid, accounts.matched, cargo_valid valid]
    · have empty : network.holds spot = [] := List.eq_nil_iff_forall_not_mem.mpr
        fun message member => part (tracked.loaded.berthed member)
      rw [posted, dif_neg part, empty]
      rfl
  · intro number below
    obtain ⟨berth, member⟩ := accounts.present number below
    refine ⟨layout.spot berth, (mem_posted wired).mpr
      ⟨berth, ledger_valid accounts member, rfl, member⟩, ?_⟩
    intro spot there
    obtain ⟨other, _, rfl, also⟩ := (mem_posted wired).mp there
    rw [accounts.alone member also]
  · intro spot
    by_cases part : ∃ berth, layout.Valid berth ∧ layout.spot berth = spot
    · obtain ⟨berth, valid, rfl⟩ := part
      rw [posted_spot wired valid]
      exact accounts.once berth
    · rw [posted, dif_neg part]
      exact List.nodup_nil
  · intro number injection spot found member
    obtain ⟨berth, valid, rfl, here⟩ := (mem_posted wired).mp member
    have allowed := tracked.allowed injection (List.mem_of_getElem? found)
    exact on_way_placed sound allowed valid
      (visits_on_way sound allowed.1 (accounts.visited found here))

/-! ## The ledgers of a history -/

/-- Writing a number down at a part writes it down at its spot. At another spot nothing changes,
because two parts are never at one spot. -/
theorem posted_written (wired : layout.Wired) (valid : layout.Valid berth) (number : Nat) :
    layout.posted (Course.written ledger number berth) =
      Course.written (layout.posted ledger) number (layout.spot berth) := by
  funext spot
  by_cases part : ∃ other, layout.Valid other ∧ layout.spot other = spot
  · obtain ⟨other, there, rfl⟩ := part
    rw [posted_spot wired there, Course.written, Course.written, posted_spot wired valid,
      posted_spot wired there]
    by_cases same : other = berth
    · rw [if_pos same, if_pos (congrArg layout.spot same)]
    · rw [if_neg same, if_neg fun here => same (wired.separate there valid here)]
  · have elsewhere : spot ≠ layout.spot berth := fun same => part ⟨berth, valid, same.symm⟩
    rw [Course.written, if_neg elsewhere, posted, posted, dif_neg part, dif_neg part]

/-- Moving a number between parts moves it between their spots. No two parts share a spot, so
nothing else is moved by it. -/
theorem posted_moved (wired : layout.Wired) {next : Berth} (valid : layout.Valid berth)
    (onward : layout.Valid next) (number : Nat) :
    layout.posted (Course.moved ledger number berth next) =
      Course.moved (layout.posted ledger) number (layout.spot berth) (layout.spot next) := by
  funext spot
  by_cases part : ∃ other, layout.Valid other ∧ layout.spot other = spot
  · obtain ⟨other, there, rfl⟩ := part
    rw [posted_spot wired there, Course.moved, Course.moved, posted_spot wired valid,
      posted_spot wired onward, posted_spot wired there]
    by_cases leaves : other = berth
    · rw [if_pos leaves, if_pos (congrArg layout.spot leaves)]
    · rw [if_neg leaves, if_neg fun here => leaves (wired.separate there valid here)]
      by_cases arrives : other = next
      · rw [if_pos arrives, if_pos (congrArg layout.spot arrives)]
      · rw [if_neg arrives, if_neg fun here => arrives (wired.separate there onward here)]
  · have notHere : spot ≠ layout.spot berth := fun same => part ⟨berth, valid, same.symm⟩
    have notThere : spot ≠ layout.spot next := fun same => part ⟨next, onward, same.symm⟩
    rw [Course.moved, if_neg notHere, if_neg notThere, posted, posted, dif_neg part, dif_neg part]

/-- If the ledger of the parts goes on, so does the one of the spots. The kind of step is the same,
and so are the message and the two ends of its move. -/
theorem posted_continues (wired : layout.Wired) {happening : Happening}
    (allowed : layout.Allows happening) {later : Berth → List Nat}
    (continues : layout.Continues id log ledger happening later) :
    layout.Continues layout.spot log (layout.posted ledger) happening (layout.posted later) := by
  have sound := RoutingTree.accepted_sound wired.accepted
  cases continues with
  | enters injection =>
    have valid : layout.Valid (.source injection.source 0) := ⟨allowed.1, by decide⟩
    rw [id, posted_written wired valid]
    exact .enters injection
  | waits worker => exact .waits worker
  | moves worker heads onward =>
    obtain ⟨valid, there⟩ := moves_valid sound onward
    rw [id, id, posted_moved wired valid there]
    exact .moves worker ⟨(posted_spot wired valid).trans heads.stands, heads.entered⟩ onward

/-- In a network in operation that was idle at first, whatever modules hand over and
however the workers take turns: at every moment nothing has been dropped, and every
message is in one place on its route or was delivered once, in order. From moment to
moment only a message at the head of its place moves.

Proof: `tracked_run` keeps a ledger of the parts of the layout, by induction on the history. A
happening writes a new number down at a source, or it moves the number at the head of one part to
the next one, or it does neither. As no two parts share a spot, the ledger can be read at the spots.
The rank of a part falls with each move, and so the earlier of two messages on one way is never
behind the later one. Equal messages are no exception, since the ledger is about numbers. How the
workers take turns is not restricted. -/
theorem delivered_exactly_once (wired : layout.Wired) (operating : layout.Operating network)
    (idle : ∀ spot, network.holds spot = []) {history : List Happening}
    (allowed : ∀ happening ∈ history, layout.Allows happening) :
    ∃ ledgers : Nat → Spot → List Nat, ∀ count ≤ history.length,
      (network.run (history.take count)).drops = network.drops ∧
      layout.Settles (network.run (history.take count)) (entered (history.take count))
        (ledgers count) ∧
      ∀ happening ∈ history[count]?, layout.Continues layout.spot (entered (history.take count))
        (ledgers count) happening (ledgers (count + 1)) := by
  have sound := RoutingTree.accepted_sound wired.accepted
  obtain ⟨ledgers, _, moments⟩ := tracked_run wired (tracked_idle sound operating idle) allowed
  refine ⟨fun count => layout.posted (ledgers count), fun count bounded => ?_⟩
  obtain ⟨drops, tracked, continues⟩ := moments count bounded
  rw [List.nil_append] at tracked continues
  refine ⟨drops, tracked_settles wired tracked, fun happening here => ?_⟩
  exact posted_continues wired (allowed happening (List.mem_of_getElem? here))
    (continues happening here)

/-! ## A server with two clients, at work -/

/-- The layout of a network, with names for the forwarders of its links. -/
def survey (network : Network) (roster : Roster) (tree : RoutingTree) : Layout where
  roster := roster
  tree := tree
  desk := fun host =>
    ((network.nodes.get? host).map (·.desk)).getD (Desk.create host .empty).1
  inbound := fun host => ((network.nodes.get? host).map (·.dispatcher.inbound)).getD default
  toClient := fun client =>
    (((tree.parent? client).bind network.nodes.get?).bind fun node =>
      (node.desk.users.queueOf ⟨client, ""⟩).toOption).getD default
  upward := (· ++ " up")
  downward := (· ++ " down")

end RelayTree.Layout

namespace RelayTree.Network

/-- Start the dispatcher of a node, as if it were called for that. -/
def startAt (network : Network) (name : String) : Network :=
  match network.nodes.get? name with
  | none => network
  | some node => network.adoptStation name node (network.station node).start.state

/-- Start a forwarder under a name, between two queues of the network. -/
def forwardAt (network : Network) (name : String) (input output : QueueId) : Network :=
  match (Forwarder.between input output).start with
  | .ok forwarder => network.setForwarder name forwarder network.queues
  | .error _ => network

/-- Start the two forwarders of a link, one for each direction. -/
def linkAt (network : Network) (layout : Layout) (server client : String) : Network :=
  let climbing := network.forwardAt (layout.upward client) (layout.desk client).uplink.toServer
    (layout.desk server).users.fromClients
  climbing.forwardAt (layout.downward client) (layout.toClient client)
    (layout.desk client).uplink.fromServer

/-- The layout of the network, read off its desks. -/
def trioLayout : Layout := .survey trioNetwork trio trioTree

/-- The server and its clients with everything at work: dispatchers, and a forwarder for each
direction of each link. -/
def trioAtWork : Network :=
  ["A", "B"].foldl (linkAt · trioLayout "S") (["S", "A", "B"].foldl startAt trioNetwork)

/-- All parts of this network, as a list that can be gone through. -/
def trioBerths : List Berth :=
  ["S", "A", "B"].flatMap (fun host =>
      [.source host 0, .source host 1, .source host 2, .gathering host 0, .gathering host 1,
        .gathering host 2, .inbound host, .dispatching host]) ++
    ["A", "B"].flatMap (fun client =>
      [.toServer client, .climbing client, .toClient client, .descending client]) ++
    [.runtime ⟨20⟩]

/-- Every part is on the list, whichever kind of part it is. -/
theorem trio_berths {berth : Berth} (valid : trioLayout.Valid berth) : berth ∈ trioBerths := by
  have few : ∀ {index : Nat}, index < 3 → index = 0 ∨ index = 1 ∨ index = 2 := by omega
  cases berth with
  | source host index | gathering host index =>
    rcases trio_hosts valid.1 with rfl | rfl | rfl <;>
      rcases few valid.2 with rfl | rfl | rfl <;> decide
  | inbound host | dispatching host =>
    rcases trio_hosts valid with rfl | rfl | rfl <;> decide
  | toServer client | climbing client | toClient client | descending client =>
    obtain ⟨server, connects⟩ := valid
    rcases (trio_parent connects).2 with rfl | rfl <;> decide
  | runtime queue =>
    obtain ⟨host, described, module, runs⟩ := valid
    obtain ⟨node, found⟩ : ∃ node, trioNetwork.nodes.get? host = some node := by
      rcases trio_hosts described with rfl | rfl | rfl <;> exact ⟨_, rfl⟩
    have desk : trioLayout.desk host = node.desk := by simp [trioLayout, Layout.survey, found]
    obtain rfl := trio_runs found (desk ▸ runs)
    decide

/-- The layout is wired as the theorem asks, which is computed part by part from the desks of the
network. -/
theorem trio_wired : trioLayout.Wired := by
  refine ⟨rfl, ?_, ?_, ?_⟩
  · intro host described
    rcases trio_hosts described with rfl | rfl | rfl <;> rfl
  · intro client server connects
    obtain ⟨rfl, rfl | rfl⟩ := trio_parent connects <;> exact ⟨rfl, rfl⟩
  · intro one other valid also same
    have apart : (trioBerths.map trioLayout.spot).Nodup := by decide +kernel
    exact List.inj_on_of_nodup_map apart (trio_berths valid) (trio_berths also) same

/-- The network is in operation: everything is built, open and started. The four forwarders are
listed, and which link each of them serves is read off its queues. -/
theorem trio_operating : trioLayout.Operating trioAtWork := by
  have accepted : RoutingTree.ofHosts trio.hosts = .ok trioTree := rfl
  have names : trioAtWork.nodes.keys = ["A", "B", "S"] := rfl
  have links : trioAtWork.forwarders.entries =
      [("A down", ⟨⟨18⟩, ⟨9⟩, true, .ready⟩), ("A up", ⟨⟨10⟩, ⟨2⟩, true, .ready⟩),
        ("B down", ⟨⟨19⟩, ⟨15⟩, true, .ready⟩), ("B up", ⟨⟨16⟩, ⟨2⟩, true, .ready⟩)] := by
    decide +kernel
  refine ⟨?_, ?_, ?_, fun _ => rfl, QueueStore.read_all (·.closed = false) rfl (by decide +kernel)⟩
  · intro host described
    rcases trio_hosts described with rfl | rfl | rfl <;>
      refine ⟨_, _, rfl, rfl, Station.built_of_table accepted described rfl rfl rfl rfl, rfl, rfl,
        rfl, ?_, nofun⟩ <;>
      · intro index forwarder present
        rcases index with _ | _ | _ | index
        · exact Option.some.inj present ▸ ⟨rfl, rfl, rfl, nofun, nofun⟩
        · exact Option.some.inj present ▸ ⟨rfl, rfl, rfl, nofun, nofun⟩
        · exact Option.some.inj present ▸ ⟨rfl, rfl, rfl, nofun, nofun⟩
        · cases present
  · intro name node found
    have member : name ∈ trioAtWork.nodes.keys :=
      List.mem_map.mpr ⟨_, SortedMap.mem_entries_iff.mpr found, rfl⟩
    rw [names] at member
    exact (show ∀ name ∈ ["A", "B", "S"], name ∈ trioTree.hosts by decide) name member
  · intro name forwarder found
    have member := SortedMap.mem_entries_iff.mpr found
    simp only [links, List.mem_cons, List.not_mem_nil, or_false, Prod.mk.injEq] at member
    rcases member with ⟨rfl, rfl⟩ | ⟨rfl, rfl⟩ | ⟨rfl, rfl⟩ | ⟨rfl, rfl⟩
    · exact ⟨"A", "S", rfl, .inr ⟨rfl, rfl, rfl, rfl, nofun, nofun⟩⟩
    · exact ⟨"A", "S", rfl, .inl ⟨rfl, rfl, rfl, rfl, nofun, nofun⟩⟩
    · exact ⟨"B", "S", rfl, .inr ⟨rfl, rfl, rfl, rfl, nofun, nofun⟩⟩
    · exact ⟨"B", "S", rfl, .inl ⟨rfl, rfl, rfl, rfl, nofun, nofun⟩⟩

/-- At the beginning nothing is held at any spot, which is checked for all queues and all
workers. -/
theorem trio_idle (spot : Spot) : trioAtWork.holds spot = [] := by
  cases spot with
  | queue id => exact QueueStore.read_all (·.items = []) rfl (by decide +kernel) id
  | hand worker =>
    cases worker with
    | forwarder name =>
      cases found : trioAtWork.forwarders.get? name with
      | none => simp [holds, hand, found]
      | some forwarder =>
        have member : forwarder ∈ trioAtWork.forwarders.values :=
          List.mem_map.mpr ⟨_, SortedMap.mem_entries_iff.mpr found, rfl⟩
        have free : ∀ forwarder ∈ trioAtWork.forwarders.values, forwarder.stage.held = [] := by
          decide +kernel
        simpa [holds, hand, found] using free forwarder member
    | merging => rfl
    | gathering name index =>
      cases found : trioAtWork.nodes.get? name with
      | none => simp [holds, hand, found]
      | some node =>
        rcases trio_hosts (trio_operating.manned found) with rfl | rfl | rfl <;>
          rcases index with _ | _ | _ | index <;> rfl
    | dispatching name =>
      cases found : trioAtWork.nodes.get? name with
      | none => simp [holds, hand, found]
      | some node =>
        rcases trio_hosts (trio_operating.manned found) with rfl | rfl | rfl <;> rfl

/-- The turns in which a message gets from the first client to the second one. -/
def trioTurns : List Worker :=
  List.replicate 3 (.gathering "A" 0) ++ List.replicate 2 (.dispatching "A") ++
    List.replicate 3 (.forwarder "A up") ++ List.replicate 3 (.gathering "S" 1) ++
    List.replicate 2 (.dispatching "S") ++ List.replicate 3 (.forwarder "B down") ++
    List.replicate 3 (.gathering "B" 2) ++ List.replicate 2 (.dispatching "B")

/-- One message is handed over, and then the workers have the turns that carry it to its module. -/
def trioHistory : List Happening := .enter ⟨"A", trioMessage⟩ :: trioTurns.map .work

/-- With enough turns the message is delivered, exactly once, and nothing is dropped on the way. -/
theorem trio_delivers_once :
    trioLayout.Wired ∧ trioLayout.Operating trioAtWork ∧ (∀ spot, trioAtWork.holds spot = []) ∧
      (∀ happening ∈ trioHistory, trioLayout.Allows happening) ∧
      (trioAtWork.run trioHistory).holds (.queue ⟨20⟩) = [trioMessage] ∧
      (trioAtWork.run trioHistory).drops = trioAtWork.drops ∧
      ∃ ledger, trioLayout.Settles (trioAtWork.run trioHistory) [⟨"A", trioMessage⟩] ledger := by
  have allowed : ∀ happening ∈ trioHistory, trioLayout.Allows happening := by
    intro happening member
    rcases List.mem_cons.mp member with rfl | turn
    · exact ⟨by decide, trio_routable, ⟨20⟩, rfl⟩
    · obtain ⟨worker, _, rfl⟩ := List.mem_map.mp turn
      trivial
  have arrived : (trioAtWork.run trioHistory).holds (.queue ⟨20⟩) = [trioMessage] := by
    decide +kernel
  obtain ⟨ledgers, moments⟩ :=
    Layout.delivered_exactly_once trio_wired trio_operating trio_idle allowed
  obtain ⟨drops, settles, _⟩ := moments trioHistory.length (Nat.le_refl _)
  rw [List.take_length] at drops settles
  exact ⟨trio_wired, trio_operating, trio_idle, allowed, arrived, drops, _, settles⟩

end RelayTree.Network
