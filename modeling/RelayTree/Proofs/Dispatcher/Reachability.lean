import RelayTree.Proofs.Dispatcher.Hop
import RelayTree.Proofs.Tree.WellFormed

/-!
# Reachable hosts

Which way a host lies is computed four times over: by a walk over the children for the
table, by the chain of ancestors where a part of the tree is asked whether it contains a
host, by the route for the strategy that leads up, and by the remembered route for the one
that leads down. `Agrees` says that for every name all four give the same answer. So the
table never picks a strategy that then refuses a message because it does not lead to the
target.

Names that no host has are covered as well: they have no strategy, and none reaches them.
-/

namespace RelayTree

namespace RoutingTree

/-- The route from one host to another starts in a direction, whatever path it takes. For a host
that is not described there is no route, and then no direction either. -/
def Leads (tree : RoutingTree) (source : String) (direction : Direction) (target : String) :
    Prop :=
  ∃ path, tree.routeBetween source target = .ok ⟨path, direction⟩

variable {tree : RoutingTree} {source target : String} {direction : Direction}

/-- Each direction has a strategy of its own, so the strategy tells the direction. -/
theorem strategy_injective {first second : Direction}
    (same : strategyFor first = strategyFor second) : first = second := by
  cases first <;> cases second <;> first | rfl | cases same

/-- Routes lead to hosts only, since one to a name that no host has is refused. -/
theorem leads_described (leads : tree.Leads source direction target) : target ∈ tree.hosts := by
  obtain ⟨path, route⟩ := leads
  by_contra unknown
  have refused : tree.contains target = false := by simpa [contains] using unknown
  rw [routeBetween, refused] at route
  cases known : tree.contains source <;> simp [known] at route

/-- Each strategy has a direction, so nothing is left out when directions are gone through. -/
theorem strategy_surjective (strategy : Strategy) :
    ∃ direction, strategyFor direction = strategy := by
  cases strategy with
  | onHost => exact ⟨.here, rfl⟩
  | upward => exact ⟨.up, rfl⟩
  | downward => exact ⟨.down, rfl⟩

variable (sound : tree.Sound) (present : source ∈ tree.hosts)

include sound present

/-- The class of a host says where the route to it starts, and other hosts are none. No two
directions have the same class, so a class leads back to one direction. -/
theorem leads_iff_classified :
    tree.Leads source direction target ↔ target ∈ tree.hosts ∧
      classify source (tree.descendants source) target = strategyFor direction := by
  constructor
  · intro leads
    have other := leads_described leads
    obtain ⟨path, route⟩ := leads
    obtain ⟨found, same, classified⟩ := classify_direction sound present other
    cases route.symm.trans same
    exact ⟨other, classified⟩
  · rintro ⟨other, classified⟩
    obtain ⟨⟨path, way⟩, route, same⟩ := classify_direction sound present other
    obtain rfl : way = direction := strategy_injective (same.symm.trans classified)
    exact ⟨path, route⟩

/-- The only route that leads nowhere is the one of a host to itself. -/
theorem leads_here_iff : tree.Leads source .here target ↔ target = source := by
  rw [leads_iff_classified sound present]
  constructor
  · rintro ⟨_, classified⟩
    by_contra apart
    rw [classify, if_neg apart] at classified
    split at classified <;> cases classified
  · rintro rfl
    exact ⟨present, if_pos rfl⟩

/-- The routes down are those to the descendants, which is how the walk for the table and the route
agree. -/
theorem leads_down_iff :
    tree.Leads source .down target ↔ target ∈ tree.descendants source := by
  rw [leads_iff_classified sound present]
  constructor
  · rintro ⟨_, classified⟩
    rw [classify] at classified
    split at classified
    · cases classified
    · split at classified
      · assumption
      · cases classified
  · intro lower
    have other := below_described sound tree.size lower
    obtain ⟨apart, _⟩ := (mem_descendants sound other present).mp lower
    refine ⟨other, ?_⟩
    rw [classify, if_neg apart, if_pos lower]
    rfl

/-- A route has at least its target on its path, also where it is that of a host to itself. -/
theorem path_inhabited {route : Route}
    (found : tree.routeBetween source target = .ok route) : route.path ≠ [] := by
  have other : target ∈ tree.hosts := leads_described ⟨route.path, found⟩
  by_cases same : source = target
  · subst same
    simp only [routeBetween, contains, present, decide_true, Bool.not_true, Bool.false_eq_true,
      if_false, if_true] at found
    cases found
    simp
  · obtain ⟨direction, hop, onward⟩ := onward_exists sound present other same
    cases found.symm.trans (route_of_onward sound present other same onward)
    simp

end RoutingTree

/-- The strategy that leads up reaches the hosts to which the route starts up. -/
theorem RouteBook.leads_up_iff {book : RouteBook} {tree : RoutingTree}
    (installed : book.tree = some tree) (current target : String) :
    book.leadsUp current target = true ↔ tree.Leads current .up target := by
  simp only [leadsUp, installed, RoutingTree.Leads]
  cases tree.routeBetween current target with
  | error failure => simp
  | ok route =>
    obtain ⟨path, direction⟩ := route
    simp

/-! ## Refusals -/

/-- The failure of a strategy that was given a message which it does not lead to the
target. -/
def Failure.Misdirected : Failure → Prop
  | .unreachable .. => True
  | _ => False

namespace Channels

variable {channels : Channels} {message : Message} {failure : Failure}

/-- Fixing a type fails for reasons of the channel, and not because of where the message goes. -/
theorem settle_directed {name : String}
    (failed : channels.settle name message = .error failure) : ¬ failure.Misdirected := by
  unfold settle Connection.agree at failed
  intro misdirected
  split at failed
  · cases failed
    exact misdirected
  · split at failed
    · rename_i refused
      cases failed
      split at refused
      · cases refused
      · split at refused
        · cases refused
        · cases refused
          exact misdirected
    · cases failed

/-- A publication fails for reasons of its channel as well, and not because of where the message
goes. -/
theorem accept_directed (failed : channels.accept message = .error failure) :
    ¬ failure.Misdirected := by
  unfold accept at failed
  split at failed
  · rename_i refused
    cases failed
    unfold publication at refused
    intro misdirected
    split at refused <;> cases refused <;> exact misdirected
  · rename_i found _
    split at failed
    · split at failed
      · cases failed
      · cases failed
        exact id
    · cases settled : channels.settle found.connection message with
      | error reason =>
        rw [settled] at failed
        cases failed
        exact settle_directed settled
      | ok changed =>
        rw [settled] at failed
        cases failed

end Channels

/-- Copies are made for as many subscribers as possible, and counted. None of them can make the
publication fail. -/
theorem Switchboard.copies_counted (registry : Registry) (connection : String)
    (message : Message) (subscribers : List Endpoint) (queues : QueueStore) :
    ∃ copies, (copyToEach registry connection message subscribers queues).result = .ok copies := by
  induction subscribers generalizing queues with
  | nil => exact ⟨0, rfl⟩
  | cons subscriber rest inductionHypothesis =>
    rw [copyToEach]
    split
    · exact inductionHypothesis queues
    · split
      · exact inductionHypothesis queues
      · rename_i taken _
        obtain ⟨copies, counted⟩ := inductionHypothesis taken
        exact ⟨copies + 1, by rw [Outcome.map, counted]; rfl⟩

namespace Exchange

variable {exchange : Exchange} {message : Message} {failure : Failure}

/-- A queue that is closed is no failure: the message is dropped, and that is an answer. -/
theorem queued_result (exchange : Exchange) (strategy : Strategy) (taken : Option QueueStore)
    (closed : Event) :
    ∃ delivery, (exchange.queued strategy taken closed).result = .ok delivery := by
  cases taken with
  | none => exact ⟨.dropped, rfl⟩
  | some queues => exact ⟨.forwarded, rfl⟩

/-- Delivery on the host refuses what it cannot publish and what names an unknown module. Neither is
a failure that says that the message has come the wrong way. -/
theorem deliver_directed (failed : (exchange.deliverOnHost message).result = .error failure) :
    ¬ failure.Misdirected := by
  unfold deliverOnHost at failed
  split at failed
  · unfold deliverControl at failed
    split at failed <;> cases failed
  · split at failed
    · unfold deliverPublication Switchboard.publish at failed
      cases accepted : exchange.desk.board.channels.accept message with
      | error reason =>
        rw [accepted] at failed
        cases failed
        exact Channels.accept_directed accepted
      | ok found =>
        obtain ⟨connection, subscribers, channels⟩ := found
        obtain ⟨copies, counted⟩ := Switchboard.copies_counted exchange.desk.board.registry
          connection message subscribers exchange.queues
        simp only [accepted, Outcome.within, counted] at failed
        cases failed
    · unfold deliverToModule at failed
      split at failed
      · cases failed
        exact id
      · obtain ⟨delivery, result⟩ := queued_result exchange _ _ _
        rw [Outcome.after, result] at failed
        cases failed

/-- Copies for users are made or dropped, and never refused, since users that are not there may come
later. -/
theorem to_users_result (exchange : Exchange) (message : Message) :
    ∃ delivery, (exchange.sendToUsers message).result = .ok delivery := by
  unfold sendToUsers
  split
  · exact ⟨.dropped, rfl⟩
  · exact ⟨.forwarded, rfl⟩

/-- On the way to a host further down only a next hop that is connected several times is
refused. -/
theorem via_directed {hop : String} (failed : (exchange.sendVia message hop).result =
    .error failure) : ¬ failure.Misdirected := by
  unfold sendVia at failed
  split at failed
  · cases failed
  · cases failed
  · obtain ⟨delivery, result⟩ := queued_result exchange _ _ _
    rw [Outcome.after, result] at failed
    cases failed
  · cases failed
    exact id

/-- A message for a host that the server leads to is not refused on the way up. -/
theorem up_directed (leads : exchange.reachesUpward message.target.host = true) :
    ∃ delivery, (exchange.sendUpward message).result = .ok delivery := by
  rw [sendUpward, if_pos leads]
  exact queued_result ..

/-- A message for a host with a path down to it is not misdirected on the way down. -/
theorem down_directed {path : List String} (resolved : (exchange.resolveDown
    message.target.host).1 = some path) (further : path ≠ [])
    (failed : (exchange.sendDownward message).result = .error failure) :
    ¬ failure.Misdirected := by
  obtain ⟨book, looked⟩ := resolve_answered resolved
  rw [sendDownward, looked] at failed
  obtain _ | ⟨hop, _ | _⟩ := path
  · exact absurd rfl further
  · obtain ⟨delivery, result⟩ := to_users_result { exchange with book := book } message
    rw [result] at failed
    cases failed
  · exact via_directed failed

end Exchange

/-! ## The dispatcher -/

namespace Station

/-- Table, tree and strategies of a host agree about every name, for each of the ways in which they
can be asked. -/
structure Agrees (station : Station) (tree : RoutingTree) : Prop where
  absent : ∀ name, station.dispatcher.strategy? name = none ↔ tree.contains name = false
  onHost : ∀ name,
    (station.dispatcher.strategy? name = some .onHost ↔ name = station.desk.host) ∧
      (name = station.desk.host ↔ tree.Leads station.desk.host .here name)
  downward : ∀ name,
    (station.dispatcher.strategy? name = some .downward ↔
        ∃ below, tree.descendantsOf station.desk.host = .ok below ∧ name ∈ below) ∧
      ((∃ below, tree.descendantsOf station.desk.host = .ok below ∧ name ∈ below) ↔
        tree.liesBelow name station.desk.host = true) ∧
      (tree.liesBelow name station.desk.host = true ↔ tree.Leads station.desk.host .down name)
  upward : ∀ name,
    station.dispatcher.strategy? name = some .upward ↔ tree.Leads station.desk.host .up name
  reaching : ∀ strategy name, (station.exchange.reaches strategy name).1 = true ↔
    station.dispatcher.strategy? name = some strategy
  reached : ∀ name, (station.canReach name).1 = true ↔ tree.contains name = true
  directed : ∀ message strategy source target,
    (station.route message).result ≠ .error (.unreachable strategy source target)

variable {station : Station} {roster : Roster} {tree : RoutingTree}

/-- Before a strategy is picked there is no direction to be wrong about. -/
theorem select_directed {message : Message} {failure : Failure}
    (failed : station.dispatcher.select message = .error failure) : ¬ failure.Misdirected := by
  unfold Dispatcher.select at failed
  intro misdirected
  split at failed
  · cases failed
    exact misdirected
  · split at failed
    · cases failed
      exact misdirected
    · split at failed <;> cases failed
      exact misdirected

/-- The strategy that is picked is the one in the table, as the other conditions only refuse. So
whatever is known of the table applies to every message that is passed on to a strategy. -/
theorem select_found {message : Message} {strategy : Strategy}
    (selected : station.dispatcher.select message = .ok strategy) :
    station.dispatcher.strategy? message.target.host = some strategy := by
  unfold Dispatcher.select at selected
  split at selected
  · cases selected
  · split at selected
    · cases selected
    · split at selected
      · cases selected
        assumption
      · cases selected

section

variable (built : station.dispatcher.BuiltFrom station.desk.host roster tree)

include built

/-- The table has no strategy for names that no host has, and one for every other. -/
theorem strategy_absent_iff (name : String) :
    station.dispatcher.strategy? name = none ↔ tree.contains name = false := by
  rw [Dispatcher.strategy?, built.classified, RoutingTree.contains]
  by_cases member : name ∈ tree.hosts <;> simp [member]

/-- The table has the strategy for the direction of the route, which is the one in which the
strategy leads. -/
theorem strategy_iff_leads (direction : Direction) (name : String) :
    station.dispatcher.strategy? name = some (RoutingTree.strategyFor direction) ↔
      tree.Leads station.desk.host direction name := by
  have sound := RoutingTree.accepted_sound built.accepted
  rw [Dispatcher.strategy?, built.classified,
    RoutingTree.leads_iff_classified sound built.described]
  by_cases member : name ∈ tree.hosts <;> simp [member]

/-- A strategy reaches the hosts in its direction, as its own computation says, be it from the cache
or from the tree. -/
theorem reaches_iff_leads (direction : Direction) (name : String) :
    (station.exchange.reaches (RoutingTree.strategyFor direction) name).1 = true ↔
      tree.Leads station.desk.host direction name := by
  have sound := RoutingTree.accepted_sound built.accepted
  cases direction with
  | up => exact RouteBook.leads_up_iff built.installed station.desk.host name
  | down =>
    have resolved : (station.exchange.reaches .downward name).1 =
        (station.dispatcher.book.resolveDown station.desk.host name).1.isSome := rfl
    rw [RoutingTree.strategyFor, resolved, Option.isSome_iff_exists]
    exact exists_congr fun path => resolve_down_iff built
  | here =>
    rw [RoutingTree.leads_here_iff sound built.described]
    exact decide_eq_true_iff

/-- The dispatcher reaches the hosts of the tree and no others. Each of them has a strategy, and
that one reaches it. -/
theorem can_reach_iff (name : String) :
    (station.canReach name).1 = true ↔ tree.contains name = true := by
  rw [canReach]
  cases found : station.dispatcher.strategy? name with
  | none => simp [(strategy_absent_iff built name).mp found]
  | some strategy =>
    have known : tree.contains name = true := by
      rw [← Bool.not_eq_false, ← strategy_absent_iff built name, found]
      simp
    obtain ⟨direction, rfl⟩ := RoutingTree.strategy_surjective strategy
    have leads := (strategy_iff_leads built direction name).mp found
    have reached := (reaches_iff_leads built direction name).mpr leads
    exact iff_of_true reached known

/-- The strategy that the table picks does not refuse a message for its direction. What the table
says about the target is what the strategy finds out for itself, for each of the three
directions. -/
theorem route_directed (message : Message) {failure : Failure}
    (failed : (station.route message).result = .error failure) : ¬ failure.Misdirected := by
  have sound := RoutingTree.accepted_sound built.accepted
  unfold route at failed
  cases selected : station.dispatcher.select message with
  | error reason =>
    rw [selected] at failed
    cases failed
    exact select_directed selected
  | ok strategy =>
    rw [selected] at failed
    obtain ⟨direction, rfl⟩ := RoutingTree.strategy_surjective strategy
    have found := select_found selected
    have leads := (strategy_iff_leads built direction _).mp found
    cases direction with
    | here => exact Exchange.deliver_directed failed
    | up =>
      have reaches : station.exchange.reachesUpward message.target.host = true :=
        (reaches_iff_leads built .up _).mpr leads
      obtain ⟨delivery, result⟩ := Exchange.up_directed reaches
      cases result.symm.trans failed
    | down =>
      obtain ⟨path, way⟩ := leads
      have further := RoutingTree.path_inhabited sound built.described way
      have resolved : (station.exchange.resolveDown message.target.host).1 = some path :=
        (resolve_down_iff built).mpr way
      exact Exchange.down_directed resolved further failed

/-- A host is among the descendants that the tree gives for the own host exactly if the walk
meets it. -/
theorem descendants_known (name : String) :
    (∃ below, tree.descendantsOf station.desk.host = .ok below ∧ name ∈ below) ↔
      name ∈ tree.descendants station.desk.host := by
  have known : tree.contains station.desk.host = true := decide_eq_true built.described
  simp [RoutingTree.descendantsOf, known]

/-- A dispatcher that was built from a list agrees with its tree about every name. Each of the parts
compares one way to ask with the direction in which the route starts, and no two ways are compared
directly. -/
theorem built_agrees : station.Agrees tree := by
  have sound := RoutingTree.accepted_sound built.accepted
  constructor
  case absent => exact strategy_absent_iff built
  case onHost =>
    intro name
    have here : tree.Leads station.desk.host .here name ↔ name = station.desk.host :=
      RoutingTree.leads_here_iff sound built.described
    have onHost := strategy_iff_leads built .here name
    exact ⟨onHost.trans here, here.symm⟩
  case downward =>
    intro name
    have down : tree.Leads station.desk.host .down name ↔
        name ∈ tree.descendants station.desk.host :=
      RoutingTree.leads_down_iff sound built.described
    have chain : tree.liesBelow name station.desk.host = true ↔
        name ∈ tree.descendants station.desk.host :=
      RoutingTree.lies_below_iff sound built.described
    have downward := strategy_iff_leads built .down name
    have walk := descendants_known built name
    exact ⟨downward.trans (down.trans walk.symm), walk.trans chain.symm, chain.trans down.symm⟩
  case upward => exact strategy_iff_leads built .up
  case reaching =>
    intro strategy name
    obtain ⟨direction, rfl⟩ := RoutingTree.strategy_surjective strategy
    rw [reaches_iff_leads built, strategy_iff_leads built]
  case reached => exact can_reach_iff built
  case directed =>
    intro message strategy source target failed
    exact route_directed built message failed trivial

end

/-- From every accepted list that has the host, its dispatcher can be built, whatever happened
before; and whatever happens while that list is the last one it was built from, table, tree and
strategies agree about every name.

Proof: the build succeeds because its two checks are about the list and the name of the host alone.
For the second part, coherence says that tree, table and remembered paths come from the list that is
remembered. Each of the four ways to ask is then compared with the position of the name in the tree,
one lemma for each (`built_agrees`). What was called between the build and the question is not
restricted, as long as this list is still the last one. -/
theorem strategies_agree (host : String) (roster : Roster) (tree : RoutingTree)
    (accepted : RoutingTree.ofHosts roster.hosts = .ok tree) (described : host ∈ tree.hosts)
    (calls : List Call) :
    (((after host calls).build roster).result = .ok () ∧
        ((after host calls).build roster).state.dispatcher.roster = some roster) ∧
      ((after host calls).dispatcher.roster = some roster → (after host calls).Agrees tree) := by
  have named := after_host host calls
  constructor
  · have known : (after host calls).desk.host ∈ tree.hosts := named.symm ▸ described
    simp [build, parseTree, accepted, RoutingTree.descendantsOf, RoutingTree.contains, known,
      Outcome.ok, Outcome.after, Outcome.andThen, install]
  · intro remembered
    rcases (after_steady host calls).coherent with ⟨_, _, none, _⟩ | ⟨last, known, built⟩
    · cases remembered.symm.trans none
    · obtain rfl : last = roster := Option.some.inj (built.remembered.symm.trans remembered)
      obtain rfl : known = tree := Except.ok.inj (built.accepted.symm.trans accepted)
      exact built_agrees built

/-- The middle one of four hosts, built from them, agrees with their tree. -/
theorem middle_server_agrees :
    let roster : Roster := ⟨RoutingTree.quartet, by decide⟩
    let tree : RoutingTree := ⟨RoutingTree.linksOf RoutingTree.quartet, "Server1"⟩
    let station := after "Server2" [.build roster]
    RoutingTree.ofHosts roster.hosts = .ok tree ∧ "Server2" ∈ tree.hosts ∧
      station.dispatcher.roster = some roster ∧ station.Agrees tree := by
  intro roster tree station
  have accepted : RoutingTree.ofHosts roster.hosts = .ok tree := rfl
  have described : "Server2" ∈ tree.hosts := by decide
  have remembered : station.dispatcher.roster = some roster := by
    rw [show station = _ from after_append "Server2" [] (.build roster)]
    exact (strategies_agree "Server2" roster tree accepted described []).1.2
  have agrees := (strategies_agree "Server2" roster tree accepted described
    [.build roster]).2 remembered
  exact ⟨accepted, described, remembered, agrees⟩

end Station

end RelayTree
