import RelayTree.Proofs.Dispatcher.Table
import RelayTree.Proofs.Dispatcher.Upkeep

/-!
# Tree, table, hosts and remembered paths

A dispatcher writes down four things about the hosts: the tree, the table made from
it, the hosts themselves, and what it found out about paths downward. They are
written at different times, the paths by every message that is routed. `Coherent`
says that nevertheless all four belong to one list of hosts, or that there was none
yet, and it holds after any calls in any order, with whatever else goes on at the
host between them.
-/

namespace RelayTree

/-- A remembered answer is a downward path exactly where the route leads down. -/
theorem RouteBook.path_down_iff (tree : RoutingTree) (current target : String)
    (path : List String) :
    pathDown? tree current target = some path ↔
      tree.routeBetween current target = .ok ⟨path, .down⟩ := by
  unfold pathDown?
  cases found : tree.routeBetween current target with
  | error failure => simp
  | ok route =>
    obtain ⟨hops, direction⟩ := route
    cases direction <;> simp

namespace Dispatcher

/-- Nothing was built: no tree, no table, no hosts, nothing remembered. Every host begins like this,
and stays so until a build succeeds. -/
def Unbuilt (dispatcher : Dispatcher) : Prop :=
  dispatcher.book.tree = none ∧ dispatcher.table = .empty ∧ dispatcher.roster = none ∧
    dispatcher.book.cache = .empty

/-- All that a dispatcher knows comes from one accepted list of hosts, its own host
among them. -/
structure BuiltFrom (dispatcher : Dispatcher) (host : String) (roster : Roster)
    (tree : RoutingTree) : Prop where
  accepted : RoutingTree.ofHosts roster.hosts = .ok tree
  described : host ∈ tree.hosts
  remembered : dispatcher.roster = some roster
  installed : dispatcher.book.tree = some tree
  classified : ∀ other, dispatcher.table.get? other =
    if other ∈ tree.hosts then some (classify host (tree.descendants host) other) else none
  cached : ∀ {target : String} {answer : Option (List String)},
    dispatcher.book.cache.get? target = some answer →
      ∀ path, answer = some path ↔ tree.routeBetween host target = .ok ⟨path, .down⟩

end Dispatcher

namespace Station

/-- The four pieces belong together, or none of them is there. Which list of hosts they belong to is
not told here but found. -/
def Coherent (station : Station) : Prop :=
  station.dispatcher.Unbuilt ∨
    ∃ roster tree, station.dispatcher.BuiltFrom station.desk.host roster tree

/-- The four pieces belong together, and only a dispatcher with a tree runs. The second part is what
a reload relies on when it stops first and looks for the host afterwards. -/
structure Steady (station : Station) : Prop where
  coherent : station.Coherent
  built : station.dispatcher.isRunning = true → station.dispatcher.book.tree.isSome = true

/-- What may happen at a host: the calls to its dispatcher, the steps of the workers,
and any change of modules, users and queues by others. -/
inductive Call where
  | build (roster : Roster)
  | reconfigure (deployment : Deployment)
  | start
  | stop
  | route (message : Message)
  | canReach (host : String)
  | loopStep
  | mergeStep (index : Nat)
  | elsewhere (board : Switchboard) (users : UserDirectory) (queues : QueueStore)

/-- The station after a call, whether it succeeds or fails. Half a reload is a call like any
other. -/
def perform (station : Station) : Call → Station
  | .build roster => (station.build roster).state
  | .reconfigure deployment => (station.reconfigure deployment).state
  | .start => station.start.state
  | .stop => station.stop.state
  | .route message => (station.route message).state
  | .canReach host => (station.canReach host).2
  | .loopStep => station.loopStep
  | .mergeStep index => station.mergeStep index
  | .elsewhere board users queues =>
    { station with desk := { station.desk with board := board, users := users }, queues := queues }

/-- The station of a host after calls in order, from the moment it was created. -/
def after (host : String) (calls : List Call) : Station := calls.foldl perform (create host)

/-- The last of several calls finds the station as the others left it. -/
theorem after_append (host : String) (calls : List Call) (call : Call) :
    after host (calls ++ [call]) = (after host calls).perform call := by
  simp [after]

/-! ## What a build does -/

/-- A build that fails leaves the whole station as it was. All that can fail in it comes before the
first change. -/
theorem build_failed {station : Station} {roster : Roster} {failure : Failure}
    (failed : (station.build roster).result = .error failure) :
    (station.build roster).state = station := by
  revert failed
  unfold build parseTree
  cases RoutingTree.ofHosts roster.hosts with
  | error reason => simp [Outcome.fail, Outcome.andThen]
  | ok tree =>
    simp only [Outcome.ok, Outcome.after, Outcome.andThen]
    cases tree.descendantsOf station.desk.host with
    | error reason => simp [Outcome.fail]
    | ok below => simp

/-- A build that succeeds had an accepted list with the host in it, and installs its tree. Nothing
else can have been asked of the list, and nothing else has changed at the station. -/
theorem build_succeeded {station : Station} {roster : Roster}
    (succeeded : (station.build roster).result = .ok ()) :
    ∃ tree, RoutingTree.ofHosts roster.hosts = .ok tree ∧ station.desk.host ∈ tree.hosts ∧
      (station.build roster).state =
        station.install roster tree (tree.descendants station.desk.host) := by
  revert succeeded
  unfold build parseTree
  cases RoutingTree.ofHosts roster.hosts with
  | error reason => simp [Outcome.fail, Outcome.andThen]
  | ok tree =>
    by_cases member : station.desk.host ∈ tree.hosts
    · simp [Outcome.ok, Outcome.after, Outcome.andThen, RoutingTree.descendantsOf,
        RoutingTree.contains, member]
    · simp [Outcome.ok, Outcome.fail, Outcome.after, Outcome.andThen, RoutingTree.descendantsOf,
        RoutingTree.contains, member]

/-- A dispatcher is built from a list if it has the table of its tree and has not
remembered anything yet. -/
theorem built_of_table {dispatcher : Dispatcher} {host : String} {roster : Roster}
    {tree : RoutingTree} (accepted : RoutingTree.ofHosts roster.hosts = .ok tree)
    (described : host ∈ tree.hosts) (remembered : dispatcher.roster = some roster)
    (installed : dispatcher.book.tree = some tree)
    (table : dispatcher.table = strategyTable tree host (tree.descendants host))
    (forgotten : dispatcher.book.cache = .empty) : dispatcher.BuiltFrom host roster tree where
  accepted := accepted
  described := described
  remembered := remembered
  installed := installed
  classified := fun other => table ▸ strategy_table_lookup tree host _ other
  cached := fun found => by simp [forgotten] at found

/-- Installing a tree makes all four pieces anew: table and hosts from the same list as the tree,
and no remembered path. -/
theorem install_built {station : Station} {roster : Roster} {tree : RoutingTree}
    (accepted : RoutingTree.ofHosts roster.hosts = .ok tree)
    (described : station.desk.host ∈ tree.hosts) :
    (station.install roster tree (tree.descendants station.desk.host)).dispatcher.BuiltFrom
      station.desk.host roster tree :=
  built_of_table accepted described rfl rfl rfl rfl

/-! ## What every call keeps -/

variable {before later : Station}

/-- What was built from a list of hosts stays so while the book only grows. An answer that was added
since is one of the same tree, because that is the tree which is installed. -/
theorem built_kept {roster : Roster} {tree : RoutingTree} (keeps : Keeps before later)
    (built : before.dispatcher.BuiltFrom before.desk.host roster tree) :
    later.dispatcher.BuiltFrom later.desk.host roster tree where
  accepted := built.accepted
  described := keeps.host ▸ built.described
  remembered := keeps.roster.trans built.remembered
  installed := keeps.book.tree.trans built.installed
  classified := by
    rw [keeps.host, keeps.table]
    exact built.classified
  cached := fun found => by
    rw [keeps.host]
    rcases keeps.book.answers found with earlier | ⟨known, installed, rfl⟩
    · exact built.cached earlier
    · obtain rfl : tree = known := Option.some.inj (built.installed.symm.trans installed)
      exact RouteBook.path_down_iff tree before.desk.host _

/-- The pieces stay together for a host that goes by its name, which is the same before and
after. -/
theorem built_after {host : String} {roster : Roster} {tree : RoutingTree}
    (keeps : Keeps before later) (named : before.desk.host = host)
    (built : before.dispatcher.BuiltFrom host roster tree) :
    later.dispatcher.BuiltFrom host roster tree := by
  subst named
  have kept := built_kept keeps built
  rwa [keeps.host] at kept

/-- Without a tree nothing gets remembered, so a station where nothing was built stays one until a
build. -/
theorem unbuilt_kept (keeps : Keeps before later) (unbuilt : before.dispatcher.Unbuilt) :
    later.dispatcher.Unbuilt := by
  obtain ⟨free, table, roster, cache⟩ := unbuilt
  refine ⟨keeps.book.tree.trans free, keeps.table.trans table, keeps.roster.trans roster, ?_⟩
  apply SortedMap.ext_get?
  intro target
  cases found : later.dispatcher.book.cache.get? target with
  | none => rfl
  | some answer =>
    rcases keeps.book.answers found with earlier | ⟨tree, installed, _⟩
    · simp [cache] at earlier
    · simp [free] at installed

/-- Steadiness passes over everything that only lets the book grow, which is everything but a
build. -/
theorem steady_kept (keeps : Keeps before later) (steady : before.Steady) : later.Steady where
  coherent := by
    rcases steady.coherent with unbuilt | ⟨roster, tree, built⟩
    · exact .inl (unbuilt_kept keeps unbuilt)
    · exact .inr ⟨roster, tree, built_kept keeps built⟩
  built := fun runs => by
    rw [keeps.book.tree]
    rcases keeps.running runs with ran | installed
    · exact steady.built ran
    · exact installed

/-- A build keeps the station steady, whether or not it succeeds: it makes all pieces anew or
changes none. -/
theorem build_steady (station : Station) (roster : Roster) (steady : station.Steady) :
    (station.build roster).state.Steady := by
  cases outcome : (station.build roster).result with
  | error failure =>
    rw [build_failed outcome]
    exact steady
  | ok =>
    obtain ⟨tree, accepted, described, state⟩ := build_succeeded outcome
    rw [state]
    exact ⟨.inr ⟨roster, tree, install_built accepted described⟩, fun _ => rfl⟩

end Station

namespace Outcome

variable {σ α β : Type}

/-- Steps that each keep a property of the state keep it together, also where a
failure ends them early. -/
theorem andThen_keeps (property : σ → Prop) {outcome : Outcome σ α}
    {next : σ → α → Outcome σ β} (first : property outcome.state)
    (second : ∀ state value, property state → property (next state value).state) :
    property (outcome.andThen next).state := by
  unfold andThen
  split
  · exact second _ _ first
  · exact first

end Outcome

namespace Station

/-- Stopping what runs keeps the station as a stop does, and where nothing runs there is nothing to
keep. -/
theorem keeps_pause (station : Station) : Keeps station station.pause.state := by
  unfold pause
  split
  · exact keeps_stop station
  · exact keeps_refl station

/-- A reload keeps the station steady wherever it ends. It is a chain of steps, and each of them
does. -/
theorem reconfigure_steady (station : Station) (deployment : Deployment)
    (steady : station.Steady) : (station.reconfigure deployment).state.Steady := by
  unfold reconfigure
  refine Outcome.andThen_keeps _ steady fun station _ steady => ?_
  refine Outcome.andThen_keeps _ ?_ fun station _ steady => ?_
  · unfold parseTree
    split <;> exact steady
  refine Outcome.andThen_keeps _ (steady_kept (keeps_pause station) steady)
    fun station _ steady => ?_
  refine Outcome.andThen_keeps _ (build_steady station _ steady) fun station _ steady => ?_
  refine Outcome.andThen_keeps _ ⟨steady.coherent, steady.built⟩ fun station _ steady => ?_
  refine Outcome.andThen_keeps _ steady fun station _ steady => ?_
  unfold resume
  split
  · exact steady_kept (keeps_start station) steady
  · exact steady

/-- Every call keeps the station steady, whether it is made at a good moment or at a bad one. -/
theorem perform_steady (station : Station) (call : Call) (steady : station.Steady) :
    (station.perform call).Steady := by
  cases call with
  | build roster => exact build_steady station roster steady
  | reconfigure deployment => exact reconfigure_steady station deployment steady
  | start => exact steady_kept (keeps_start station) steady
  | stop => exact steady_kept (keeps_stop station) steady
  | route message => exact steady_kept (keeps_route station message) steady
  | canReach host => exact steady_kept (keeps_reach station host) steady
  | loopStep => exact steady_kept (keeps_loop station) steady
  | mergeStep index => exact steady_kept (keeps_merge station index) steady
  | elsewhere board users queues => exact ⟨steady.coherent, steady.built⟩

/-- Calls in any order keep a station steady, by induction on the calls that are left. -/
theorem run_steady (calls : List Call) (station : Station) (steady : station.Steady) :
    (calls.foldl perform station).Steady := by
  induction calls generalizing station with
  | nil => exact steady
  | cons call rest inductionHypothesis =>
    exact inductionHypothesis _ (perform_steady station call steady)

/-- Whatever happened at a host, its station is steady, since it was created with nothing built. -/
theorem after_steady (host : String) (calls : List Call) : (after host calls).Steady :=
  run_steady calls (create host) ⟨.inl ⟨rfl, rfl, rfl, rfl⟩, (nomatch ·)⟩

/-- No build renames the host, so tables are always made from the same point of view. -/
theorem build_host (station : Station) (roster : Roster) :
    (station.build roster).state.desk.host = station.desk.host := by
  cases outcome : (station.build roster).result with
  | error failure => rw [build_failed outcome]
  | ok =>
    obtain ⟨tree, _, _, state⟩ := build_succeeded outcome
    rw [state]
    rfl

/-- No reload renames the host, wherever it ends. Each of its steps is looked at once, under the
assumption that those before have succeeded. -/
theorem reconfigure_host (station : Station) (deployment : Deployment) :
    (station.reconfigure deployment).state.desk.host = station.desk.host := by
  unfold reconfigure
  let named (later : Station) : Prop := later.desk.host = station.desk.host
  refine Outcome.andThen_keeps named rfl fun later _ same => ?_
  refine Outcome.andThen_keeps named ?_ fun later _ same => ?_
  · unfold parseTree
    split <;> exact same
  refine Outcome.andThen_keeps named ((keeps_pause later).host.trans same) fun later _ same => ?_
  refine Outcome.andThen_keeps named ((build_host later _).trans same) fun later _ same => ?_
  refine Outcome.andThen_keeps named same fun later _ same => ?_
  refine Outcome.andThen_keeps named same fun later _ same => ?_
  unfold resume
  split
  · exact (keeps_start later).host.trans same
  · exact same

/-- No call renames the host, including those that others make at its desk. What others change is
the board and the users, and a desk keeps its host apart from these. -/
theorem perform_host (station : Station) (call : Call) :
    (station.perform call).desk.host = station.desk.host := by
  cases call with
  | build roster => exact build_host station roster
  | reconfigure deployment => exact reconfigure_host station deployment
  | start => exact (keeps_start station).host
  | stop => exact (keeps_stop station).host
  | route message => exact (keeps_route station message).host
  | canReach host => exact (keeps_reach station host).host
  | loopStep => exact (keeps_loop station).host
  | mergeStep index => exact (keeps_merge station index).host
  | elsewhere board users queues => rfl

/-- Whatever happened at a host, it goes by its name. -/
theorem after_host (host : String) (calls : List Call) : (after host calls).desk.host = host := by
  have kept : ∀ station : Station, (calls.foldl perform station).desk.host = station.desk.host := by
    induction calls with
    | nil => exact fun _ => rfl
    | cons call rest inductionHypothesis =>
      exact fun station => (inductionHypothesis _).trans (perform_host station call)
  exact kept (create host)

/-- After any calls the four pieces belong to one accepted list of hosts or nothing was
built, and a build that fails then changes none of them, nor anything else.

Proof: `Steady` holds of a station that was just created, and each call keeps it, as
`perform_steady` says call by call; the rest is an induction on the calls. A build checks everything
before it installs anything. A reload that fails halfway is a call like any other, and needs no
exception. -/
theorem coherent_after (host : String) (calls : List Call) :
    (after host calls).Coherent ∧
      ∀ roster failure, ((after host calls).build roster).result = .error failure →
        ((after host calls).build roster).state = after host calls :=
  ⟨(after_steady host calls).coherent, fun _ _ failed => build_failed failed⟩

end Station

end RelayTree
