import RelayTree.Proofs.Dispatcher.HalfReload

/-!
# A reload is a fresh start

A reload works on a station with a past: old modules, old channels with types agreed on,
remembered paths, parked runtimes. This file compares it with the same deployment on a
station that was just created. The deployment is accepted there as well, and whatever the
reload sets up it sets up in the same way.

What is left of the past is written down as one function: `inheriting` puts a fresh station
in the place of an earlier one. It takes over the queues with their contents, the users, the
link, the counters, and for each module the runtime that it had before. That a reloaded
station is such an heir says at the same time what survives and that nothing else does.
-/

namespace RelayTree

namespace SortedMap

variable {κ ν μ : Type} [Ord κ] [Std.LawfulEqOrd κ]

/-- A key has the value that the function gives for the one it had. Keys are kept, so an entry of
the new map comes from the entry with the same key and from no other. -/
@[simp] theorem get?_filterMap (f : κ → ν → Option μ) (map : SortedMap κ ν) (key : κ) :
    (map.filterMap f).get? key = (map.get? key).bind (f key) := by
  apply Option.ext
  intro value
  rw [← mem_entries_iff, filterMap, List.mem_filterMap, Option.bind_eq_some_iff]
  constructor
  · rintro ⟨⟨other, before⟩, member, same⟩
    obtain ⟨after, changed, pair⟩ := Option.map_eq_some_iff.mp same
    obtain ⟨rfl, rfl⟩ := Prod.mk.inj pair
    exact ⟨before, mem_entries_iff.mp member, changed⟩
  · rintro ⟨before, found, changed⟩
    exact ⟨(key, before), mem_entries_iff.mpr found, by simp [changed]⟩

omit [Std.LawfulEqOrd κ] in
/-- Changing values changes no key, so the listing of a map with other values has the same keys. -/
theorem keys_filterMap_some (f : κ → ν → μ) (map : SortedMap κ ν) :
    (map.filterMap fun key value => some (f key value)).keys = map.keys := by
  simp [keys, filterMap, Function.comp_def]

end SortedMap

/-! ## Modules -/

namespace Registry

/-- The runtime that a module runs in, if it is registered and was placed in one. -/
def runtimeOf? (registry : Registry) (module : String) : Option String :=
  (registry.modules.get? module).bind (·.runtime)

/-- Fresh modules in the place of earlier ones: each runs where it ran, and the runtimes of
those that are gone are parked. -/
def inheriting (fresh before : Registry) : Registry where
  modules := fresh.modules.filterMap fun module entry =>
    some { entry with runtime := before.runtimeOf? module }
  runtimes := before.runtimes
  parked := before.modules.filterMap fun module entry =>
    bif fresh.contains module then none else entry.runtime

/-- The modules are the fresh ones: nobody is taken over from the earlier registry, only runtimes
are. -/
@[simp] theorem contains_inheriting (fresh before : Registry) (module : String) :
    (fresh.inheriting before).contains module = fresh.contains module := by
  simp only [contains, SortedMap.contains, inheriting, SortedMap.get?_filterMap]
  cases fresh.modules.get? module <;> rfl

/-- A module is added to its heirs as it is added afresh: it is given back the runtime that
was parked for it, which is the one it had. -/
theorem add_inheriting (fresh before : Registry) (module className : String)
    (properties : SortedMap String String) :
    (fresh.inheriting before).add module className properties =
      (fresh.add module className properties).map (·.inheriting before) := by
  cases taken : fresh.contains module with
  | true => simp [add, taken, Except.map]
  | false =>
    have parked : (fresh.inheriting before).parked.get? module = before.runtimeOf? module := by
      simp [inheriting, taken, runtimeOf?]
    simp only [add, contains_inheriting, taken, Bool.false_eq_true, if_false, Except.map,
      Except.ok.injEq, parked]
    rw [inheriting, Registry.mk.injEq]
    refine ⟨?_, rfl, ?_⟩
    · apply SortedMap.ext_get?
      intro other
      by_cases same : other = module <;> simp [inheriting, same]
    · apply SortedMap.ext_get?
      intro other
      by_cases same : other = module <;> simp [inheriting, same, contains, SortedMap.contains]

end Registry

/-! ## Channels -/

namespace Outcome

variable {σ τ α β : Type}

/-- A larger state sees two steps where the smaller one sees them. It lets the steps of a reload be
compared one by one. -/
theorem within_andThen (whole : σ → τ) (outcome : Outcome σ α) (next : σ → α → Outcome σ β)
    (further : τ → α → Outcome τ β)
    (same : ∀ state value, further (whole state) value = (next state value).within whole) :
    (outcome.within whole).andThen further = (outcome.andThen next).within whole := by
  unfold andThen
  cases ended : outcome.result with
  | error failure => simp [within, ended]
  | ok value => simp [within, ended, same, after]

end Outcome

namespace Switchboard

/-- Fresh modules and channels, with the queues of an earlier switchboard. -/
def inheriting (fresh before : Switchboard) : Switchboard :=
  { before with
    registry := fresh.registry.inheriting before.registry
    channels := fresh.channels }

/-- Forgetting all modules leaves the place to a switchboard without any, up to what is parked and
which queues there are. -/
theorem clear_inheriting (fresh before : Switchboard) (bare : fresh.registry = .empty) :
    before.clear = fresh.clear.inheriting before := by
  rw [clear, clear, bare]
  rfl

/-- Channels are bound the same way, since only registered modules and free channels are asked for.
Both are the same at the heir, which has taken over queues and runtimes only. -/
theorem bind_inheriting (fresh before : Switchboard) (endpoint : Endpoint) (binding : Binding) :
    (fresh.inheriting before).bind endpoint binding =
      (fresh.bind endpoint binding).map (·.inheriting before) := by
  have known : (fresh.inheriting before).checkModule endpoint.module =
      fresh.checkModule endpoint.module := by
    simp [checkModule, inheriting]
  rw [bind, bind, known]
  cases fresh.checkModule endpoint.module with
  | error failure => rfl
  | ok =>
    have channels : (fresh.inheriting before).channels = fresh.channels := rfl
    simp only [bindChannel, channels]
    cases fresh.channels.bind endpoint binding <;> rfl

/-- Channels are bound the same way one after the other, and the first refusal is the same one. -/
theorem bind_each_inheriting (before : Switchboard) (module : String) (role : Role)
    (entries : List (String × String)) (fresh : Switchboard) :
    (fresh.inheriting before).bindEach module role entries =
      (fresh.bindEach module role entries).within (·.inheriting before) := by
  induction entries generalizing fresh with
  | nil => rfl
  | cons entry rest inductionHypothesis =>
    obtain ⟨channel, connection⟩ := entry
    rw [bindEach, bindEach, bind_inheriting]
    cases fresh.bind ⟨module, channel⟩ ⟨connection, role⟩ with
    | error failure => rfl
    | ok bound => exact inductionHypothesis bound

/-- A module is registered the same way. What differs is the runtime it gets, which comes from what
is parked. -/
theorem register_inheriting (before : Switchboard) (spec : ModuleSpec) (fresh : Switchboard) :
    (fresh.inheriting before).register spec =
      (fresh.register spec).within (·.inheriting before) := by
  have registry : (fresh.inheriting before).registry =
      fresh.registry.inheriting before.registry := rfl
  rw [register, register, registry, Registry.add_inheriting]
  cases fresh.registry.add spec.id spec.className spec.properties with
  | error failure => rfl
  | ok added =>
    have placed : { fresh.inheriting before with registry := added.inheriting before.registry } =
        { fresh with registry := added }.inheriting before := rfl
    simp only [Except.map, placed]
    rw [bind_each_inheriting]
    exact Outcome.within_andThen _ _ _ _ fun board _ => bind_each_inheriting ..

/-- Modules are registered the same way, however far that goes before one of them is refused. -/
theorem register_all_inheriting (before : Switchboard) (specs : List ModuleSpec)
    (fresh : Switchboard) :
    (fresh.inheriting before).registerAll specs =
      (fresh.registerAll specs).within (·.inheriting before) := by
  induction specs generalizing fresh with
  | nil => rfl
  | cons spec rest inductionHypothesis =>
    rw [registerAll, registerAll, register_inheriting]
    exact Outcome.within_andThen _ _ _ _ fun board _ => inductionHypothesis board

end Switchboard

/-! ## Types that channels agree on -/

/-- No connection has a type yet, so the first sample or message on each of them will fix one. -/
def Channels.Open (channels : Channels) : Prop :=
  ∀ name, (channels.connection name).tag = none

/-- Binding a channel settles no type, and a connection that is made by it has none. -/
theorem Channels.bind_open {channels bound : Channels} {endpoint : Endpoint} {binding : Binding}
    (opened : channels.Open) (succeeded : channels.bind endpoint binding = .ok bound) :
    bound.Open := by
  unfold bind at succeeded
  split at succeeded
  · split at succeeded
    · cases succeeded
      exact opened
    · cases succeeded
  · cases succeeded
    intro name
    by_cases same : name = binding.connection
    · have joined := opened binding.connection
      cases role : binding.role <;> simpa [connection, same, role, Connection.join] using joined
    · have other := opened name
      simpa [connection, same] using other

namespace Switchboard

variable {board : Switchboard}

/-- Binding one channel after another settles no type either, wherever it ends. What a conflict
leaves is a board with some channels more, and that has been said of a single channel. -/
theorem bind_each_open (module : String) (role : Role) (entries : List (String × String))
    (opened : board.channels.Open) :
    (board.bindEach module role entries).state.channels.Open := by
  induction entries generalizing board with
  | nil => exact opened
  | cons entry rest inductionHypothesis =>
    obtain ⟨channel, connection⟩ := entry
    rw [bindEach]
    cases bound : board.bind ⟨module, channel⟩ ⟨connection, role⟩ with
    | error failure => exact opened
    | ok later =>
      apply inductionHypothesis
      unfold bind bindChannel at bound
      split at bound
      · cases bound
      · cases succeeded : board.channels.bind ⟨module, channel⟩ ⟨connection, role⟩ with
        | error failure =>
          rw [succeeded] at bound
          cases bound
        | ok channels =>
          rw [succeeded] at bound
          cases bound
          exact Channels.bind_open opened succeeded

/-- Registering modules settles no type, so after a reload all types are to be agreed on anew. This
holds of registrations that fail as well, since what they leave is asked for and not whether they
succeed. -/
theorem register_all_open (specs : List ModuleSpec) (opened : board.channels.Open) :
    (board.registerAll specs).state.channels.Open := by
  induction specs generalizing board with
  | nil => exact opened
  | cons spec rest inductionHypothesis =>
    let bare (board : Switchboard) : Prop := board.channels.Open
    have registered : bare (board.register spec).state := by
      unfold register
      split
      · exact opened
      · exact Outcome.andThen_keeps bare (bind_each_open _ _ _ opened)
          fun board _ opened => bind_each_open _ _ _ opened
    exact Outcome.andThen_keeps bare registered fun board _ opened => inductionHypothesis opened

end Switchboard

/-! ## The whole station -/

namespace Station

/-- A fresh station in the place of an earlier one: it takes over the queues, the users, the
link and the counters, and its modules run where they ran. -/
def inheriting (fresh before : Station) : Station where
  desk := { before.desk with board := fresh.desk.board.inheriting before.desk.board }
  dispatcher :=
    { fresh.dispatcher with
      book := { before.dispatcher.book with
        tree := fresh.dispatcher.book.tree
        cache := fresh.dispatcher.book.cache }
      counters := before.dispatcher.counters
      inbound := before.dispatcher.inbound }
  queues := before.queues

/-- Two stations are set up alike: they have the same tree, table and hosts, the same modules
with the same classes, properties and channels, and strategies that give the same answers. -/
structure SetUpAlike (station other : Station) : Prop where
  tree : station.dispatcher.book.tree = other.dispatcher.book.tree
  table : station.dispatcher.table = other.dispatcher.table
  roster : station.dispatcher.roster = other.dispatcher.roster
  ids : station.desk.board.registry.ids = other.desk.board.registry.ids
  described : ∀ module,
    (station.desk.board.registry.modules.get? module).map
        (fun entry => (entry.className, entry.properties)) =
      (other.desk.board.registry.modules.get? module).map
        fun entry => (entry.className, entry.properties)
  channels : station.desk.board.channels = other.desk.board.channels
  reaching : ∀ strategy name,
    (station.exchange.reaches strategy name).1 = (other.exchange.reaches strategy name).1

/-- The answers of the strategies come from the tree and the remembered paths alone. -/
theorem reaches_same {station other : Station} (host : station.desk.host = other.desk.host)
    (tree : station.dispatcher.book.tree = other.dispatcher.book.tree)
    (cache : station.dispatcher.book.cache = other.dispatcher.book.cache) (strategy : Strategy)
    (name : String) :
    (station.exchange.reaches strategy name).1 = (other.exchange.reaches strategy name).1 := by
  cases strategy with
  | onHost =>
    change decide (name = station.desk.host) = decide (name = other.desk.host)
    rw [host]
  | upward =>
    change station.dispatcher.book.leadsUp station.desk.host name =
      other.dispatcher.book.leadsUp other.desk.host name
    rw [RouteBook.leadsUp, RouteBook.leadsUp, host, tree]
  | downward =>
    have resolved : (station.dispatcher.book.resolveDown station.desk.host name).1 =
        (other.dispatcher.book.resolveDown other.desk.host name).1 := by
      rw [RouteBook.resolveDown, RouteBook.resolveDown, host, tree, cache]
      cases other.dispatcher.book.cache.get? name with
      | some answer => rfl
      | none => cases other.dispatcher.book.tree <;> rfl
    exact congrArg Option.isSome resolved

/-- An heir is set up like the fresh station: by tree, table, hosts, modules and channels. What it
has from its predecessor is not among these, which is why most of the fields are the same by
definition. -/
theorem inheriting_alike (fresh before : Station) (host : before.desk.host = fresh.desk.host) :
    (fresh.inheriting before).SetUpAlike fresh where
  tree := rfl
  table := rfl
  roster := rfl
  ids := SortedMap.keys_filterMap_some _ _
  described := by
    intro module
    simp only [inheriting, Switchboard.inheriting, Registry.inheriting, SortedMap.get?_filterMap]
    cases fresh.desk.board.registry.modules.get? module <;> rfl
  channels := rfl
  reaching := reaches_same host rfl rfl

/-- Starting changes the workers only, whether it succeeds or is refused. -/
theorem start_workers (station : Station) :
    ∃ workers, station.start.state = station.withWorkers workers := by
  unfold start
  split
  · exact ⟨station.dispatcher.workers, rfl⟩
  · split
    · exact ⟨station.dispatcher.workers, rfl⟩
    · split
      · exact ⟨station.dispatcher.workers, rfl⟩
      · exact ⟨_, rfl⟩

/-- What a reload may start again is set up alike before and after that. -/
theorem resume_alike {station other : Station} (alike : station.SetUpAlike other)
    (wasRunning : Bool) : (station.resume wasRunning).state.SetUpAlike other := by
  cases wasRunning with
  | false => exact alike
  | true =>
    obtain ⟨workers, started⟩ := start_workers station
    change station.start.state.SetUpAlike other
    rw [started]
    exact ⟨alike.tree, alike.table, alike.roster, alike.ids, alike.described, alike.channels,
      alike.reaching⟩

/-- A stopped dispatcher with a tree runs after that if it shall, and does not if it shall not. -/
theorem resume_running {station : Station} (stopped : station.dispatcher.workers = none)
    (built : station.dispatcher.book.tree.isSome = true) (wasRunning : Bool) :
    (station.resume wasRunning).state.dispatcher.isRunning = wasRunning := by
  obtain ⟨tree, installed⟩ := Option.isSome_iff_exists.mp built
  cases wasRunning with
  | false => simp [resume, Outcome.ok, Dispatcher.isRunning, stopped]
  | true =>
    simp [resume, start, Dispatcher.isRunning, stopped, installed, newMerger, Merger.into_starts,
      Outcome.ok, Outcome.after, withWorkers]

variable {station : Station} {deployment : Deployment} {tree : RoutingTree}

/-- A reload only succeeds if its hosts pass the checks: they may replace the present ones, and they
are a tree that has this host. -/
theorem reload_admits (succeeded : (station.reconfigure deployment).result = .ok ()) :
    ∃ tree, station.Admits deployment tree := by
  cases check : station.checkReload deployment.hosts with
  | error failure =>
    have refused : (Outcome.check station (station.checkReload deployment.hosts)).result =
        .error failure := check
    cases (Outcome.andThen_of_error refused).1.symm.trans succeeded
  | ok =>
    have checked : (Outcome.check station (station.checkReload deployment.hosts)).result =
        .ok () := check
    cases parse : RoutingTree.ofHosts deployment.hosts.hosts with
    | error failure =>
      have refused := (parse_refused station parse).1
      have ended : (station.reconfigure deployment).result = .error failure :=
        (Outcome.andThen_of_ok checked).1.trans (Outcome.andThen_of_error refused).1
      cases ended.symm.trans succeeded
    | ok tree =>
      have rest := (reconfigure_checked check parse).1.symm.trans succeeded
      cases build : (station.pause.state.build deployment.hosts).result with
      | error failure => cases (Outcome.andThen_of_error build).1.symm.trans rest
      | ok =>
        obtain ⟨known, accepted, described, _⟩ := build_succeeded build
        cases parse.symm.trans accepted
        exact ⟨tree, check, parse, (keeps_pause station).host ▸ described⟩

/-- And then it has put the tree in place and replaced the modules, all of which could be
registered, before it starts the dispatcher again. -/
theorem reload_ends (admits : station.Admits deployment tree)
    (succeeded : (station.reconfigure deployment).result = .ok ()) :
    Switchboard.Registrable (deployment.modulesOn station.desk.host) ∧
      (station.reconfigure deployment).state =
        ((station.halfway deployment tree).resume station.dispatcher.isRunning).state := by
  obtain ⟨result, state⟩ := proceed_installed admits
  rw [result] at succeeded
  rw [state, halfway]
  generalize place : station.pause.state.install deployment.hosts tree
    (tree.descendants station.desk.host) = installed at succeeded ⊢
  have host : installed.desk.host = station.desk.host := by
    rw [← place]
    exact (keeps_pause station).host
  cases replaced : (installed.replaceModules deployment).result with
  | error failure => cases (Outcome.andThen_of_error replaced).1.symm.trans succeeded
  | ok =>
    have registrable := (replace_succeeds_iff installed deployment).mp replaced
    rw [host] at registrable
    refine ⟨registrable, ?_⟩
    rw [(Outcome.andThen_of_ok replaced).2]
    rfl

/-- The same deployment passes on a station that was just created, where there are no hosts that it
could contradict. -/
theorem fresh_admits {host : String} (admits : station.Admits deployment tree)
    (named : station.desk.host = host) : (create host).Admits deployment tree :=
  ⟨rfl, admits.accepted, named ▸ admits.described⟩

/-- With the modules replaced a station is the heir, as it was when it stopped, of the
station that was just created. -/
theorem halfway_inherits {host : String} (named : station.desk.host = host) :
    station.halfway deployment tree =
      ((create host).halfway deployment tree).inheriting station.pause.state := by
  have paused : station.pause.state.desk.host = host := (keeps_pause station).host.trans named
  have stopped := (pause_stops station).2
  have bare : (create host).desk.board.registry = .empty := rfl
  have board : (station.pause.state.desk.board.clear.registerAll (deployment.modulesOn host)).state =
      ((create host).desk.board.clear.registerAll
        (deployment.modulesOn host)).state.inheriting station.pause.state.desk.board := by
    rw [Switchboard.clear_inheriting (create host).desk.board _ bare,
      Switchboard.register_all_inheriting]
    rfl
  have idle : (create host).pause.state = create host := rfl
  have own : (create host).desk.host = host := rfl
  simp only [halfway, replaceModules, withBoard, Outcome.within, install, inheriting, idle, own,
    named, paused, stopped, board]
  rfl

/-- A deployment that a reload puts in place, whatever happened before, is accepted by a
station that was just created as well. The reloaded station is set up like that one, with no
type agreed on; and it is its heir, started again if it was running. What it takes over from
before, it takes from the station at the time when the modules are cleared. At that time
nothing but the queues, the counters and the workers is different from before the reload.

Proof: what makes a reload succeed is an admitted tree and registrable modules. Both are about the
deployment and the name of the host, apart from the comparison with an earlier list of hosts, of
which a new station has none. So the fresh reload succeeds too, and both stations end halfway before
the dispatcher is resumed. `halfway_inherits` goes through the registration step by step and finds
that each does on the station with a past what it does on the fresh one. -/
theorem reload_equals_fresh_start (host : String) (calls : List Call) (deployment : Deployment)
    (succeeded : ((after host calls).reconfigure deployment).result = .ok ()) :
    let cleared := (after host calls).pause.state
    let reloaded := ((after host calls).reconfigure deployment).state
    let fresh := (create host).reconfigure deployment
    (fresh.result = .ok () ∧ reloaded.SetUpAlike fresh.state ∧ reloaded.desk.board.channels.Open) ∧
      (reloaded = ((fresh.state.inheriting cleared).resume
          (after host calls).dispatcher.isRunning).state ∧
        reloaded.dispatcher.isRunning = (after host calls).dispatcher.isRunning) ∧
      ((after host calls).desk.Settles cleared.desk ∧
        cleared.dispatcher.inbound = (after host calls).dispatcher.inbound ∧
        ((after host calls).dispatcher.isRunning = false → cleared = after host calls)) := by
  intro cleared reloaded fresh
  have named := after_host host calls
  obtain ⟨tree, admits⟩ := reload_admits succeeded
  obtain ⟨registrable, ends⟩ := reload_ends admits succeeded
  have freshAdmits := fresh_admits admits named
  have freshApplied : fresh.result = .ok () := reload_applied freshAdmits (named ▸ registrable)
  have freshEnds : fresh.state = (create host).halfway deployment tree :=
    (reload_ends freshAdmits freshApplied).2
  have heir : reloaded = ((fresh.state.inheriting cleared).resume
      (after host calls).dispatcher.isRunning).state := by
    rw [freshEnds, ← halfway_inherits named]
    exact ends
  have sameHost : cleared.desk.host = fresh.state.desk.host :=
    ((keeps_pause _).host.trans named).trans (reconfigure_host (create host) deployment).symm
  have alike : reloaded.SetUpAlike fresh.state := by
    rw [heir]
    exact resume_alike (inheriting_alike fresh.state cleared sameHost) _
  have opened : fresh.state.desk.board.channels.Open := by
    rw [freshEnds]
    exact Switchboard.register_all_open _ fun name => rfl
  refine ⟨⟨freshApplied, alike, alike.channels ▸ opened⟩, ⟨heir, ?_⟩,
    (keeps_pause _).desk, (keeps_pause _).inbound, fun idle => ?_⟩
  · have stopped : (fresh.state.inheriting cleared).dispatcher.workers = none := by
      change fresh.state.dispatcher.workers = none
      rw [freshEnds]
      exact halfway_stopped ..
    have built : (fresh.state.inheriting cleared).dispatcher.book.tree.isSome = true := by
      change fresh.state.dispatcher.book.tree.isSome = true
      rw [freshEnds]
      rfl
    rw [heir]
    exact resume_running stopped built _
  · simp [cleared, pause, idle, Outcome.ok]

/-- A running host with one module is given another one: it runs on, set up as if it had never
had the first one. -/
theorem running_host_starts_afresh :
    (runningAlone.reconfigure (aloneWith ["B"])).result = .ok () ∧
      ((create "S").reconfigure (aloneWith ["B"])).result = .ok () ∧
      (runningAlone.reconfigure (aloneWith ["B"])).state.SetUpAlike
        ((create "S").reconfigure (aloneWith ["B"])).state ∧
      (runningAlone.reconfigure (aloneWith ["B"])).state.dispatcher.isRunning = true := by
  have succeeded : (runningAlone.reconfigure (aloneWith ["B"])).result = .ok () := rfl
  obtain ⟨⟨applied, alike, _⟩, ⟨_, running⟩, _⟩ := reload_equals_fresh_start "S"
    [.reconfigure (aloneWith ["A"]), .start] (aloneWith ["B"]) succeeded
  exact ⟨succeeded, applied, alike, running⟩

/-- All that happens is that a user connects to the host, before any deployment is put in place. -/
def withVisitor : List Call :=
  let station := create "S"
  let connected := station.desk.users.connect station.queues ⟨"C", "u"⟩ "device"
  [.elsewhere station.desk.board connected.state.1 connected.state.2]

/-- Whether it runs, the modules with their runtimes, the contents of the runtimes' queues and
the counters are not all that survives a reload: users stay connected. -/
theorem visitors_survive :
    ¬ ∀ (host : String) (calls others : List Call) (deployment : Deployment),
      ((after host calls).reconfigure deployment).result = .ok () →
      ((after host others).reconfigure deployment).result = .ok () →
      (after host calls).dispatcher = (after host others).dispatcher →
      (after host calls).desk.board.registry = (after host others).desk.board.registry →
      (∀ queue ∈ (after host calls).desk.board.registry.runtimes.values,
        (after host calls).queues.read queue = (after host others).queues.read queue) →
      ((after host calls).reconfigure deployment).state.desk.users.hosts =
        ((after host others).reconfigure deployment).state.desk.users.hosts := by
  intro forgotten
  have runtimeless : ∀ queue ∈ (after "S" withVisitor).desk.board.registry.runtimes.values,
      (after "S" withVisitor).queues.read queue = (after "S" []).queues.read queue := by
    intro queue member
    cases member
  have same := forgotten "S" withVisitor [] (aloneWith []) rfl rfl rfl rfl runtimeless
  have visited : ((after "S" withVisitor).reconfigure (aloneWith [])).state.desk.users.hosts =
    ["C"] := rfl
  have bare : ((after "S" []).reconfigure (aloneWith [])).state.desk.users.hosts = [] := rfl
  rw [visited, bare] at same
  cases same

end Station

end RelayTree
