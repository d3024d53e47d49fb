import RelayTree.Dispatcher.Loop
import RelayTree.Dispatcher.Lifecycle

/-!
# What routing leaves alone

Passing messages on, starting, stopping and the steps of the workers change counters,
queues and stages. Of what a dispatcher knows about the tree they change one thing
only: a downward look-up may be remembered. And of what is on the desk of the host they
change one thing only: a publication may settle the type of its channel. `Keeps` says
this for every operation except a build, and composes, so that nothing below it has to
be opened again.
-/

namespace RelayTree

namespace RouteBook

/-- The tree stays, and an answer that is remembered now was remembered before or is
the one that the tree gives. -/
structure Grows (current : String) (before after : RouteBook) : Prop where
  tree : after.tree = before.tree
  answers : ∀ {target : String} {answer : Option (List String)},
    after.cache.get? target = some answer →
      before.cache.get? target = some answer ∨
        ∃ tree, before.tree = some tree ∧ answer = pathDown? tree current target

variable {current : String} {before middle after : RouteBook}

/-- A book that nothing happened to has grown, by nothing: its tree is the same, and its look-ups
are still what they were. -/
theorem grows_refl (book : RouteBook) : Grows current book book := ⟨rfl, .inl⟩

/-- Growth composes. Once the second stretch has filled a cache that the first one left alone, the
two together filled it from the same tree. -/
theorem grows_trans (first : Grows current before middle) (second : Grows current middle after) :
    Grows current before after := by
  refine ⟨second.tree.trans first.tree, fun found => ?_⟩
  rcases second.answers found with earlier | ⟨tree, installed, answer⟩
  · exact first.answers earlier
  · exact .inr ⟨tree, first.tree ▸ installed, answer⟩

/-- Counting a message touches the counters of a strategy and not the tree that routes are looked up
in. -/
@[simp] theorem count_tree (book : RouteBook) (strategy : Strategy)
    (change : Counters → Counters) : (book.count strategy change).tree = book.tree := by
  cases strategy <;> rfl

/-- Counting a message does not touch the remembered look-ups either, so a filled cache stays filled
and an empty one stays empty. -/
@[simp] theorem count_cache (book : RouteBook) (strategy : Strategy)
    (change : Counters → Counters) : (book.count strategy change).cache = book.cache := by
  cases strategy <;> rfl

/-- Counting is no change of knowledge: what a book knows is its tree and its cache, and the
counters are beside both. -/
theorem grows_count (book : RouteBook) (strategy : Strategy) (change : Counters → Counters) :
    Grows current book (book.count strategy change) :=
  ⟨count_tree .., fun found => .inl (count_cache .. ▸ found)⟩

/-- A look-up remembers what the tree says, and only where nothing was remembered. So every new
answer comes from the tree that is installed at that moment. -/
theorem grows_resolve (book : RouteBook) (target : String) :
    Grows current book (book.resolveDown current target).2 := by
  unfold resolveDown
  split
  · exact grows_count book .downward Counters.addHit
  · split
    · exact grows_count book .downward Counters.addMiss
    · rename_i tree installed
      refine ⟨by simp, fun {other answer} found => ?_⟩
      simp only [count_cache, SortedMap.get?_insert] at found
      split at found
      · rename_i same
        exact .inr ⟨tree, installed, by rw [same, Option.some.inj found]⟩
      · exact .inl found

end RouteBook

/-- Nothing on the desk has changed but the types that channels agreed on. -/
def Desk.Settles (before after : Desk) : Prop :=
  ∃ channels, after = { before with board := { before.board with channels := channels } }

namespace Desk

variable {before middle after : Desk}

/-- A desk that nothing happened to has settled, with the channels it has. -/
theorem settles_refl (desk : Desk) : Settles desk desk := ⟨desk.board.channels, rfl⟩

/-- Settling composes: what is different afterwards is still the channels and nothing else, so
users, aliases, parties and the way up to the server are the ones of the beginning. -/
theorem settles_trans (first : Settles before middle) (second : Settles middle after) :
    Settles before after := by
  obtain ⟨_, rfl⟩ := first
  obtain ⟨channels, rfl⟩ := second
  exact ⟨channels, rfl⟩

end Desk

/-! ## The strategies -/

namespace Exchange

/-- The desk at most settles, and its book only grows. This is what all three strategies have in
common whatever the message is and wherever it is meant to go. -/
structure Keeps (before after : Exchange) : Prop where
  desk : before.desk.Settles after.desk
  book : before.book.Grows before.desk.host after.book

variable {before middle after : Exchange}

/-- The host of a desk is none of the things that settle, so the name that routes are looked up
under never changes. -/
theorem Keeps.host (keeps : Keeps before after) : after.desk.host = before.desk.host := by
  obtain ⟨channels, same⟩ := keeps.desk
  rw [same]

/-- Keeping composes. The growth of the second book is read at the host of the first desk, which is
why the equality of the two hosts is needed here. -/
theorem keeps_trans (first : Keeps before middle) (second : Keeps middle after) :
    Keeps before after :=
  ⟨Desk.settles_trans first.desk second.desk,
    RouteBook.grows_trans first.book (first.host ▸ second.book)⟩

/-- A change of queues and counters is kept whatever the queues are: neither the desk nor what the
book knows is involved. -/
theorem keeps_count (exchange : Exchange) (queues : QueueStore) (strategy : Strategy)
    (change : Counters → Counters) :
    Keeps exchange (Exchange.count { exchange with queues := queues } strategy change) :=
  ⟨Desk.settles_refl _, RouteBook.grows_count ..⟩

/-- Whether the queue for a message was open or closed, the answer costs a counter and perhaps a
copy in a queue, and nothing that is kept here. -/
theorem keeps_queued (exchange : Exchange) (strategy : Strategy) (taken : Option QueueStore)
    (closed : Event) : Keeps exchange (exchange.queued strategy taken closed).state := by
  cases taken with
  | none => exact keeps_count exchange exchange.queues ..
  | some queues => exact keeps_count exchange queues ..

/-- What was looked up makes a difference to the book only. The lemma takes a look-up apart into its
answer and the book it leaves, so that the branches of a route can be read one by one. -/
theorem resolve_answered {exchange : Exchange} {target : String} {answer : Option (List String)}
    (found : (exchange.resolveDown target).1 = answer) :
    ∃ book, exchange.resolveDown target = (answer, { exchange with book := book }) :=
  ⟨_, Prod.ext found rfl⟩

/-- A downward look-up is the only place where a book grows. It either finds a cache, or has no tree
to fill one from, or fills it from the tree. -/
theorem keeps_resolve (exchange : Exchange) (target : String) :
    Keeps exchange (exchange.resolveDown target).2 :=
  ⟨Desk.settles_refl _, RouteBook.grows_resolve ..⟩

/-- Delivery on the own host goes to the control queue, to a runtime or to the subscribers of a
channel. The third is where a desk settles: a publication may fix the type of its channel. -/
theorem keeps_deliver (exchange : Exchange) (message : Message) :
    Keeps exchange (exchange.deliverOnHost message).state := by
  unfold deliverOnHost
  split
  · unfold deliverControl
    split
    · exact keeps_count exchange _ ..
    · exact keeps_count exchange exchange.queues ..
  · split
    · -- The channels of the board are all that a publication changes on the desk.
      have settled : exchange.desk.Settles { exchange.desk with
          board := (exchange.desk.board.publish exchange.queues message).state.1 } := by
        unfold Switchboard.publish
        split
        · exact Desk.settles_refl _
        · exact ⟨_, rfl⟩
      unfold deliverPublication
      dsimp only
      split
      · exact ⟨settled, RouteBook.grows_count exchange.book .onHost Counters.addRouted⟩
      · exact ⟨settled, RouteBook.grows_count exchange.book .onHost Counters.addDropped⟩
    · unfold deliverToModule
      split
      · exact keeps_count exchange exchange.queues ..
      · exact keeps_queued ..

/-- Sending upward asks the uplink for its queue, which is no part of the book and no table of the
desk. -/
theorem keeps_up (exchange : Exchange) (message : Message) :
    Keeps exchange (exchange.sendUpward message).state := by
  unfold sendUpward
  split
  · exact keeps_queued ..
  · exact keeps_count exchange exchange.queues ..

/-- Sending to the users of a host reads their queues from the directory and writes only what those
queues hold. -/
theorem keeps_to_users (exchange : Exchange) (message : Message) :
    Keeps exchange (exchange.sendToUsers message).state := by
  unfold sendToUsers
  split
  · exact keeps_count exchange exchange.queues ..
  · exact keeps_count exchange _ ..

/-- Sending by the next hop asks only which queue leads to the hop, and says whether it took the
message. -/
theorem keeps_via (exchange : Exchange) (message : Message) (hop : String) :
    Keeps exchange (exchange.sendVia message hop).state := by
  unfold sendVia
  split
  · exact keeps_count exchange exchange.queues ..
  · exact keeps_count exchange exchange.queues ..
  · exact keeps_queued ..
  · exact keeps_count exchange exchange.queues ..

/-- Sending downward is a look-up followed by one of three ends: copies for the users of the target,
the queue of the next hop, or a refusal. Each of them keeps, and so does the look-up before it. -/
theorem keeps_down (exchange : Exchange) (message : Message) :
    Keeps exchange (exchange.sendDownward message).state := by
  have resolved := keeps_resolve exchange message.target.host
  unfold sendDownward
  split
  · rename_i found
    rw [found] at resolved
    exact keeps_trans resolved (keeps_to_users ..)
  · rename_i found
    rw [found] at resolved
    exact keeps_trans resolved (keeps_via ..)
  · rename_i found
    rw [found] at resolved
    exact keeps_trans resolved (keeps_count _ _ ..)

/-- Every strategy keeps the host and only lets the book grow: a message can be passed on any number
of times and the dispatcher knows no more about the tree than a look-up would have told it. -/
theorem keeps_route (exchange : Exchange) (strategy : Strategy) (message : Message) :
    Keeps exchange (exchange.route strategy message).state := by
  cases strategy with
  | onHost => exact keeps_deliver exchange message
  | upward => exact keeps_up exchange message
  | downward => exact keeps_down exchange message

/-- Asking whether a host can be reached may fill the cache as routing does. It never settles a
channel, since nothing is delivered. -/
theorem keeps_reaches (exchange : Exchange) (strategy : Strategy) (host : String) :
    Keeps exchange (exchange.reaches strategy host).2 := by
  cases strategy with
  | onHost => exact ⟨Desk.settles_refl _, RouteBook.grows_refl _⟩
  | upward => exact ⟨Desk.settles_refl _, RouteBook.grows_refl _⟩
  | downward => exact keeps_resolve exchange host

end Exchange

/-! ## The dispatcher -/

namespace Station

/-- The desk at most settles, the inbound queue, the table and the remembered hosts stay,
the book only grows, and a dispatcher that runs afterwards ran before or has a tree. -/
structure Keeps (before after : Station) : Prop where
  desk : before.desk.Settles after.desk
  inbound : after.dispatcher.inbound = before.dispatcher.inbound
  table : after.dispatcher.table = before.dispatcher.table
  roster : after.dispatcher.roster = before.dispatcher.roster
  book : before.dispatcher.book.Grows before.desk.host after.dispatcher.book
  running : after.dispatcher.isRunning = true →
    before.dispatcher.isRunning = true ∨ before.dispatcher.book.tree.isSome = true

variable {before middle after : Station}

/-- The host of a station is the host of its desk, so it stays for as long as the station keeps. -/
theorem Keeps.host (keeps : Keeps before after) : after.desk.host = before.desk.host := by
  obtain ⟨channels, same⟩ := keeps.desk
  rw [same]

/-- Keeping composes from operation to operation. A dispatcher that runs at the end ran in the
middle or was built by then, and each of the two goes back to the beginning. -/
theorem keeps_trans (first : Keeps before middle) (second : Keeps middle after) :
    Keeps before after where
  desk := Desk.settles_trans first.desk second.desk
  inbound := second.inbound.trans first.inbound
  table := second.table.trans first.table
  roster := second.roster.trans first.roster
  book := RouteBook.grows_trans first.book (first.host ▸ second.book)
  running := fun runs => by
    rcases second.running runs with ran | built
    · exact first.running ran
    · exact .inr (first.book.tree ▸ built)

/-- An operation that is refused before it does anything leaves the station as it is, which is one
way of keeping it. -/
theorem keeps_refl (station : Station) : Keeps station station :=
  ⟨Desk.settles_refl _, rfl, rfl, rfl, RouteBook.grows_refl _, .inl⟩

/-- Queues are no part of what a dispatcher knows: pushing, taking and closing outside of a route
can be done at will. -/
theorem keeps_queues (station : Station) (queues : QueueStore) :
    Keeps station { station with queues := queues } :=
  ⟨Desk.settles_refl _, rfl, rfl, rfl, RouteBook.grows_refl _, .inl⟩

/-- Setting workers is kept where there are some only on a running dispatcher, which is what the
hypothesis says. Every use of it either takes workers away or moves those that run on to their next
stage. -/
theorem keeps_workers (station : Station) (workers : Option Workers)
    (ran : workers.isSome = true → station.dispatcher.isRunning = true) :
    Keeps station (station.withWorkers workers) :=
  ⟨Desk.settles_refl _, rfl, rfl, rfl, RouteBook.grows_refl _, fun runs => .inl (ran runs)⟩

/-- Routing a message asks the exchange once a strategy is selected, and that keeps by the lemma for
every strategy. A message that no strategy is selected for costs a counter. -/
theorem keeps_route (station : Station) (message : Message) :
    Keeps station (station.route message).state := by
  unfold route
  split
  · exact ⟨Desk.settles_refl _, rfl, rfl, rfl, RouteBook.grows_refl _, .inl⟩
  · rename_i strategy _
    have handled := Exchange.keeps_route station.exchange strategy message
    exact ⟨handled.desk, rfl, rfl, rfl, handled.book, .inl⟩

/-- Routing one message after another keeps because each of them does, by induction on the messages
that are left to pass on. -/
theorem keeps_route_each (station : Station) (messages : List Message) :
    Keeps station (station.routeEach messages) := by
  induction messages generalizing station with
  | nil => exact keeps_refl station
  | cons message rest inductionHypothesis =>
    exact keeps_trans (keeps_route station message) (inductionHypothesis _)

/-- Asking a station whether it can reach a host is asking its exchange by the strategy in the
table. For a host that the table does not know nothing is asked. -/
theorem keeps_reach (station : Station) (host : String) :
    Keeps station (station.canReach host).2 := by
  unfold canReach
  split
  · exact keeps_refl station
  · rename_i strategy _
    have asked := Exchange.keeps_reaches station.exchange strategy host
    exact ⟨asked.desk, rfl, rfl, rfl, asked.book, .inl⟩

/-- A step of the loop takes one message from the inbound queue, routes the one it holds, or finds
the queue closed and empty and ends. Only the second is more than a change of queues and stages. -/
theorem keeps_loop (station : Station) : Keeps station station.loopStep := by
  unfold loopStep
  split
  · exact keeps_refl station
  · rename_i workers running
    have ran : ∀ changed : Workers, (some changed).isSome = true →
        station.dispatcher.isRunning = true := fun _ _ => by simp [Dispatcher.isRunning, running]
    split
    · exact keeps_refl station
    · exact keeps_trans (keeps_workers station _ (ran _)) (keeps_route ..)
    · split
      · exact keeps_refl station
      · exact keeps_workers station _ (ran _)
      · exact keeps_trans (keeps_workers station _ (ran _)) (keeps_queues ..)

/-- A step of the merger is one of a forwarder: it moves a message from a source to the inbound
queue, so that only queues and the stage of the forwarder change. -/
theorem keeps_merge (station : Station) (index : Nat) :
    Keeps station (station.mergeStep index) := by
  unfold mergeStep
  split
  · exact keeps_refl station
  · rename_i workers running
    have ran : station.dispatcher.isRunning = true := by simp [Dispatcher.isRunning, running]
    exact keeps_trans (keeps_workers station _ fun _ => ran) (keeps_queues ..)

/-- A dispatcher starts only with a tree, which is what keeping asks for when it runs afterwards and
did not before. Where the start is refused, nothing changes. -/
theorem keeps_start (station : Station) : Keeps station station.start.state := by
  unfold start
  split
  · exact keeps_refl station
  · split
    · exact keeps_refl station
    · rename_i built
      have installed : station.dispatcher.book.tree.isSome = true := by
        simpa [Option.isSome_iff_ne_none] using built
      split
      · exact keeps_refl station
      · exact ⟨Desk.settles_refl _, rfl, rfl, rfl, RouteBook.grows_refl _, fun _ => .inr installed⟩

/-- Stopping the merger ends its forwarders and changes queues at most. It is asked of a station
whose workers run, so a dispatcher that runs afterwards ran before. -/
theorem keeps_stop_merger (station : Station) (workers : Workers)
    (ran : station.dispatcher.isRunning = true) : Keeps station (station.stopMerger workers) := by
  unfold stopMerger
  split
  · exact keeps_trans (keeps_workers station _ fun _ => ran) (keeps_queues ..)
  · exact keeps_refl station

/-- Finishing the loop takes the workers away, drains the inbound queue, and routes the message that
the loop held before those that were left. -/
theorem keeps_finish (station : Station) (loop : LoopStage) :
    Keeps station (station.finishLoop loop) := by
  have ended : Keeps station (station.withWorkers none) :=
    keeps_workers station none fun none => nomatch none
  cases loop with
  | done => exact ended
  | waiting => exact keeps_trans (keeps_trans ended (keeps_queues ..)) (keeps_route_each ..)
  | holding message => exact keeps_trans (keeps_trans ended (keeps_queues ..)) (keeps_route_each ..)

/-- Stopping is the end of the merger, the closing of the inbound queue, the end of the loop, and
the opening of the queue for the next start. Each of them keeps. -/
theorem keeps_stop (station : Station) : Keeps station station.stop.state := by
  unfold stop
  split
  · exact keeps_refl station
  · rename_i workers running
    have ran : station.dispatcher.isRunning = true := by simp [Dispatcher.isRunning, running]
    have closed : Keeps station (station.stopMerger workers).closeInbound :=
      keeps_trans (keeps_stop_merger station workers ran) (keeps_queues ..)
    exact keeps_trans (keeps_trans closed (keeps_finish ..)) (keeps_queues ..)

end Station

end RelayTree
