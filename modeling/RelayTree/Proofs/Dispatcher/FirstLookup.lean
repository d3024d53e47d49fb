import RelayTree.Proofs.Dispatcher.Downward

/-!
# The first look-up of a host

The strategy that leads down looks a path up once. What it found then it goes by from there on,
even if another tree was installed since, until it is told to forget. So what it remembers can be
told from what was done with it: `Known` says that a host was looked up while there was a tree, with
nothing forgotten since, and `FirstSeen` which tree it was the first time. A host without a path is
remembered as well, but nothing is as long as there is no tree.

`Recalls` ties tree and remembered paths to this history. Every act keeps it.
-/

namespace RelayTree

namespace Exchange

/-- What begins with looking a host up: the question whether it is reached, and a message for it. -/
inductive Lookup where
  | ask (target : String)
  | send (message : Message)

/-- The host that is looked up, which for a message is the host it is meant for. -/
def Lookup.target : Lookup → String
  | .ask target => target
  | .send message => message.target.host

/-- What can be done with the strategy that leads down, including what others do at the desk in the
meantime. -/
inductive Act where
  | lookup (lookup : Lookup)
  /-- Install a tree. -/
  | install (tree : RoutingTree)
  /-- Forget the remembered paths. -/
  | forget
  /-- Others do something at the desk. -/
  | errand (errand : Errand)

/-- What the strategy works on after an act, whatever came of it. -/
def perform (exchange : Exchange) : Act → Exchange
  | .lookup (.ask target) => (exchange.reaches .downward target).2
  | .lookup (.send message) => (exchange.route .downward message).state
  | .install tree => { exchange with book := exchange.book.install tree }
  | .forget => exchange.forgetPaths
  | .errand errand =>
    let (desk, queues) := exchange.desk.run exchange.queues errand
    { exchange with desk := desk, queues := queues }

/-- What it works on after acts in order, where there was no tree at first. The desk and its queues
are arbitrary, as they do not enter into what is remembered. -/
def performed (desk : Desk) (queues : QueueStore) (acts : List Act) : Exchange :=
  acts.foldl perform ⟨desk, queues, .empty⟩

/-- The tree that was installed last, if any was. Forgetting paths does not take a tree away, so
there is one from the first installation on. -/
def treeAfter (acts : List Act) : Option RoutingTree :=
  acts.foldl (fun last act => match act with | .install tree => some tree | _ => last) none

/-- A host was looked up, after acts with some property, and nothing was forgotten since. The
property is what the two notions below differ in; all that the proofs need of histories is shown for
any property. -/
def SeenAfter (earlier : List Act → Prop) (acts : List Act) (target : String) : Prop :=
  ∃ before lookup after, acts = before ++ .lookup lookup :: after ∧ lookup.target = target ∧
    earlier before ∧ .forget ∉ after

/-- A host was looked up while there was a tree, and nothing was forgotten since. Just these hosts
have a remembered answer, which may be that there is no path. -/
def Known : List Act → String → Prop := SeenAfter fun before => (treeAfter before).isSome = true

/-- The tree when this happened for the first time. It is the one that all later answers for this
host come from. -/
def FirstSeen (tree : RoutingTree) (acts : List Act) (target : String) : Prop :=
  SeenAfter (fun before => treeAfter before = some tree ∧ ¬ Known before target) acts target

variable {acts : List Act} {act : Act} {target : String} {tree : RoutingTree}
  {earlier : List Act → Prop}

/-- Only an installation changes the tree that was installed last. -/
theorem tree_after_append (acts : List Act) (act : Act) :
    treeAfter (acts ++ [act]) =
      match act with | .install tree => some tree | _ => treeAfter acts := by
  simp [treeAfter]

/-- A host was looked up by the last act, or before it, with nothing forgotten by the last act. -/
theorem seen_append :
    SeenAfter earlier (acts ++ [act]) target ↔
      (act ≠ .forget ∧ SeenAfter earlier acts target) ∨
        ∃ lookup, act = .lookup lookup ∧ lookup.target = target ∧ earlier acts := by
  constructor
  · rintro ⟨before, lookup, after, split, same, property, kept⟩
    rcases List.eq_nil_or_concat after with rfl | ⟨rest, last, rfl⟩
    · obtain ⟨rfl, rfl⟩ := List.append_inj' split rfl |>.imp_right List.singleton_inj.mp
      exact .inr ⟨lookup, rfl, same, property⟩
    · rw [List.concat_eq_append, ← List.cons_append, ← List.append_assoc] at split
      obtain ⟨rfl, rfl⟩ := List.append_inj' split rfl |>.imp_right List.singleton_inj.mp
      simp only [List.concat_eq_append, List.mem_append, List.mem_singleton, not_or] at kept
      exact .inl ⟨Ne.symm kept.2, before, lookup, rest, rfl, same, property, kept.1⟩
  · rintro (⟨keeps, before, lookup, after, rfl, same, property, kept⟩ |
      ⟨lookup, rfl, same, property⟩)
    · refine ⟨before, lookup, after ++ [act], by simp, same, property, ?_⟩
      simp [kept, Ne.symm keeps]
    · exact ⟨acts, lookup, [], rfl, same, property, List.not_mem_nil⟩

/-- A look-up is the first one of its host if the host was not known. -/
theorem first_lookup {lookup : Lookup} :
    FirstSeen tree (acts ++ [.lookup lookup]) target ↔ FirstSeen tree acts target ∨
      lookup.target = target ∧ treeAfter acts = some tree ∧ ¬ Known acts target := by
  simp [FirstSeen, seen_append]

/-- A weaker condition on what came before the look-up is met where a stronger one is. -/
theorem seen_imp {later : List Act → Prop} (implies : ∀ before, earlier before → later before)
    (seen : SeenAfter earlier acts target) : SeenAfter later acts target := by
  obtain ⟨before, lookup, after, split, same, property, kept⟩ := seen
  exact ⟨before, lookup, after, split, same, implies before property, kept⟩

/-- Before the first act no host was looked up. -/
theorem not_seen_nil : ¬ SeenAfter earlier [] target := by
  rintro ⟨before, lookup, after, split, _⟩
  simp at split

/-- No tree is ever taken away, so where a host is known there still is a tree. -/
theorem tree_of_known (known : Known acts target) : (treeAfter acts).isSome = true := by
  induction acts using List.reverseRecOn with
  | nil => exact absurd known not_seen_nil
  | append_singleton acts act inductionHypothesis =>
    rw [tree_after_append]
    split
    · rfl
    · rcases seen_append.mp known with ⟨_, before⟩ | ⟨_, _, _, present⟩
      · exact inductionHypothesis before
      · exact present

/-- What is known was looked up for a first time. The induction goes from the end of the history,
where the last look-up is or is not the first. -/
theorem known_iff_first : Known acts target ↔ ∃ tree, FirstSeen tree acts target := by
  constructor
  · intro known
    induction acts using List.reverseRecOn with
    | nil => exact absurd known not_seen_nil
    | append_singleton acts act inductionHypothesis =>
      by_cases before : Known acts target
      · obtain ⟨tree, first⟩ := inductionHypothesis before
        refine ⟨tree, seen_append.mpr (.inl ⟨?_, first⟩)⟩
        rcases seen_append.mp known with ⟨keeps, _⟩ | ⟨lookup, rfl, _⟩
        · exact keeps
        · simp
      · rcases seen_append.mp known with ⟨_, already⟩ | ⟨lookup, rfl, same, present⟩
        · exact absurd already before
        · obtain ⟨tree, installed⟩ := Option.isSome_iff_exists.mp present
          exact ⟨tree, seen_append.mpr (.inr ⟨lookup, rfl, same, installed, before⟩)⟩
  · rintro ⟨tree, first⟩
    refine seen_imp (fun before found => ?_) first
    rw [found.1, Option.isSome_some]

end Exchange

/-! ## What is remembered -/

/-- A look-up remembers the path that it has found in the tree, and keeps what was remembered
before. -/
theorem RouteBook.resolve_remembers (book : RouteBook) (current asked target : String)
    (answer : Option (List String)) :
    (book.resolveDown current asked).2.cache.get? target = some answer ↔
      book.cache.get? target = some answer ∨
        asked = target ∧ book.cache.get? target = none ∧
          ∃ tree, book.tree = some tree ∧ answer = pathDown? tree current target := by
  unfold resolveDown
  cases remembered : book.cache.get? asked with
  | some path =>
    simp only [count_cache]
    constructor
    · exact .inl
    · rintro (found | ⟨rfl, unknown, _⟩)
      · exact found
      · cases remembered.symm.trans unknown
  | none =>
    cases installed : book.tree with
    | none => simp
    | some tree =>
      simp only [count_cache, SortedMap.get?_insert]
      by_cases same : target = asked
      · subst same
        simp [remembered, eq_comm]
      · simp [same, Ne.symm same]

/-- A look-up counts a hit for a remembered host, and a miss for any other one. -/
theorem RouteBook.resolve_counts (book : RouteBook) (current target : String) :
    (book.resolveDown current target).2.downward =
      if book.cache.contains target then book.downward.addHit else book.downward.addMiss := by
  unfold resolveDown SortedMap.contains
  cases book.cache.get? target with
  | some answer => rfl
  | none => cases book.tree <;> rfl

/-- What comes of a message is counted apart from the look-ups, so hits and misses can be followed
past it. -/
theorem Station.tally_looks (result : Except Failure Delivery) (counters : Counters) :
    (tally result counters).cacheHits = counters.cacheHits ∧
      (tally result counters).cacheMisses = counters.cacheMisses := by
  match result with
  | .ok .forwarded => exact ⟨rfl, rfl⟩
  | .ok .dropped => exact ⟨rfl, rfl⟩
  | .error _ => exact ⟨rfl, rfl⟩

namespace Exchange

variable {exchange : Exchange} {host : String} {acts : List Act}

/-- Tree and remembered paths are those that the history tells. The history knows nothing of caches,
so this is where the two meet. -/
structure Recalls (host : String) (acts : List Act) (exchange : Exchange) : Prop where
  named : exchange.desk.host = host
  tree : exchange.book.tree = treeAfter acts
  cached : ∀ target answer, exchange.book.cache.get? target = some answer ↔
    ∃ tree, FirstSeen tree acts target ∧ answer = RouteBook.pathDown? tree host target

/-- The hosts with a remembered answer are the known ones. The answer may be that there is no
path. -/
theorem recalls_known (recalls : Recalls host acts exchange) (target : String) :
    exchange.book.cache.contains target = true ↔ Known acts target := by
  simp only [SortedMap.contains, Option.isSome_iff_exists, recalls.cached, known_iff_first]
  constructor
  · rintro ⟨_, tree, first, _⟩
    exact ⟨tree, first⟩
  · rintro ⟨tree, first⟩
    exact ⟨_, tree, first, rfl⟩

/-- Beside what the look-up does, sending a message only counts what came of it. -/
theorem lookup_book (exchange : Exchange) (lookup : Lookup) :
    ∃ change, ((exchange.perform (.lookup lookup)).book =
        (exchange.book.resolveDown exchange.desk.host lookup.target).2.count .downward change ∧
      ∀ counters, (change counters).cacheHits = counters.cacheHits ∧
        (change counters).cacheMisses = counters.cacheMisses) := by
  cases lookup with
  | ask target => exact ⟨id, rfl, fun _ => ⟨rfl, rfl⟩⟩
  | send message =>
    exact ⟨_, (down_passes exchange message).book, Station.tally_looks _⟩

/-- No act renames the host that paths are looked up from. -/
theorem perform_host (exchange : Exchange) (act : Act) :
    (exchange.perform act).desk.host = exchange.desk.host := by
  cases act with
  | lookup lookup =>
    cases lookup with
    | ask target => rfl
    | send message => exact (keeps_route exchange .downward message).host
  | install | forget => rfl
  | errand errand => cases errand <;> rfl

/-- Every act keeps tree and remembered paths in line with the history: a look-up may add one
answer, forgetting drops all, and the others leave them alone. -/
theorem perform_recalls (act : Act) (recalls : Recalls host acts exchange) :
    Recalls host (acts ++ [act]) (exchange.perform act) where
  named := (perform_host exchange act).trans recalls.named
  tree := by
    rw [tree_after_append]
    cases act with
    | lookup lookup =>
      obtain ⟨change, book, _⟩ := lookup_book exchange lookup
      rw [book, RouteBook.count_tree, (RouteBook.grows_resolve _ _).tree]
      exact recalls.tree
    | install tree => rfl
    | forget | errand errand => exact recalls.tree
  cached := fun target answer => by
    cases act with
    | lookup lookup =>
      obtain ⟨change, book, _⟩ := lookup_book exchange lookup
      have unknown : exchange.book.cache.get? target = none ↔ ¬ Known acts target := by
        rw [← recalls_known recalls, SortedMap.contains, Option.not_isSome_iff_eq_none]
      rw [book, RouteBook.count_cache, RouteBook.resolve_remembers, recalls.cached, unknown,
        recalls.tree, recalls.named]
      constructor
      · rintro (⟨tree, first, answered⟩ | ⟨same, fresh, tree, installed, answered⟩)
        · exact ⟨tree, first_lookup.mpr (.inl first), answered⟩
        · exact ⟨tree, first_lookup.mpr (.inr ⟨same, installed, fresh⟩), answered⟩
      · rintro ⟨tree, first, answered⟩
        rcases first_lookup.mp first with already | ⟨same, installed, fresh⟩
        · exact .inl ⟨tree, already, answered⟩
        · exact .inr ⟨same, fresh, tree, installed, answered⟩
    | install tree | errand errand =>
      simp only [FirstSeen, seen_append, reduceCtorEq, false_and, exists_false, or_false, ne_eq,
        not_false_eq_true, true_and]
      exact recalls.cached target answer
    | forget =>
      simp [FirstSeen, seen_append, perform, forgetPaths, RouteBook.forget]

/-- So do acts in order, by induction on them from the end, beginning with a book that knows
nothing. -/
theorem performed_recalls (desk : Desk) (queues : QueueStore) (acts : List Act) :
    Recalls desk.host acts (performed desk queues acts) := by
  induction acts using List.reverseRecOn with
  | nil =>
    refine ⟨rfl, rfl, fun target answer => ?_⟩
    simp [performed, RouteBook.empty, FirstSeen, not_seen_nil]
  | append_singleton acts act inductionHypothesis =>
    have step := perform_recalls act inductionHypothesis
    rw [performed, List.foldl_append]
    exact step

/-- What a look-up finds after acts is the path that the history tells. -/
theorem resolve_first (recalls : Recalls host acts exchange) {lookup : Lookup}
    {tree : RoutingTree} (first : FirstSeen tree (acts ++ [.lookup lookup]) lookup.target) :
    (exchange.resolveDown lookup.target).1 = RouteBook.pathDown? tree host lookup.target := by
  unfold resolveDown RouteBook.resolveDown
  rcases first_lookup.mp first with already | ⟨_, installed, fresh⟩
  · have remembered := (recalls.cached lookup.target _).mpr ⟨tree, already, rfl⟩
    simp only [remembered]
  · have unknown : exchange.book.cache.get? lookup.target = none := by
      rwa [← recalls_known recalls, SortedMap.contains, Option.not_isSome_iff_eq_none] at fresh
    simp only [unknown, recalls.tree, installed, recalls.named]

/-- Without a tree nothing is known yet: the answer is that there is no path, it counts as a miss,
and nothing is remembered. -/
theorem resolve_untried (recalls : Recalls host acts exchange) (untried : treeAfter acts = none)
    (target : String) : exchange.book.resolveDown exchange.desk.host target =
      (none, exchange.book.count .downward Counters.addMiss) := by
  have unknown : exchange.book.cache.get? target = none := by
    rw [← Option.not_isSome_iff_eq_none]
    intro remembered
    have installed := tree_of_known ((recalls_known recalls target).mp remembered)
    rw [untried] at installed
    cases installed
  simp only [RouteBook.resolveDown, unknown, recalls.tree, untried]

/-! ## What is done with what was found -/

/-- Two ways to send a message come to the same: they give the same answer and leave the same on
every queue. What they remember and count may differ. -/
def SameDelivery (one other : Outcome Exchange Delivery) : Prop :=
  one.result = other.result ∧ one.state.queues = other.state.queues

/-- Whether two outcomes deliver the same does not depend on which of them comes first. -/
theorem same_delivery_symm {one other : Outcome Exchange Delivery}
    (same : SameDelivery one other) : SameDelivery other one :=
  ⟨same.1.symm, same.2.symm⟩

/-- What delivers the same as a second outcome delivers the same as a third one that does. -/
theorem same_delivery_trans {one other third : Outcome Exchange Delivery}
    (first : SameDelivery one other) (second : SameDelivery other third) :
    SameDelivery one third :=
  ⟨first.1.trans second.1, first.2.trans second.2⟩

/-- Copies for the users of a client are made from the desk and the queues alone. -/
theorem to_users_bookless (exchange : Exchange) (book : RouteBook) (message : Message) :
    SameDelivery (sendToUsers { exchange with book := book } message)
      (exchange.sendToUsers message) := by
  have same : addressedQueues { exchange with book := book } message =
      exchange.addressedQueues message := rfl
  rw [sendToUsers, sendToUsers, same]
  cases exchange.addressedQueues message with
  | error reason => exact ⟨rfl, rfl⟩
  | ok addressed => exact ⟨rfl, rfl⟩

/-- Whether a queue took the message is all that matters once it was offered. -/
theorem queued_bookless (exchange : Exchange) (book : RouteBook) (taken : Option QueueStore)
    (closed : Event) :
    SameDelivery (queued { exchange with book := book } .downward taken closed)
      (exchange.queued .downward taken closed) := by
  cases taken with
  | none => exact ⟨rfl, rfl⟩
  | some queues => exact ⟨rfl, rfl⟩

/-- The decision about the one instance of the next hop does not depend on the book either: it reads
the directory and a queue. -/
theorem via_bookless (exchange : Exchange) (book : RouteBook) (message : Message) (hop : String) :
    SameDelivery (sendVia { exchange with book := book } message hop)
      (exchange.sendVia message hop) := by
  simp only [sendVia]
  rcases exchange.desk.users.queuesOf hop with _ | _ | ⟨queue, _ | _⟩
  · exact ⟨rfl, rfl⟩
  · exact ⟨rfl, rfl⟩
  · exact queued_bookless exchange book (exchange.queues.pushBack? queue message) _
  · exact ⟨rfl, rfl⟩

/-- What comes of a message depends on the path that is found, and on nothing else in the book. -/
theorem down_by_path (message : Message) (book : RouteBook)
    (same : (resolveDown { exchange with book := book } message.target.host).1 =
      (exchange.resolveDown message.target.host).1) :
    SameDelivery (sendDownward { exchange with book := book } message)
      (exchange.sendDownward message) := by
  obtain ⟨first, looked⟩ := resolve_answered same
  obtain ⟨second, found⟩ := @resolve_answered exchange message.target.host _ rfl
  rw [sendDownward, sendDownward, looked, found]
  obtain _ | _ | ⟨hop, _ | _⟩ := (exchange.resolveDown message.target.host).1
  · exact ⟨rfl, rfl⟩
  · exact ⟨rfl, rfl⟩
  · exact same_delivery_trans (to_users_bookless exchange first message)
      (same_delivery_symm (to_users_bookless exchange second message))
  · exact same_delivery_trans (via_bookless exchange first message hop)
      (same_delivery_symm (via_bookless exchange second message hop))

/-- A message goes along a path: to the users of the host if this is the only one on the path, and
otherwise to the first host on it. A path without hosts would leave nothing to send to. -/
def SentAlong (exchange : Exchange) (message : Message) : List String → Prop
  | [] => exchange.Refuses .downward message
  | [_] => SameDelivery (exchange.route .downward message) (exchange.sendToUsers message)
  | hop :: _ :: _ =>
    SameDelivery (exchange.route .downward message) (exchange.sendVia message hop)

/-- A message goes along the path that the look-up of its target finds. -/
theorem sent_along {message : Message} {path : List String}
    (answer : (exchange.resolveDown message.target.host).1 = some path) :
    exchange.SentAlong message path := by
  obtain ⟨book, looked⟩ := resolve_answered answer
  obtain _ | ⟨hop, _ | ⟨second, rest⟩⟩ := path
  · apply refuses_of_result
    rw [route, sendDownward, looked]
    rfl
  · rw [SentAlong, route, sendDownward, looked]
    exact to_users_bookless exchange book message
  · rw [SentAlong, route, sendDownward, looked]
    exact via_bookless exchange book message hop

/-- A look-up is answered by the way down in a tree, or by there being none: a question for a host
with `true` exactly if there is a way down to it, and a message goes along that way or is refused as
unreachable, with nothing on any queue. -/
def AnswersBy (exchange : Exchange) (tree : RoutingTree) : Lookup → Prop
  | .ask target => (exchange.reaches .downward target).1 = true ↔
      ∃ path, tree.routeBetween exchange.desk.host target = .ok ⟨path, .down⟩
  | .send message =>
      (∀ path, tree.routeBetween exchange.desk.host message.target.host = .ok ⟨path, .down⟩ →
        exchange.SentAlong message path) ∧
      ((∀ path, tree.routeBetween exchange.desk.host message.target.host ≠ .ok ⟨path, .down⟩) →
        exchange.Refuses .downward message)

/-- A look-up is answered as for a host that is not reached: a question with `false`, and a message
is refused as unreachable, with nothing on any queue. -/
def Unreached (exchange : Exchange) : Lookup → Prop
  | .ask target => (exchange.reaches .downward target).1 = false
  | .send message => exchange.Refuses .downward message

/-- Where no path is found the host is not reached, whatever the reason. -/
theorem unreached_of_pathless {lookup : Lookup}
    (pathless : (exchange.resolveDown lookup.target).1 = none) : exchange.Unreached lookup := by
  have unreached : (exchange.reaches .downward lookup.target).1 = false := by
    change (exchange.resolveDown lookup.target).1.isSome = false
    rw [pathless]
    rfl
  cases lookup with
  | ask target => exact unreached
  | send message => exact away_refuses (by simp) unreached

/-- Who finds the paths of a tree answers by them. A question is answered by whether there is a
path, and a message goes by the path or is refused for want of one. -/
theorem answers_of_paths {tree : RoutingTree} {lookup : Lookup}
    (paths : ∀ path, (exchange.resolveDown lookup.target).1 = some path ↔
      tree.routeBetween exchange.desk.host lookup.target = .ok ⟨path, .down⟩) :
    exchange.AnswersBy tree lookup := by
  cases lookup with
  | ask target =>
    change (exchange.resolveDown target).1.isSome = true ↔ _
    rw [Option.isSome_iff_exists]
    exact exists_congr paths
  | send message =>
    constructor
    · intro path route
      exact sent_along ((paths path).mpr route)
    · intro routeless
      have pathless : (exchange.resolveDown message.target.host).1 = none :=
        Option.eq_none_iff_forall_ne_some.mpr fun path found =>
          routeless path ((paths path).mp found)
      exact @unreached_of_pathless exchange (.send message) pathless

/-- The exchange with another tree and nothing remembered, whose first look-up of any host goes by
that tree. -/
def withTree (exchange : Exchange) (tree : RoutingTree) : Exchange :=
  { exchange with book := RouteBook.empty.install tree }

/-- The question is answered, or the message sent, as if this tree were there and nothing
remembered. -/
def GoesBy (exchange : Exchange) (tree : RoutingTree) : Lookup → Prop
  | .ask target => (exchange.reaches .downward target).1 =
      ((exchange.withTree tree).reaches .downward target).1
  | .send message =>
      SameDelivery (exchange.route .downward message)
        ((exchange.withTree tree).route .downward message)

/-- How a look-up goes after acts: what it answers, what it counts and what is remembered. The
history is all that this depends on, and neither the cache nor the tree of today occurs in the
conditions. -/
structure Remembers (host : String) (acts : List Act) (lookup : Lookup) (exchange : Exchange) :
    Prop where
  named : exchange.desk.host = host
  /-- It finds the path of the tree of the first look-up, and this path is the answer; whatever
  was installed since then, it goes as with that tree alone. -/
  found : ∀ tree, FirstSeen tree (acts ++ [.lookup lookup]) lookup.target →
    (∀ path, (exchange.resolveDown lookup.target).1 = some path ↔
      tree.routeBetween host lookup.target = .ok ⟨path, .down⟩) ∧
    exchange.AnswersBy tree lookup ∧ exchange.GoesBy tree lookup
  /-- Once there is a tree, there was a first look-up, if only this one. -/
  begun : (treeAfter acts).isSome = true →
    ∃ tree, FirstSeen tree (acts ++ [.lookup lookup]) lookup.target
  /-- Without a tree nothing is found, the host counts as not reached, and nothing gets
  remembered. -/
  untried : treeAfter acts = none → (exchange.resolveDown lookup.target).1 = none ∧
    exchange.Unreached lookup ∧
    (exchange.perform (.lookup lookup)).book.cache = exchange.book.cache
  /-- It is a hit exactly if the host is known, and otherwise a miss. -/
  counted :
    let before := exchange.book.downward
    let later := (exchange.perform (.lookup lookup)).book.downward
    (Known acts lookup.target →
      later.cacheHits = before.cacheHits + 1 ∧ later.cacheMisses = before.cacheMisses) ∧
    (¬ Known acts lookup.target →
      later.cacheHits = before.cacheHits ∧ later.cacheMisses = before.cacheMisses + 1)
  /-- There are as many remembered answers as known hosts. -/
  size : ∃ names : List String, names.Nodup ∧ (∀ name, name ∈ names ↔ Known acts name) ∧
    exchange.book.cache.size = names.length

/-- Hits and misses tell the known hosts from the others: each look-up counts one of the two, and
which one depends on the history alone. -/
theorem lookup_counts (recalls : Recalls host acts exchange) (lookup : Lookup) :
    let before := exchange.book.downward
    let later := (exchange.perform (.lookup lookup)).book.downward
    (Known acts lookup.target →
      later.cacheHits = before.cacheHits + 1 ∧ later.cacheMisses = before.cacheMisses) ∧
    (¬ Known acts lookup.target →
      later.cacheHits = before.cacheHits ∧ later.cacheMisses = before.cacheMisses + 1) := by
  intro before later
  obtain ⟨change, book, looks⟩ := lookup_book exchange lookup
  have counted : later = change
      (exchange.book.resolveDown exchange.desk.host lookup.target).2.downward :=
    congrArg (·.downward) book
  rw [RouteBook.resolve_counts] at counted
  rw [counted, (looks _).1, (looks _).2, ← recalls_known recalls]
  constructor
  · intro known
    rw [if_pos known]
    exact ⟨rfl, rfl⟩
  · intro fresh
    rw [if_neg fresh]
    exact ⟨rfl, rfl⟩

/-- What is remembered in line with the history decides how the next look-up goes. That no tree
leaves no path, and that a first tree leaves its own, are the two facts about paths; the answers
follow from the path in either case. -/
theorem remembers_of_recalls (recalls : Recalls host acts exchange) (lookup : Lookup) :
    Remembers host acts lookup exchange where
  named := recalls.named
  found := fun tree first => by
    have answer := resolve_first recalls first
    have paths (path : List String) : (exchange.resolveDown lookup.target).1 = some path ↔
        tree.routeBetween host lookup.target = .ok ⟨path, .down⟩ := by
      rw [answer, RouteBook.path_down_iff]
    refine ⟨paths, answers_of_paths (recalls.named.symm ▸ paths), ?_⟩
    rw [← recalls.named] at answer
    cases lookup with
    | ask target => exact congrArg Option.isSome answer
    | send message =>
      exact same_delivery_symm
        (down_by_path message (RouteBook.empty.install tree) answer.symm)
  begun := fun present => known_iff_first.mp (seen_append.mpr (.inr ⟨lookup, rfl, rfl, present⟩))
  untried := fun untried => by
    obtain ⟨change, book, _⟩ := lookup_book exchange lookup
    have missed := resolve_untried recalls untried lookup.target
    have pathless : (exchange.resolveDown lookup.target).1 = none := congrArg Prod.fst missed
    refine ⟨pathless, unreached_of_pathless pathless, ?_⟩
    rw [book, RouteBook.count_cache, missed, RouteBook.count_cache]
  counted := lookup_counts recalls lookup
  size := by
    refine ⟨exchange.book.cache.keys, SortedMap.keys_nodup _, fun name => ?_, ?_⟩
    · rw [SortedMap.mem_keys, recalls_known recalls]
    · rw [SortedMap.size, SortedMap.keys, List.length_map]

/-- Whatever was done with the strategy that leads down, in whatever order, a look-up goes by the
tree of the first look-up of its host since the strategy was last told to forget. A question for the
host is answered with `true` exactly if that tree has a way down to it, and a message goes along
this way or is refused as unreachable. As long as there is no tree, a host is not reached and
nothing is remembered. Every look-up counts as one hit or one miss, and there are as many
remembered answers as hosts that were looked up.

Proof: `Recalls` says which answers are remembered after a history, in terms of the history only,
and every act keeps it. A look-up finds either a remembered answer, which then is that of the first
tree, or none, which makes this look-up the first one. What is sent depends on the book by the
path that was found and in no other way, so the answer carries over to messages. -/
theorem goes_by_first_lookup (desk : Desk) (queues : QueueStore) (acts : List Act)
    (lookup : Lookup) : Remembers desk.host acts lookup (performed desk queues acts) :=
  remembers_of_recalls (performed_recalls desk queues acts) lookup

/-- A client that has moved below a host is found by it only after the strategy was told to
forget. -/
example :
    let away : RoutingTree := ⟨[⟨"S", none⟩, ⟨"T", some "S"⟩, ⟨"C", some "S"⟩], "S"⟩
    let moved : RoutingTree := ⟨[⟨"S", none⟩, ⟨"T", some "S"⟩, ⟨"C", some "T"⟩], "S"⟩
    let (desk, queues) := Desk.create "T" .empty
    let exchange := performed desk queues [.install away, .lookup (.ask "C"), .install moved]
    (exchange.reaches .downward "C").1 = false ∧
      ((exchange.perform .forget).reaches .downward "C").1 = true := ⟨rfl, rfl⟩

end Exchange

end RelayTree
