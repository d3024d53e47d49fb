import RelayTree.Proofs.Tree.Lineage
import RelayTree.Tree.Parse

/-!
# Accepted trees are sound

The parser makes four passes and links hosts before it knows that the links form a
tree. What each pass accepts is said here exactly: hosts with names and addresses of
their own, distinct names, and targets that are other servers of the list, with one
host that has none. That the links have no cycle is only inferred from the last pass,
in which every host was reached from the root over children. Reaching a host retraces
its lineage, so the way up from it ends.
-/

namespace RelayTree.RoutingTree

/-! ## The passes over the list -/

/-- The first pass accepts hosts that have names and addresses of their own, different
also from the addresses met before. -/
theorem addresses_checked_iff (earlier hosts : List Host)
    (fresh : (earlier.filterMap (·.serverAddress)).Nodup) :
    checkAddresses earlier hosts = .ok () ↔ (∀ host ∈ hosts, host.name ≠ "") ∧
      ((earlier ++ hosts).filterMap (·.serverAddress)).Nodup := by
  induction hosts generalizing earlier with
  | nil => simpa [checkAddresses] using fresh
  | cons host rest inductionHypothesis =>
    have shift : earlier ++ host :: rest = (earlier ++ [host]) ++ rest := by simp
    rw [checkAddresses, shift]
    by_cases named : host.name = ""
    · simp [named]
    · have present : host.name.isEmpty = false := by simpa using named
      simp only [present, Bool.false_eq_true, if_false, List.forall_mem_cons]
      cases address : host.serverAddress with
      | none =>
        have extended : ((earlier ++ [host]).filterMap (·.serverAddress)).Nodup := by
          simpa [address] using fresh
        rw [inductionHypothesis _ extended]
        exact ⟨fun ⟨others, distinct⟩ => ⟨⟨named, others⟩, distinct⟩,
          fun ⟨⟨_, others⟩, distinct⟩ => ⟨others, distinct⟩⟩
      | some own =>
        simp only
        split
        · -- The address stands twice, at the host met first and here.
          rename_i first found
          have shared : first.serverAddress = some own := by simpa using List.find?_some found
          have before : own ∈ earlier.filterMap (·.serverAddress) :=
            List.mem_filterMap.mpr ⟨first, List.mem_of_find?_eq_some found, shared⟩
          have twice : ¬ ((earlier ++ [host] ++ rest).filterMap (·.serverAddress)).Nodup := by
            intro distinct
            rw [List.append_assoc, List.filterMap_append, List.nodup_append] at distinct
            exact distinct.2.2 own before own (by simp [address]) rfl
          exact iff_of_false nofun fun both => twice both.2
        · rename_i found
          have unused : own ∉ earlier.filterMap (·.serverAddress) := by
            intro member
            obtain ⟨first, before, shared⟩ := List.mem_filterMap.mp member
            simpa [shared] using List.find?_eq_none.mp found first before
          have extended : ((earlier ++ [host]).filterMap (·.serverAddress)).Nodup := by
            rw [List.filterMap_append, List.nodup_append]
            refine ⟨fresh, by simp [address], fun one before other here same => unused ?_⟩
            obtain rfl : other = own := by simpa [address] using here
            exact same ▸ before
          rw [inductionHypothesis _ extended]
          exact ⟨fun ⟨others, distinct⟩ => ⟨⟨named, others⟩, distinct⟩,
            fun ⟨⟨_, others⟩, distinct⟩ => ⟨others, distinct⟩⟩

/-- The second pass accepts names that are distinct, also from the ones met before. The induction is
on the hosts that are left, with the names met so far as an argument of the pass. -/
theorem names_checked_iff (earlier : List String) (hosts : List Host) (fresh : earlier.Nodup) :
    checkNames earlier hosts = .ok () ↔ (earlier ++ hosts.map (·.name)).Nodup := by
  induction hosts generalizing earlier with
  | nil => simpa [checkNames] using fresh
  | cons host rest inductionHypothesis =>
    have shift : earlier ++ (host :: rest).map (·.name) =
        (earlier ++ [host.name]) ++ rest.map (·.name) := by simp
    rw [checkNames, shift]
    by_cases met : host.name ∈ earlier
    · have twice : ¬ ((earlier ++ [host.name]) ++ rest.map (·.name)).Nodup := by
        intro distinct
        rw [List.append_assoc, List.nodup_append] at distinct
        exact distinct.2.2 host.name met host.name (by simp) rfl
      rw [if_pos met]
      exact iff_of_false nofun twice
    · have extended : (earlier ++ [host.name]).Nodup := by
        rw [List.nodup_append]
        refine ⟨fresh, List.pairwise_singleton _ _, fun name present other here same => met ?_⟩
        rw [List.mem_singleton] at here
        exact here ▸ same ▸ present
      rw [if_neg met, inductionHypothesis _ extended]

/-- A target passes that is the name of another host of the list, a server. -/
theorem target_checked_iff {hosts : List Host} {host : Host} {target : String} :
    checkTarget hosts host target = .ok () ↔ target ≠ host.name ∧
      ∃ server, hosts.find? (·.name = target) = some server ∧ server.isServer = true := by
  rw [checkTarget]
  by_cases own : target = host.name
  · simp [own]
  · cases found : hosts.find? (·.name = target) with
    | none => simp [own]
    | some server => cases server.isServer <;> simp [own]

/-- The third pass accepts hosts whose targets pass and of which at most one has none,
the one met before included; that one is the root it finds. -/
theorem root_found_iff (hosts rest : List Host) (met found : Option String) :
    findRoot hosts met rest = .ok found ↔
      (∀ host ∈ rest, ∀ target, host.connectTo = some target →
        checkTarget hosts host target = .ok ()) ∧
      met.toList ++ (rest.filter Host.isRoot).map (·.name) = found.toList := by
  induction rest generalizing met with
  | nil => cases met <;> cases found <;> simp [findRoot]
  | cons host rest inductionHypothesis =>
    unfold findRoot
    cases connects : host.connectTo with
    | none =>
      have free : host.isRoot = true := by simp [Host.isRoot, connects]
      cases met with
      | some first => cases found <;> simp [free]
      | none => simp [inductionHypothesis, free, connects]
    | some target =>
      have bound : host.isRoot = false := by simp [Host.isRoot, connects]
      cases passed : checkTarget hosts host target with
      | error failure => simp [passed, connects]
      | ok => simp [inductionHypothesis, bound, passed, connects]

/-- The sweep only collects hosts with a property that passes from a host to its
children, if the hosts it starts from have it. -/
theorem sweep_keeps {tree : RoutingTree} (property : String → Prop)
    (inherited : ∀ host, property host → ∀ child ∈ tree.children host, property child)
    (rounds : Nat) (stack reached : List String) (stacked : ∀ host ∈ stack, property host)
    (collected : ∀ host ∈ reached, property host) :
    ∀ host ∈ tree.sweep rounds stack reached, property host := by
  induction rounds generalizing stack reached with
  | zero => simpa [sweep] using collected
  | succ rounds inductionHypothesis =>
    cases stack with
    | nil => simpa [sweep] using collected
    | cons host stack =>
      have first : property host := stacked host List.mem_cons_self
      have others : ∀ other ∈ stack, property other := fun other member =>
        stacked other (List.mem_cons_of_mem _ member)
      rw [sweep]
      split
      · exact inductionHypothesis stack reached others collected
      · refine inductionHypothesis _ _ (fun other member => ?_) (fun other member => ?_)
        · rcases List.mem_append.mp member with below | later
          · exact inherited host first other below
          · exact others other later
        · rcases List.mem_cons.mp member with rfl | member
          · exact first
          · exact collected other member

/-! ## The parser as a whole -/

/-- A list is accepted if all four passes go through. Each of them is looked at by itself then,
without the order in which they run. -/
theorem accepted_iff_passes {hosts : List Host} {tree : RoutingTree} :
    ofHosts hosts = .ok tree ↔
      checkAddresses [] hosts = .ok () ∧ checkNames [] hosts = .ok () ∧
        findRoot hosts none hosts = .ok (some tree.root) ∧ tree.links = linksOf hosts ∧
        tree.firstUnreached? = none := by
  rw [ofHosts]
  cases hosts with
  | nil => simp [findRoot]
  | cons host rest =>
    simp only [List.isEmpty_cons, Bool.false_eq_true, if_false]
    generalize host :: rest = hosts
    cases addresses : checkAddresses [] hosts with
    | error failure => simp [bind, Except.bind]
    | ok =>
      cases names : checkNames [] hosts with
      | error failure => simp [bind, Except.bind]
      | ok =>
        cases roots : findRoot hosts none hosts with
        | error failure => simp [bind, Except.bind]
        | ok found =>
          cases found with
          | none => simp [bind, Except.bind, throw, throwThe, MonadExceptOf.throw]
          | some root =>
            obtain ⟨links, top⟩ := tree
            simp only [bind, Except.bind, Except.ok.injEq, Option.some.injEq, true_and]
            cases unreached : firstUnreached? ⟨linksOf hosts, root⟩ with
            | some host =>
              refine iff_of_false nofun ?_
              rintro ⟨rfl, rfl, whole⟩
              simp [unreached] at whole
            | none =>
              constructor
              · rintro ⟨⟩
                exact ⟨rfl, rfl, unreached⟩
              · rintro ⟨rfl, rfl, _⟩
                rfl

variable {hosts : List Host} {tree : RoutingTree}

/-- With distinct names each host of a list has the link that the list describes. -/
theorem parent_of_host (links : tree.links = linksOf hosts) (distinct : tree.hosts.Nodup)
    {host : Host} (member : host ∈ hosts) : tree.parent? host.name = host.connectTo := by
  have link : (⟨host.name, host.connectTo⟩ : Link) ∈ tree.links := by
    rw [links]
    exact List.mem_map.mpr ⟨host, member, rfl⟩
  exact parent_of_link distinct link

/-- The hosts of an accepted tree are those of the list, in its order. -/
theorem accepted_hosts (accepted : ofHosts hosts = .ok tree) :
    tree.hosts = hosts.map (·.name) := by
  obtain ⟨_, _, _, links, _⟩ := accepted_iff_passes.mp accepted
  simp [RoutingTree.hosts, links, linksOf]

/-- No host of an accepted tree is nameless, since the first pass refuses such a one. -/
theorem accepted_named (accepted : ofHosts hosts = .ok tree) : ∀ host ∈ tree.hosts, host ≠ "" := by
  obtain ⟨addresses, _⟩ := accepted_iff_passes.mp accepted
  intro host member
  rw [accepted_hosts accepted] at member
  obtain ⟨described, present, rfl⟩ := List.mem_map.mp member
  exact ((addresses_checked_iff [] hosts .nil).mp addresses).1 described present

/-- The names of an accepted tree are distinct, so a host can be told by its name. -/
theorem accepted_distinct (accepted : ofHosts hosts = .ok tree) : tree.hosts.Nodup := by
  obtain ⟨_, names, _⟩ := accepted_iff_passes.mp accepted
  rw [accepted_hosts accepted]
  simpa using (names_checked_iff [] hosts .nil).mp names

/-- A host of an accepted tree is linked to the one it connects to. -/
theorem accepted_parent (accepted : ofHosts hosts = .ok tree) {host : Host}
    (member : host ∈ hosts) : tree.parent? host.name = host.connectTo := by
  obtain ⟨_, _, _, links, _⟩ := accepted_iff_passes.mp accepted
  exact parent_of_host links (accepted_distinct accepted) member

/-- The root of an accepted tree is the only host that connects to nobody. -/
theorem accepted_root (accepted : ofHosts hosts = .ok tree) :
    (hosts.filter Host.isRoot).map (·.name) = [tree.root] := by
  obtain ⟨_, _, roots, _⟩ := accepted_iff_passes.mp accepted
  simpa using ((root_found_iff hosts hosts none _).mp roots).2

/-- An accepted tree is sound. The first three passes give the links; the last one
gives every host a lineage, since a child's lineage is its own name before that of
the host it was reached from. -/
theorem accepted_sound (accepted : ofHosts hosts = .ok tree) : tree.Sound := by
  obtain ⟨_, _, roots, _, unreached⟩ := accepted_iff_passes.mp accepted
  have distinct := accepted_distinct accepted
  have targets := ((root_found_iff hosts hosts none _).mp roots).1
  have sole := accepted_root accepted
  have listed : tree.hosts = hosts.map (·.name) := accepted_hosts accepted
  have described : ∀ name ∈ tree.hosts, ∃ host ∈ hosts, host.name = name := by
    intro name member
    rw [listed] at member
    exact List.mem_map.mp member
  obtain ⟨rootHost, selected, rootNamed⟩ :
      ∃ host ∈ hosts.filter Host.isRoot, host.name = tree.root :=
    List.mem_map.mp (sole ▸ List.mem_singleton_self tree.root)
  obtain ⟨rootListed, rootFree⟩ := List.mem_filter.mp selected
  have root_free : tree.parent? tree.root = none := by
    rw [← rootNamed, accepted_parent accepted rootListed]
    simpa [Host.isRoot] using rootFree
  refine ⟨distinct, ?_, ?_, root_free, ?_, ?_⟩
  · intro host up connects
    obtain ⟨source, member, rfl⟩ := described host (described_of_parent connects)
    rw [accepted_parent accepted member] at connects
    obtain ⟨_, server, found, _⟩ := target_checked_iff.mp (targets source member up connects)
    have named : server.name = up := by simpa using List.find?_some found
    exact listed ▸ List.mem_map.mpr ⟨server, List.mem_of_find?_eq_some found, named⟩
  · rw [listed, ← rootNamed]
    exact List.mem_map.mpr ⟨rootHost, rootListed, rfl⟩
  · intro host member free
    obtain ⟨source, present, rfl⟩ := described host member
    rw [accepted_parent accepted present] at free
    have alone : source.name ∈ (hosts.filter Host.isRoot).map (·.name) :=
      List.mem_map.mpr ⟨source, List.mem_filter.mpr ⟨present, by simp [Host.isRoot, free]⟩, rfl⟩
    rw [sole] at alone
    exact List.mem_singleton.mp alone
  · intro host member
    have visited : host ∈ tree.reached := by
      have none_left := List.find?_eq_none.mp unreached host member
      simpa using none_left
    refine sweep_keeps (fun host => ∃ chain, tree.Lineage host chain) ?_ _ _ _ ?_ ?_ host visited
    · rintro host ⟨chain, lineage⟩ child below
      exact ⟨child :: chain, .above ((mem_children distinct).mp below) lineage⟩
    · intro host atRoot
      rw [List.mem_singleton] at atRoot
      exact ⟨[host], .top (atRoot ▸ root_free)⟩
    · simp

end RelayTree.RoutingTree
