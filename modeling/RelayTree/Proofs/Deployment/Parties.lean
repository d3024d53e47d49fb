import RelayTree.Proofs.Keyed
import RelayTree.Deployment.Host

/-!
# Who takes part in a deployment

A list of hosts says of each whether it is a server. `serves?` is this as a function of the name,
and two rosters have the same parties if it is the same function. The comparison that a reload
makes looks for the hosts of one roster in the other and then for those of the other that are new,
in two different ways. It accepts exactly the same parties, and so it is an equivalence.
-/

namespace RelayTree

namespace Roster

/-- Whether the host with a name is a server, if there is one. -/
def serves? (roster : Roster) (name : String) : Option Bool := (roster.get? name).map Host.isServer

/-- Two rosters have the same names, and servers under the same ones. The order of hosts and all
addresses may differ. -/
structure SameParties (before after : Roster) : Prop where
  names : ∀ name, name ∈ before.hosts.map Host.name ↔ name ∈ after.hosts.map Host.name
  roles : ∀ host ∈ before.hosts, ∀ other ∈ after.hosts, host.name = other.name →
    host.isServer = other.isServer

variable {roster before middle after : Roster} {name : String} {host : Host}

/-- A host is found under its name, and under no other, since names are distinct. -/
theorem get_iff : roster.get? name = some host ↔ host ∈ roster.hosts ∧ host.name = name :=
  find_by_key roster.distinct

/-- Names without a host have no role, so the roles tell the names as well. -/
theorem serves_iff : (roster.serves? name).isSome ↔ name ∈ roster.hosts.map Host.name := by
  simp only [serves?, Option.isSome_map, Option.isSome_iff_exists, get_iff, List.mem_map]

/-- To have the same parties is to have the same roles under all names. A name that no host has
serves in neither list, and one that both have is compared at the two hosts that bear it. -/
theorem same_parties_iff :
    before.SameParties after ↔ ∀ name, before.serves? name = after.serves? name := by
  constructor
  · intro same name
    cases found : before.get? name with
    | none =>
      have absent : ¬ (before.serves? name).isSome := by simp [serves?, found]
      rw [serves_iff, same.names, ← serves_iff] at absent
      rw [serves?, found, Option.map_none, Option.not_isSome_iff_eq_none.mp absent]
    | some host =>
      obtain ⟨member, rfl⟩ := get_iff.mp found
      have present := (same.names host.name).mp (List.mem_map_of_mem member)
      obtain ⟨other, later, named⟩ := List.mem_map.mp present
      have there : after.get? host.name = some other := get_iff.mpr ⟨later, named⟩
      rw [serves?, serves?, found, there, Option.map_some, Option.map_some,
        same.roles host member other later named.symm]
  · intro alike
    refine ⟨fun name => by rw [← serves_iff, alike, serves_iff], ?_⟩
    intro host member other later named
    have first : before.get? host.name = some host := get_iff.mpr ⟨member, rfl⟩
    have second : after.get? host.name = some other := get_iff.mpr ⟨later, named.symm⟩
    have roles := alike host.name
    rw [serves?, serves?, first, second] at roles
    exact Option.some.inj roles

/-- The first half of the comparison finds all hosts again, in their roles. It stops at the first
host that is missing or has changed, hence an induction on the hosts that are left. -/
theorem first_change_iff (hosts : List Host) :
    firstChange after hosts = .ok () ↔
      ∀ host ∈ hosts, after.serves? host.name = some host.isServer := by
  induction hosts with
  | nil => simp [firstChange]
  | cons host rest inductionHypothesis =>
    rw [firstChange, List.forall_mem_cons, ← inductionHypothesis, serves?]
    cases after.get? host.name with
    | none => simp
    | some changed =>
      rw [Option.map_some, Option.some.injEq]
      dsimp only
      split
      · rename_i same
        simp [same]
      · rename_i different
        simp [different]

/-- Hosts are accepted for a reload exactly if they are the same parties. The second half of the
comparison finds none that are new. -/
theorem same_topology_iff :
    before.ensureSameTopology after = .ok () ↔ before.SameParties after := by
  have unchanged := @first_change_iff after before.hosts
  unfold ensureSameTopology
  constructor
  · intro passed
    split at passed
    · cases passed
    · rename_i checked
      have kept := unchanged.mp checked
      split at passed
      · cases passed
      · rename_i fresh
        have known := List.find?_eq_none.mp fresh
        constructor
        · intro name
          constructor
          · intro member
            obtain ⟨host, present, rfl⟩ := List.mem_map.mp member
            exact serves_iff.mp (by rw [kept host present]; rfl)
          · intro member
            obtain ⟨host, present, rfl⟩ := List.mem_map.mp member
            simpa [contains] using known host present
        · intro host member other later named
          have there : after.get? host.name = some other := get_iff.mpr ⟨later, named.symm⟩
          have role := kept host member
          rw [serves?, there] at role
          exact (Option.some.inj role).symm
  · intro same
    have checked : firstChange after before.hosts = .ok () := by
      refine unchanged.mpr fun host member => ?_
      have found : before.get? host.name = some host := get_iff.mpr ⟨member, rfl⟩
      rw [← same_parties_iff.mp same host.name, serves?, found, Option.map_some]
    have fresh : after.hosts.find? (fun host => !before.contains host.name) = none := by
      refine List.find?_eq_none.mpr fun host member => ?_
      have known := (same.names host.name).mpr (List.mem_map_of_mem member)
      simpa [contains] using known
    rw [checked, fresh]

/-- It is therefore an equivalence between rosters: reflexive, and kept when the two are exchanged
or a third is compared. -/
theorem same_topology_equivalence :
    Equivalence fun before after : Roster => before.ensureSameTopology after = .ok () := by
  simp only [same_topology_iff, same_parties_iff]
  exact ⟨fun _ _ => rfl, fun same name => (same name).symm,
    fun first second name => (first name).trans (second name)⟩

end Roster

end RelayTree
