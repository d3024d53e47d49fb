import RelayTree.SortedMap

/-!
# Lists whose entries have a key

Where no two entries of a list have the same key, an entry is found by its key wherever it stands.
The entries of a map are such a list, in increasing order of their keys, and the map is made again
by inserting them one after the other.
-/

namespace RelayTree

/-- With distinct keys just the entry that has the key is found, so the first one found is the only
one there is. -/
theorem find_by_key {α κ : Type} [DecidableEq κ] {key : α → κ} {entries : List α}
    (distinct : (entries.map key).Nodup) {entry : α} {sought : κ} :
    entries.find? (key · = sought) = some entry ↔ entry ∈ entries ∧ key entry = sought := by
  constructor
  · intro found
    have named := List.find?_some found
    exact ⟨List.mem_of_find?_eq_some found, of_decide_eq_true named⟩
  · rintro ⟨member, rfl⟩
    induction entries with
    | nil => cases member
    | cons front entries inductionHypothesis =>
      obtain ⟨fresh, others⟩ := List.nodup_cons.1 distinct
      rcases List.mem_cons.1 member with rfl | later
      · simp
      · have apart : key front ≠ key entry := fun same =>
          fresh (same ▸ List.mem_map_of_mem later)
        simp [apart, inductionHypothesis others later]

namespace SortedMap

variable {κ ν : Type} [Ord κ] [Std.TransOrd κ] [Std.LawfulEqOrd κ] [DecidableEq κ]

/-- Entries in increasing order of their keys come before what a map held. Since keys are different,
the first entry with a key is the only one, and it does not matter that later ones would win. -/
theorem get?_foldl_entries {entries : List (κ × ν)}
    (increasing : entries.Pairwise (fun a b => compare a.1 b.1 = .lt)) (map : SortedMap κ ν)
    (key : κ) :
    (entries.foldl (fun map entry => map.insert entry.1 entry.2) map).get? key =
      (lookup key entries).or (map.get? key) := by
  induction entries generalizing map with
  | nil => rfl
  | cons entry entries inductionHypothesis =>
    obtain ⟨first, later⟩ := List.pairwise_cons.1 increasing
    rw [List.foldl_cons, inductionHypothesis later, get?_insert]
    by_cases here : key = entry.1
    · subst here
      simp [lookup, lookup_eq_none first]
    · simp [lookup, Std.LawfulEqCmp.compare_eq_iff_eq, here]

/-- A map is made again from its entries, by inserting them one after the other into the empty
one. -/
theorem of_list_entries (map : SortedMap κ ν) : ofList map.entries = map := by
  apply ext_get?
  intro key
  rw [ofList, get?_foldl_entries map.increasing, get?_empty, Option.or_none]
  rfl

end SortedMap

end RelayTree
