/-!
# Finite maps with ordered keys

A map is its list of entries, strictly increasing by key. The order is part of
the type, so every listing of a table comes out sorted and two maps with the
same lookups are the same value. The main statements say what each operation
does to a lookup: `get?_insert`, `get?_erase` and `ext_get?`.
-/
namespace RelayTree

/-- Entries in strictly increasing key order; a key therefore occurs once. The order is a proof that
the list carries with it, so no operation can return a list that is out of order. -/
structure SortedMap (κ ν : Type) [Ord κ] where
  entries : List (κ × ν)
  increasing : entries.Pairwise (fun a b => compare a.1 b.1 = .lt)
deriving DecidableEq

namespace SortedMap

variable {κ ν μ : Type} [Ord κ]

/-- The value stored under a key in a list of entries, of which the first one with that key
counts. -/
def lookup (key : κ) : List (κ × ν) → Option ν
  | [] => none
  | entry :: rest => if compare key entry.1 = .eq then some entry.2 else lookup key rest

/-- Put an entry in its place, replacing the value of an equal key. -/
def place (key : κ) (value : ν) : List (κ × ν) → List (κ × ν)
  | [] => [(key, value)]
  | entry :: rest =>
    match compare key entry.1 with
    | .lt => (key, value) :: entry :: rest
    | .eq => (key, value) :: rest
    | .gt => entry :: place key value rest

/-- An entry of a list after one was placed is that one, or was there before. -/
theorem mem_place {key : κ} {value : ν} {entries : List (κ × ν)} {e : κ × ν}
    (member : e ∈ place key value entries) : e = (key, value) ∨ e ∈ entries := by
  induction entries with
  | nil => simpa [place] using member
  | cons entry rest induction =>
    rw [place] at member
    split at member
    · simpa using member
    · rcases List.mem_cons.1 member with here | there
      · exact .inl here
      · exact .inr (List.mem_cons_of_mem _ there)
    · rcases List.mem_cons.1 member with here | there
      · exact .inr (here ▸ List.mem_cons_self)
      · rcases induction there with new | old
        · exact .inl new
        · exact .inr (List.mem_cons_of_mem _ old)

/-- The map without entries, in which every look-up fails. -/
def empty : SortedMap κ ν := ⟨[], .nil⟩

/-- A map that is read before there is one has no entries. -/
instance : Inhabited (SortedMap κ ν) := ⟨empty⟩

/-- The value of a key, if it has one. All statements about maps are in terms of it, since
`ext_get?` says that nothing else is to be known of a map. -/
def get? (map : SortedMap κ ν) (key : κ) : Option ν := lookup key map.entries

/-- Whether a key has a value, whichever it is. -/
def contains (map : SortedMap κ ν) (key : κ) : Bool := (map.get? key).isSome

/-- The keys in increasing order, each of them once. -/
def keys (map : SortedMap κ ν) : List κ := map.entries.map (·.1)

/-- The values in the order of their keys, so that any listing made from them comes out the same for
the same map. -/
def values (map : SortedMap κ ν) : List ν := map.entries.map (·.2)

/-- The number of entries, which is the number of keys that have a value. -/
def size (map : SortedMap κ ν) : Nat := map.entries.length

/-- Whether there is no entry, so that no key has a value. -/
def isEmpty (map : SortedMap κ ν) : Bool := map.entries.isEmpty

/-- Remove a key; other entries keep their order. Removing a key that is not there changes
nothing. -/
def erase (map : SortedMap κ ν) (key : κ) : SortedMap κ ν :=
  ⟨map.entries.filter (fun entry => compare key entry.1 != .eq), map.increasing.filter _⟩

/-- Keep the entries on which the function is defined, with its value. The keys that are left are
some of the keys there were, in their order. -/
def filterMap (f : κ → ν → Option μ) (map : SortedMap κ ν) : SortedMap κ μ where
  entries := map.entries.filterMap fun entry => (f entry.1 entry.2).map (entry.1, ·)
  increasing := by
    refine List.Pairwise.filterMap _ ?_ map.increasing
    intro a b less a' fromA b' fromB
    simp only [Option.map_eq_some_iff] at fromA fromB
    obtain ⟨_, _, rfl⟩ := fromA
    obtain ⟨_, _, rfl⟩ := fromB
    exact less

section Insertion

variable [Std.TransOrd κ]

/-- Placing an entry keeps the keys in increasing order. A new key goes before the first greater
one, and a key that was there keeps its place. -/
theorem place_increasing (key : κ) (value : ν) {entries : List (κ × ν)}
    (increasing : entries.Pairwise (fun a b => compare a.1 b.1 = .lt)) :
    (place key value entries).Pairwise (fun a b => compare a.1 b.1 = .lt) := by
  induction entries with
  | nil => simp [place]
  | cons entry rest induction =>
    obtain ⟨first, tail⟩ := List.pairwise_cons.1 increasing
    rw [place]
    split
    · rename_i less
      refine List.pairwise_cons.2 ⟨fun other member => ?_, increasing⟩
      rcases List.mem_cons.1 member with rfl | member
      · exact less
      · exact Std.TransCmp.lt_trans less (first other member)
    · rename_i same
      exact List.pairwise_cons.2
        ⟨fun other member => Std.TransCmp.lt_of_eq_of_lt same (first other member), tail⟩
    · rename_i greater
      refine List.pairwise_cons.2 ⟨fun other member => ?_, induction tail⟩
      rcases mem_place member with rfl | member
      · exact Std.OrientedCmp.lt_of_gt greater
      · exact first other member

/-- Give a key a value, replacing an earlier one, so that the number of entries grows by one at
most. -/
def insert (map : SortedMap κ ν) (key : κ) (value : ν) : SortedMap κ ν :=
  ⟨place key value map.entries, place_increasing key value map.increasing⟩

/-- Insert entries one after the other; the last value of a key stays. -/
def ofList (entries : List (κ × ν)) : SortedMap κ ν :=
  entries.foldl (fun map entry => map.insert entry.1 entry.2) empty

/-- Replace the value of a key that is present; an absent key stays absent. -/
def modify (map : SortedMap κ ν) (key : κ) (f : ν → ν) : SortedMap κ ν :=
  match map.get? key with
  | some value => map.insert key (f value)
  | none => map

end Insertion

section Laws

variable [Std.TransOrd κ] [Std.LawfulEqOrd κ] [DecidableEq κ]

omit [Std.TransOrd κ] [Std.LawfulEqOrd κ] [DecidableEq κ] in
/-- Nothing is found in the map without entries. -/
@[simp] theorem get?_empty (key : κ) : (empty : SortedMap κ ν).get? key = none := rfl

omit [Std.TransOrd κ] in
/-- In a list after an entry was placed its key has the new value, and every other key has the one
it had. No order is needed for this. -/
theorem lookup_place (key other : κ) (value : ν) (entries : List (κ × ν)) :
    lookup other (place key value entries) =
      if other = key then some value else lookup other entries := by
  induction entries with
  | nil => simp [place, lookup, Std.LawfulEqCmp.compare_eq_iff_eq]
  | cons entry rest induction =>
    by_cases same : other = key
    · subst same
      rw [place]
      split <;> simp_all [lookup, Std.ReflCmp.compare_self]
    · rw [place]
      split <;> simp_all [lookup, Std.LawfulEqCmp.compare_eq_iff_eq]

/-- A look-up after an insertion finds the new value under its key and what was there before under
every other one. -/
@[simp] theorem get?_insert (map : SortedMap κ ν) (key other : κ) (value : ν) :
    (map.insert key value).get? other = if other = key then some value else map.get? other :=
  lookup_place key other value map.entries

/-- A key that has a value keeps one when a value is given to any key, be it the same or another. -/
theorem contains_inserted {map : SortedMap κ ν} {key other : κ} {value : ν}
    (known : map.contains other = true) : (map.insert key value).contains other = true := by
  rw [contains, get?_insert]
  split
  · rfl
  · exact known

omit [Std.TransOrd κ] in
/-- In a list without the entries of one key that key has no value, and every other key has the one
it had. -/
theorem lookup_filter_ne (key other : κ) (entries : List (κ × ν)) :
    lookup other (entries.filter (fun entry => compare key entry.1 != .eq)) =
      if other = key then none else lookup other entries := by
  induction entries with
  | nil => simp [lookup]
  | cons entry rest induction =>
    by_cases dropped : compare key entry.1 = .eq
    · have here : key = entry.1 := Std.LawfulEqCmp.compare_eq_iff_eq.1 dropped
      by_cases same : other = key
      · simp_all
      · have apart : ¬ other = entry.1 := here ▸ same
        simp_all [lookup, Std.LawfulEqCmp.compare_eq_iff_eq]
    · by_cases same : other = key
      · subst same
        simp_all [lookup]
      · simp_all [lookup]

omit [Std.TransOrd κ] in
/-- A look-up after a removal finds nothing under the key that was removed and what was there before
under every other one. -/
@[simp] theorem get?_erase (map : SortedMap κ ν) (key other : κ) :
    (map.erase key).get? other = if other = key then none else map.get? other :=
  lookup_filter_ne key other map.entries

omit [Std.TransOrd κ] [DecidableEq κ] in
/-- A key of the list has the value of its entry: as the keys increase, no earlier entry has the
same one. -/
theorem lookup_of_mem {entries : List (κ × ν)} {e : κ × ν}
    (increasing : entries.Pairwise (fun a b => compare a.1 b.1 = .lt)) (member : e ∈ entries) :
    lookup e.1 entries = some e.2 := by
  induction entries with
  | nil => cases member
  | cons entry rest induction =>
    obtain ⟨first, tail⟩ := List.pairwise_cons.1 increasing
    rcases List.mem_cons.1 member with rfl | member
    · simp [lookup]
    · have apart : ¬ compare e.1 entry.1 = .eq := by
        intro same
        have less := first e member
        rw [Std.LawfulEqCmp.compare_eq_iff_eq.1 same] at less
        have self : compare entry.1 entry.1 = .eq := Std.LawfulEqCmp.compare_eq_iff_eq.2 rfl
        rw [self] at less
        cases less
      simp [lookup, apart, induction tail member]

omit [Std.TransOrd κ] [DecidableEq κ] in
/-- A value that a lookup finds stands in the list under the sought key. Keys that compare as equal
are equal, so it is this very key and not another one of the same rank. -/
theorem mem_of_lookup {entries : List (κ × ν)} {key : κ} {value : ν}
    (found : lookup key entries = some value) : (key, value) ∈ entries := by
  induction entries with
  | nil => simp [lookup] at found
  | cons entry rest induction =>
    rw [lookup] at found
    split at found
    · rename_i same
      cases found
      rw [Std.LawfulEqCmp.compare_eq_iff_eq.1 same]
      exact List.mem_cons_self
    · exact List.mem_cons_of_mem _ (induction found)

omit [Std.TransOrd κ] [DecidableEq κ] in
/-- Entries and lookups hold the same information, so that a listing can be reasoned about by asking
for single keys. -/
theorem mem_entries_iff {map : SortedMap κ ν} {key : κ} {value : ν} :
    (key, value) ∈ map.entries ↔ map.get? key = some value :=
  ⟨fun member => lookup_of_mem map.increasing member, mem_of_lookup⟩

omit [Std.TransOrd κ] [Std.LawfulEqOrd κ] [DecidableEq κ] in
/-- A key before the first entry is not in the list, since it is before all others as well. -/
theorem lookup_eq_none {entries : List (κ × ν)} {key : κ}
    (before : ∀ e ∈ entries, compare key e.1 = .lt) : lookup key entries = none := by
  induction entries with
  | nil => rfl
  | cons entry rest induction =>
    have apart : ¬ compare key entry.1 = .eq := by
      rw [before entry List.mem_cons_self]
      exact fun same => nomatch same
    simp only [lookup, apart, if_false]
    exact induction fun e member => before e (List.mem_cons_of_mem _ member)

omit [DecidableEq κ] in
/-- Two lists in increasing order with the same look-ups are the same list. Each first key has a
value in the other list, so neither can come before the other. -/
theorem entries_ext {left right : List (κ × ν)}
    (leftIncreasing : left.Pairwise (fun a b => compare a.1 b.1 = .lt))
    (rightIncreasing : right.Pairwise (fun a b => compare a.1 b.1 = .lt))
    (same : ∀ key, lookup key left = lookup key right) : left = right := by
  induction left generalizing right with
  | nil =>
    cases right with
    | nil => rfl
    | cons y ys => simpa [lookup] using same y.1
  | cons x xs induction =>
    cases right with
    | nil => simpa [lookup] using same x.1
    | cons y ys =>
      obtain ⟨xFirst, xTail⟩ := List.pairwise_cons.1 leftIncreasing
      obtain ⟨yFirst, yTail⟩ := List.pairwise_cons.1 rightIncreasing
      have xFound := same x.1
      have yFound := same y.1
      cases order : compare x.1 y.1 with
      | lt =>
        have missing : lookup x.1 (y :: ys) = none := lookup_eq_none fun e member => by
          rcases List.mem_cons.1 member with rfl | member
          · exact order
          · exact Std.TransCmp.lt_trans order (yFirst e member)
        rw [missing] at xFound
        simp [lookup] at xFound
      | gt =>
        have missing : lookup y.1 (x :: xs) = none := lookup_eq_none fun e member => by
          rcases List.mem_cons.1 member with rfl | member
          · exact Std.OrientedCmp.lt_of_gt order
          · exact Std.TransCmp.lt_trans (Std.OrientedCmp.lt_of_gt order) (xFirst e member)
        rw [missing] at yFound
        simp [lookup] at yFound
      | eq =>
        have key : x.1 = y.1 := Std.LawfulEqCmp.compare_eq_iff_eq.1 order
        have value : x.2 = y.2 := by simpa [lookup, order, key] using xFound
        have tails : xs = ys := induction xTail yTail fun k => by
          by_cases here : compare k x.1 = .eq
          · have equal : k = x.1 := Std.LawfulEqCmp.compare_eq_iff_eq.1 here
            rw [equal, lookup_eq_none xFirst, key, lookup_eq_none yFirst]
          · have whole := same k
            simp only [lookup, here, if_false] at whole
            rw [key] at here
            simpa [here] using whole
        rw [tails, Prod.ext key value]

omit [DecidableEq κ] in
/-- A map is determined by its lookups. This is how equality of two maps is proved everywhere
else. -/
theorem ext_get? {left right : SortedMap κ ν}
    (same : ∀ key, left.get? key = right.get? key) : left = right := by
  have entries : left.entries = right.entries :=
    entries_ext left.increasing right.increasing same
  cases left
  cases right
  cases entries
  rfl

end Laws

end SortedMap

/-- A set listed in increasing order, as a map that has nothing to say about its keys. -/
abbrev SortedSet (κ : Type) [Ord κ] := SortedMap κ Unit

namespace SortedSet

variable {κ : Type} [Ord κ]

/-- The members in increasing order, each of them once. -/
def toList (set : SortedSet κ) : List κ := set.keys

/-- Add a member; adding it again changes nothing, as there is only one value it could have. -/
def add [Std.TransOrd κ] (set : SortedSet κ) (member : κ) : SortedSet κ := set.insert member ()

end SortedSet

/-! ## Keys made of two names

Tables are keyed by a module and its channel, or by a host and its user. Such keys are ordered by
the first name, then by the second; keys that compare equal agree in both names. -/

section Names

variable {κ : Type}

/-- Order by one name, then by another one. Keys with two names are compared by this, so that those
with the same first name stand together. -/
abbrev compareNames (first second : κ → String) : κ → κ → Ordering :=
  compareLex (compareOn first) (compareOn second)

/-- Texts that compare equal are equal, under the name that the proofs below use. -/
theorem text_eq_of_compare {s t : String} (same : compare s t = .eq) : s = t :=
  Std.LawfulEqCmp.compare_eq_iff_eq.1 same

/-- Keys that compare equal agree in both names, and a key with no third part is determined by
them. -/
theorem names_eq_of_compare {first second : κ → String} {a b : κ}
    (same : compareNames first second a b = .eq) : first a = first b ∧ second a = second b :=
  have parts := Ordering.then_eq_eq.1 same
  ⟨text_eq_of_compare parts.1, text_eq_of_compare parts.2⟩

/-- A key compares equal to itself, by either of its names. -/
theorem compareNames_self {first second : κ → String} {a : κ} :
    compareNames first second a a = .eq :=
  have self (s : String) : compare s s = .eq := Std.LawfulEqCmp.compare_eq_iff_eq.2 rfl
  Ordering.then_eq_eq.2 ⟨self (first a), self (second a)⟩

end Names

end RelayTree
