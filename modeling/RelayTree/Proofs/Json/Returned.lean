import RelayTree.Json.Reader

/-!
# What readers return

A text comes from outside, so nothing can be said about it, but something can be said about what a
reader makes of it. A property that holds of whatever an item's reader returns holds of every item
of a list. For a record the property is one of the record under construction: it holds of the blank
record, and every field keeps it, whether the field is read, comes in another place, or is left out.
-/

namespace RelayTree.Json

/-- A result that came about in two steps came about in each, which lets the steps of a reader be
looked at one by one. -/
theorem bind_ok {ε α β : Type} {first : Except ε α} {next : α → Except ε β} {result : β}
    (both : (first >>= next) = .ok result) :
    ∃ value, first = .ok value ∧ next value = .ok result := by
  cases first with
  | error fault => cases both
  | ok value => exact ⟨value, rfl, both⟩

namespace Reader

variable {α β σ : Type}

/-- Whatever the reader returns, for any text, has the property. Nothing is said about when it
returns something. -/
def Yields (reader : Reader α) (property : α → Prop) : Prop :=
  ∀ input value rest, reader input = .ok (value, rest) → property value

/-- What is made from a value has what follows from the value's property. -/
theorem Yields.map {reader : Reader α} {property : α → Prop} {wanted : β → Prop} {f : α → β}
    (yields : Yields reader property) (follows : ∀ value, property value → wanted (f value)) :
    Yields (reader.map f) wanted := by
  intro input result rest read
  unfold Reader.map at read
  split at read
  · rename_i value after here
    cases read
    exact follows value (yields input value _ here)
  · cases read

/-- Any value at all has a property that says nothing, which is where such arguments begin. -/
theorem yields_any (reader : Reader α) : Yields reader fun _ => True :=
  fun _ _ _ _ => trivial

/-- A value of another shape yields nothing, as it is always a fault. -/
theorem other_shape_refuses (wanted : String) (input : List Char) {value : α} {rest : List Char} :
    otherShape wanted input ≠ .ok (value, rest) := by
  unfold otherShape
  split <;> exact nofun

/-! ## Lists -/

/-- Up to its bracket a list yields items with the property of each. Nothing is said of what stands
between them, nor of texts that are no lists, since for those nothing is returned. -/
theorem items_yield {item : Reader α} {property : α → Prop} (each : Yields item property)
    (bound : Nat) (first : Bool) :
    Yields (items item bound first) (∀ value ∈ ·, property value) := by
  induction bound generalizing first with
  | zero =>
    intro input values rest read
    cases read
  | succ bound inductionHypothesis =>
    intro input values rest read
    obtain ⟨start, _, read⟩ := bind_ok read
    cases start with
    | none =>
      obtain ⟨after, _, read⟩ := bind_ok read
      cases read
      exact nofun
    | some start =>
      obtain ⟨⟨value, between⟩, here, read⟩ := bind_ok read
      obtain ⟨⟨others, after⟩, later, read⟩ := bind_ok read
      cases read
      exact List.forall_mem_cons.2
        ⟨each start value between here, inductionHypothesis false between others _ later⟩

/-- A list yields items with the property of each, by induction on the items as they are read. -/
theorem list_yields {item : Reader α} {property : α → Prop} (each : Yields item property) :
    Yields (list item) (∀ value ∈ ·, property value) := by
  intro input values rest read
  unfold list at read
  split at read
  · exact items_yield each _ true _ values rest read
  · exact absurd read (other_shape_refuses _ _)

/-! ## Records -/

/-- A field keeps a property of the record under construction, read or left out. -/
structure Field.Keeps (field : Field σ) (property : σ → Prop) : Prop where
  read : ∀ draft, property draft → Yields (field.read draft) property
  absent : ∀ leave ∈ field.absent, ∀ draft, property draft → property (leave draft)

/-- A field that must be there keeps what setting it keeps. If it is left out there is no record at
all. -/
theorem required_keeps {name : String} {get : σ → Option α} {set : σ → α → σ} {reader : Reader α}
    {property : σ → Prop} {wanted : α → Prop} (yields : Yields reader wanted)
    (sets : ∀ draft value, property draft → wanted value → property (set draft value)) :
    (required name get set reader).Keeps property where
  read draft holds := yields.map fun value => sets draft value holds
  absent := nofun

/-- A field that may be left out keeps what setting it keeps, also to its fallback. -/
theorem optional_keeps {name : String} {get : σ → Option α} {set : σ → α → σ} {reader : Reader α}
    {fallback : α} {property : σ → Prop} {wanted : α → Prop} (yields : Yields reader wanted)
    (left : wanted fallback)
    (sets : ∀ draft value, property draft → wanted value → property (set draft value)) :
    (optional name get set reader fallback).Keeps property where
  read draft holds := yields.map fun value => sets draft value holds
  absent := by
    rintro leave ⟨⟩ draft holds
    exact sets draft fallback holds left

variable {fields : List (Field σ)} {property : σ → Prop}

/-- Members keep what their fields keep; unknown ones change nothing. The induction is on the bound
that readers are given. -/
theorem record_members_yield (keeps : ∀ field ∈ fields, field.Keeps property) (bound : Nat)
    (first : Bool) {draft : σ} (holds : property draft) :
    Yields (recordMembers fields bound first draft) property := by
  induction bound generalizing first draft with
  | zero =>
    intro input final rest read
    cases read
  | succ bound inductionHypothesis =>
    intro input final rest read
    obtain ⟨start, _, read⟩ := bind_ok read
    cases start with
    | none =>
      cases read
      exact holds
    | some start =>
      obtain ⟨⟨name, afterName⟩, _, read⟩ := bind_ok read
      -- An unknown member is skipped and leaves the draft as it is.
      cases found : fields.find? (·.name = name) with
      | none =>
        simp only [found] at read
        obtain ⟨afterColon, _, read⟩ := bind_ok read
        obtain ⟨afterValue, _, read⟩ := bind_ok read
        exact inductionHypothesis false holds _ final rest read
      | some field =>
        simp only [found] at read
        split at read
        · cases read
        · obtain ⟨afterColon, _, read⟩ := bind_ok read
          obtain ⟨⟨between, afterValue⟩, here, read⟩ := bind_ok read
          have kept := (keeps field (List.mem_of_find?_eq_some found)).read draft holds
          exact inductionHypothesis false (kept _ between afterValue here) _ final rest read

/-- Filling in what was left out keeps what the fields keep, one absent field after the other. A
field that must be there makes the reading fail, and then there is nothing to keep. -/
theorem complete_keeps (keeps : ∀ field ∈ fields, field.Keeps property) {draft final : σ}
    (holds : property draft) (completed : complete fields draft = .ok final) : property final := by
  induction fields generalizing draft with
  | nil =>
    cases completed
    exact holds
  | cons field fields inductionHypothesis =>
    obtain ⟨here, others⟩ := List.forall_mem_cons.1 keeps
    unfold complete at completed
    split at completed
    · exact inductionHypothesis others holds completed
    · split at completed
      · rename_i leave absent
        exact inductionHypothesis others (here.absent leave absent draft holds) completed
      · cases completed

/-- Items in the places of the fields keep what the fields keep, in a record that is written as a
list. -/
theorem record_items_yield (keeps : ∀ field ∈ fields, field.Keeps property) (wanted : String)
    (position : Nat) {draft : σ} (holds : property draft) :
    Yields (recordItems wanted position fields draft) property := by
  induction fields generalizing position draft with
  | nil =>
    intro input final rest read
    cases read
    exact holds
  | cons field fields inductionHypothesis =>
    obtain ⟨here, others⟩ := List.forall_mem_cons.1 keeps
    intro input final rest read
    obtain ⟨start, _, read⟩ := bind_ok read
    cases start with
    | some start =>
      obtain ⟨⟨between, after⟩, first, read⟩ := bind_ok read
      have kept := here.read draft holds _ between after first
      exact inductionHypothesis others _ kept _ final rest read
    | none =>
      cases absent : field.absent with
      | some leave =>
        simp only [absent] at read
        exact inductionHypothesis others _ (here.absent leave absent draft holds) _ final rest read
      | none =>
        simp only [absent] at read
        cases read

/-- A record yields what the blank one has and every field keeps, in whichever of its two forms it
was written. -/
theorem record_yields (shape : String) {blank : σ} (holds : property blank)
    (keeps : ∀ field ∈ fields, field.Keeps property) :
    Yields (record shape fields blank) property := by
  intro input final rest read
  unfold record at read
  split at read
  · obtain ⟨⟨draft, after⟩, members, read⟩ := bind_ok read
    have kept := record_members_yield keeps _ true holds _ draft after members
    cases completed : complete fields draft with
    | error fault =>
      simp only [completed] at read
      cases read
    | ok whole =>
      simp only [completed] at read
      obtain ⟨ended, _, read⟩ := bind_ok read
      cases read
      exact complete_keeps keeps kept completed
  · obtain ⟨⟨draft, after⟩, items, read⟩ := bind_ok read
    obtain ⟨ended, _, read⟩ := bind_ok read
    cases read
    exact record_items_yield keeps _ 0 holds _ _ after items
  · exact absurd read (other_shape_refuses _ _)

/-! ## Whole documents -/

/-- A document that is read has what its reader yields, as nothing is added to it afterwards. -/
theorem run_yields {reader : Reader α} {property : α → Prop} (yields : Yields reader property)
    {text : String} {value : α} (read : run reader text = .ok value) : property value := by
  obtain ⟨⟨result, rest⟩, here, read⟩ := bind_ok read
  have holds := yields _ result rest here
  simp only at read
  split at read
  · cases read
    exact holds
  · cases read

end Reader

end RelayTree.Json
