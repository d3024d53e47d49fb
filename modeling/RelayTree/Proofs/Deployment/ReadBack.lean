import RelayTree.Deployment.Json
import RelayTree.Proofs.Json.ReadBack
import RelayTree.Proofs.Json.Returned

/-!
# Deployments are read back from their documents

A host may be described with an empty address or an empty connection, and reading takes either for
an absent one. So the document of a deployment is read back as the deployment in its normal form,
in which nothing empty is left, and it is read back as it was exactly if it was in normal form.
What is read from any text at all is in normal form, since every address and every connection has
passed through the same reader.

The names of the hosts need no condition: they are distinct in every roster, and the normal form
keeps them. So the check for doubled names, made on the whole list after it was read, does not fail.
-/

namespace RelayTree

open Json Json.Reader

/-! ## Rosters -/

namespace Roster

/-- Hosts with new names are all added, in order, behind those that were there. That names are
distinct is asked of both lists together, as each host must be new when it is its turn. -/
theorem insert_all_fresh {hosts : List Host} (roster : Roster)
    (distinct : ((roster.hosts ++ hosts).map Host.name).Nodup) :
    roster.insertAll hosts = .ok ⟨roster.hosts ++ hosts, distinct⟩ := by
  induction hosts generalizing roster with
  | nil => simp [insertAll]
  | cons host hosts inductionHypothesis =>
    have fresh : host.name ∉ roster.hosts.map Host.name := by
      intro taken
      rw [List.map_append, List.nodup_append] at distinct
      exact distinct.2.2 _ taken _ List.mem_cons_self rfl
    have inserted : roster.insert host =
        .ok ⟨roster.hosts ++ [host], distinct_append roster.distinct fresh⟩ := dif_neg fresh
    simp only [insertAll, inserted]
    rw [inductionHypothesis _ (by simpa using distinct)]
    simp

/-- Where hosts are added they are added in order, and none is left out. A host whose name is taken
would have stopped the reading, so it is not in the way here. -/
theorem insert_all_hosts {hosts : List Host} {roster after : Roster}
    (added : roster.insertAll hosts = .ok after) : after.hosts = roster.hosts ++ hosts := by
  induction hosts generalizing roster with
  | nil =>
    cases added
    simp
  | cons host hosts inductionHypothesis =>
    unfold insertAll at added
    split at added
    · rename_i next inserted
      unfold insert at inserted
      split at inserted
      · cases inserted
      · cases inserted
        simpa using inductionHypothesis added
    · cases added

/-- A roster is made again from its hosts, as their names are distinct. -/
theorem of_list_hosts (roster : Roster) : ofList roster.hosts = .ok roster :=
  insert_all_fresh empty roster.distinct

/-- Where hosts stand, noted one after the other behind `count` others. A name that comes again
would be noted anew. -/
def noteAll (places : SortedMap String Nat) (count : Nat) : List Host → SortedMap String Nat
  | [] => places
  | host :: rest => noteAll (places.insert host.name count) (count + 1) rest

/-- Where each host stands, by its name, as a second way to find it. -/
def places (roster : Roster) : SortedMap String Nat := noteAll .empty 0 roster.hosts

/-- With distinct names no host is noted anew, so each stays noted where it first stands. -/
theorem noted_place {hosts : List Host} (distinct : (hosts.map Host.name).Nodup)
    (places : SortedMap String Nat) (count : Nat) (name : String) :
    (noteAll places count hosts).get? name =
      ((hosts.findIdx? (·.name = name)).map (· + count)).or (places.get? name) := by
  induction hosts generalizing places count with
  | nil => rfl
  | cons host hosts inductionHypothesis =>
    obtain ⟨fresh, others⟩ := List.nodup_cons.1 distinct
    rw [noteAll, inductionHypothesis others, SortedMap.get?_insert, List.findIdx?_cons]
    by_cases here : host.name = name
    · subst here
      have later : hosts.findIdx? (·.name = host.name) = none := by
        simp only [List.findIdx?_eq_none_iff, decide_eq_false_iff_not]
        exact fun other member same => fresh (same ▸ List.mem_map_of_mem member)
      simp [later]
    · simp [here, Ne.symm here, Option.map_map, Function.comp_def, Nat.add_assoc, Nat.add_comm 1]

/-- A name is noted where the list has it first, which is the only place where it has it. -/
theorem places_get (roster : Roster) (name : String) :
    roster.places.get? name = roster.hosts.findIdx? (·.name = name) := by
  rw [places, noted_place roster.distinct]
  simp

/-- A name is noted in a place just if the host there has it. What is noted is the first such place,
and as names are distinct there is no second one. -/
theorem place_iff (roster : Roster) (name : String) (place : Nat) :
    roster.places.get? name = some place ↔ (roster.hosts.map Host.name)[place]? = some name := by
  rw [places_get, List.findIdx?_eq_some_iff_getElem]
  constructor
  · rintro ⟨within, named, _⟩
    simpa [within] using named
  · intro here
    obtain ⟨within, named⟩ := List.getElem?_eq_some_iff.1 here
    rw [List.length_map] at within
    rw [List.getElem_map] at named
    refine ⟨within, decide_eq_true named, fun earlier before other => ?_⟩
    have there : (roster.hosts.map Host.name)[earlier]? = some name := by
      simpa [Nat.lt_trans before within] using other
    have same := (List.getElem?_inj (by simpa using within) roster.distinct).1
      (here.trans there.symm)
    omega

/-- A name leads to the host in its place, so looking up by places is looking up by names. -/
theorem get_by_place (roster : Roster) (name : String) :
    roster.get? name = (roster.places.get? name).bind (roster.hosts[·]?) := by
  rw [places_get, get?, List.find?_eq_bind_findIdx?_getElem?]

end Roster

/-! ## The normal form -/

/-- Nothing empty stands for an address or a connection, so that absence is written in one way
only. -/
def Host.Normal (host : Host) : Prop :=
  host.serverAddress ≠ some "" ∧ host.connectTo ≠ some ""

/-- Whether a host is in normal form can be decided, by a look at its two fields. -/
instance (host : Host) : Decidable host.Normal :=
  inferInstanceAs (Decidable (_ ∧ _))

/-- Empty addresses and connections are absent, and everything else stays. Reading makes no
difference between the two, so this is the form in which a host comes back. -/
def Host.normalized (host : Host) : Host :=
  ⟨host.name, host.serverAddress.bind nonEmpty, host.connectTo.bind nonEmpty⟩

/-- Every host is in normal form, under the name that it had. -/
def Roster.normalized (roster : Roster) : Roster where
  hosts := roster.hosts.map Host.normalized
  distinct := by
    rw [List.map_map]
    exact roster.distinct

/-- No host has an empty address or an empty connection. Modules have nothing that could be empty in
this sense. -/
def Deployment.Normal (deployment : Deployment) : Prop :=
  ∀ host ∈ deployment.hosts.hosts, host.Normal

/-- Whether a deployment is in normal form can be decided, host by host. -/
instance (deployment : Deployment) : Decidable deployment.Normal :=
  inferInstanceAs (Decidable (∀ host ∈ deployment.hosts.hosts, host.Normal))

/-- Every host is in normal form; the modules stay as they are. -/
def Deployment.normalized (deployment : Deployment) : Deployment :=
  ⟨deployment.hosts.normalized, deployment.modules⟩

/-- Only empty text is taken for an absent one, so any other is kept. -/
theorem bind_non_empty {text : Option String} (present : text ≠ some "") :
    text.bind nonEmpty = text := by
  cases text with
  | none => rfl
  | some text =>
    have kept : ¬ text.isEmpty := fun empty => present (congrArg some (String.isEmpty_iff.1 empty))
    exact if_neg kept

/-- Empty text never remains, whatever was there before. -/
theorem bind_non_empty_present (text : Option String) : text.bind nonEmpty ≠ some "" := by
  intro remains
  obtain ⟨text, _, kept⟩ := Option.bind_eq_some_iff.1 remains
  unfold nonEmpty at kept
  split at kept
  · cases kept
  · rename_i present
    cases kept
    exact present rfl

/-- A deployment in normal form is its own normal form, so for such a one nothing changes when it is
read back. -/
theorem Deployment.Normal.normalized_eq {deployment : Deployment} (normal : deployment.Normal) :
    deployment.normalized = deployment := by
  have hosts : deployment.hosts.hosts.map Host.normalized = deployment.hosts.hosts := by
    refine (List.map_congr_left fun host member => ?_).trans (List.map_id _)
    obtain ⟨address, connection⟩ := normal host member
    simp only [Host.normalized, bind_non_empty address, bind_non_empty connection, id]
  obtain ⟨⟨all, distinct⟩, modules⟩ := deployment
  simp only [Deployment.normalized, Roster.normalized, hosts]

/-! ## What is written is read back in normal form -/

/-- A text that may be missing is read back without emptiness: an empty one is read as absent. -/
theorem Host.text_or_nothing_reads (text : Option String) :
    Reads Host.textOrNothing (Value.ofOption text).write (text.bind nonEmpty) :=
  (optional_text_reads text).map (Option.bind · nonEmpty)

/-- A host is read back in normal form, from the three fields of its document. -/
theorem Host.reads_back (host : Host) : Reads Host.reader host.toValue.write host.normalized := by
  have fills : Fills Host.fields {} _
      ⟨some host.name, some (host.serverAddress.bind nonEmpty),
        some (host.connectTo.bind nonEmpty)⟩ :=
    .next rfl ((text_reads host.name).map _) <|
    .next rfl ((text_or_nothing_reads host.serverAddress).map _) <|
    .next rfl ((text_or_nothing_reads host.connectTo).map _) .done
  exact (record_reads "struct HostDescription" (by decide) fills
    (by simp [Host.fields, required, Reader.optional])).map Host.Draft.finish

/-- A roster is read back in normal form. Its names are the same, and so none is refused for being
there twice. -/
theorem Roster.reads_back (roster : Roster) :
    Reads Roster.reader roster.toValue.write roster.normalized := by
  have list := list_reads Host.reads_back roster.hosts
  refine ⟨list.starts, fun rest ends => ?_⟩
  have remade : ofList (roster.hosts.map Host.normalized) = .ok roster.normalized :=
    roster.normalized.of_list_hosts
  have read : (Reader.list Host.reader) (roster.toValue.write ++ rest) =
      .ok (roster.hosts.map Host.normalized, rest) := list.taken rest ends
  simp only [Roster.reader, read, remade]

/-- A module is read back as it was, with all of its channels and properties. Its six fields are
read in the order in which they are written, and none of them is left out. -/
theorem ModuleSpec.reads_back (spec : ModuleSpec) :
    Reads ModuleSpec.reader spec.toValue.write spec := by
  have fills : Fills ModuleSpec.fields {} _
      ⟨some spec.id, some spec.className, some spec.host, some spec.properties, some spec.inputs,
        some spec.outputs⟩ :=
    .next rfl ((text_reads spec.id).map _) <|
    .next rfl ((text_reads spec.className).map _) <|
    .next rfl ((text_reads spec.host).map _) <|
    .next rfl ((texts_reads spec.properties).map _) <|
    .next rfl ((texts_reads spec.inputs).map _) <|
    .next rfl ((texts_reads spec.outputs).map _) .done
  exact (record_reads "struct ModuleDescription" (by decide) fills
    (by simp [ModuleSpec.fields, required, Reader.optional])).map ModuleSpec.Draft.finish

namespace Deployment

/-- A deployment is read back in normal form, its hosts first and then its modules. -/
theorem reads_back (deployment : Deployment) :
    Reads reader deployment.toValue.write deployment.normalized := by
  have modules := list_reads ModuleSpec.reads_back deployment.modules
  rw [List.map_id'] at modules
  have fills : Fills fields {} _ ⟨some deployment.hosts.normalized, some deployment.modules⟩ :=
    .next rfl (deployment.hosts.reads_back.map _) <|
    .next rfl (modules.map _) .done
  exact (record_reads "struct Configuration" (by decide) fills
    (by simp [fields, required, Reader.optional])).map Draft.finish

/-- The text of a deployment is read back as its normal form, whatever the deployment is. -/
theorem of_json_normalized (deployment : Deployment) :
    ofJson deployment.toJson = .ok deployment.normalized := by
  have read := run_compact deployment.reads_back
  simp only [ofJson, toJson, read]

end Deployment

/-! ## What is read is in normal form -/

namespace Host

/-- Nothing empty was read into a host under construction. A field that has not come yet is not
empty. -/
def Draft.Normal (draft : Draft) : Prop :=
  draft.serverAddress ≠ some (some "") ∧ draft.connectTo ≠ some (some "")

/-- What is read for an address or a connection is never empty, as the reader takes that for
absent. -/
theorem text_or_nothing_yields : Yields textOrNothing (· ≠ some "") :=
  (yields_any optionalText).map fun text _ => bind_non_empty_present text

/-- Every host that is read is in normal form, from whatever text it was read. -/
theorem reader_yields : Yields reader Host.Normal := by
  -- The blank host has nothing empty, and neither has the fallback of a field that is left out.
  have keeps : ∀ field ∈ fields, field.Keeps Draft.Normal := by
    simp only [fields, List.forall_mem_cons]
    refine ⟨?name, ?address, ?connection, nofun⟩
    case name => exact required_keeps (yields_any text) fun draft name normal _ => normal
    case address =>
      refine optional_keeps text_or_nothing_yields nofun fun draft address normal present => ?_
      exact ⟨fun empty => present (Option.some.inj empty), normal.2⟩
    case connection =>
      refine optional_keeps text_or_nothing_yields nofun fun draft connection normal present => ?_
      exact ⟨normal.1, fun empty => present (Option.some.inj empty)⟩
  refine (record_yields _ ⟨nofun, nofun⟩ keeps).map fun draft normal => ?_
  have without : ∀ text : Option (Option String), text ≠ some (some "") →
      text.getD none ≠ some "" := by
    rintro (_ | text) present empty
    · cases empty
    · exact present (congrArg some empty)
  exact ⟨without _ normal.1, without _ normal.2⟩

end Host

/-- Every host of a roster that is read is in normal form, since each of them was read as a host. -/
theorem Roster.reader_yields :
    Yields Roster.reader fun roster => ∀ host ∈ roster.hosts, host.Normal := by
  intro input roster rest read
  unfold Roster.reader at read
  split at read
  · cases read
  · rename_i hosts after listed
    split at read
    · rename_i made remade
      cases read
      have all : roster.hosts = hosts := insert_all_hosts remade
      rw [all]
      exact list_yields Host.reader_yields input hosts _ listed
    · cases read

namespace Deployment

/-- Every roster that was read into a deployment under construction is in normal form. -/
def Draft.Normal (draft : Draft) : Prop :=
  ∀ roster ∈ draft.hosts, ∀ host ∈ roster.hosts, host.Normal

/-- Every deployment that is read is in normal form, in whichever order its fields came. -/
theorem reader_yields : Yields reader Normal := by
  have keeps : ∀ field ∈ fields, field.Keeps Draft.Normal := by
    simp only [fields, List.forall_mem_cons]
    refine ⟨?hosts, ?modules, nofun⟩
    case hosts =>
      refine required_keeps Roster.reader_yields fun draft roster _ normal => ?_
      rintro _ ⟨⟩
      exact normal
    case modules =>
      exact optional_keeps (yields_any _) trivial fun draft modules normal _ => normal
  refine (record_yields _ nofun keeps).map fun draft normal => ?_
  obtain ⟨hosts, modules⟩ := draft
  cases hosts with
  | none => exact nofun
  | some roster => exact normal roster rfl

/-- Whatever text a deployment was read from, it is in normal form, and so it will be read back as
it is. -/
theorem of_json_normal {text : String} {deployment : Deployment}
    (read : ofJson text = .ok deployment) : deployment.Normal := by
  unfold ofJson at read
  split at read
  · rename_i result here
    cases read
    exact run_yields reader_yields here
  · cases read

/-- A deployment without empty addresses and connections is read back from its document as it was,
and whatever is read from any text is such a deployment. Each of its hosts is noted under its name
in its place and is found there.

Proof: each reader is followed along what the writer beside it has written, member by member, which
gives the deployment in its normal form. Conversely every address and connection that was read has
passed through the reader that drops empty texts, so that what is read is in normal form already.
Where a host is noted is a matter of the roster alone, and is shown by going over its hosts. Names,
addresses and channels are arbitrary texts; nothing is assumed about their characters. -/
theorem json_stable (deployment : Deployment) :
    (deployment.Normal → ofJson deployment.toJson = .ok deployment) ∧
      (∀ text, ofJson text = .ok deployment →
        deployment.Normal ∧ ofJson deployment.toJson = .ok deployment) ∧
      ∀ name,
        (∀ place, deployment.hosts.places.get? name = some place ↔
          (deployment.hosts.hosts.map Host.name)[place]? = some name) ∧
        deployment.hosts.get? name =
          (deployment.hosts.places.get? name).bind (deployment.hosts.hosts[·]?) := by
  have back : deployment.Normal → ofJson deployment.toJson = .ok deployment := by
    intro normal
    have read := of_json_normalized deployment
    rwa [normal.normalized_eq] at read
  have found := fun name =>
    And.intro (deployment.hosts.place_iff name) (deployment.hosts.get_by_place name)
  refine ⟨back, fun text read => ?_, found⟩
  have normal := of_json_normal read
  exact ⟨normal, back normal⟩

/-- Two hosts and a module whose names need escapes or are not plain letters. -/
def unusual : Deployment where
  hosts := ⟨[.root "ro\"ot\n" "\\:0", .client "čl\x01ient " "ro\"ot\n"], by decide⟩
  modules := [(ModuleSpec.plain "\t" "" "🜨").subscribe "\x1f" "a/b" |>.publish "" "\x7f"]

/-- A deployment with unusual names is stable: its text is read back as it is, escapes and all. -/
theorem unusual_deployment_stable :
    unusual.Normal ∧ ofJson unusual.toJson = .ok unusual ∧
      unusual.hosts.get? "ro\"ot\n" = some (.root "ro\"ot\n" "\\:0") := by
  have normal : unusual.Normal := by decide
  obtain ⟨back, returned, found⟩ := json_stable unusual
  refine ⟨(returned unusual.toJson (back normal)).1, back normal, ?_⟩
  rw [(found _).2]
  decide

end Deployment

end RelayTree
