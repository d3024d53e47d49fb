import Mathlib.Data.List.Perm.Basic
import RelayTree.Proofs.Switchboard.Changes

/-!
# Batches of samples

A module presents the types of its channels by samples, one after the other, and an earlier sample
fixes what a later one must match. Still the order does not matter: `Consistent` is a property of
the samples as a set, and exactly the consistent batches are accepted. `TypedBy` says the same of
what a batch leaves behind, and determines it. Both are related to the walk over the samples by one
induction, `present_each_exact`; what a batch does that is presented in another order, or once
more, follows from them alone. A batch that is refused has done what the samples before the first
offending one do.
-/

namespace RelayTree

namespace Channels

/-- The connection that a sample of a module is for. The sample names the channel as the module
does, and it does not matter in which role the channel is bound. -/
def Lands (channels : Channels) (module : String) (sample : Message) (name : String) : Prop :=
  ∃ role, channels.resolve? ⟨module, sample.channel⟩ = some ⟨name, role⟩

/-- A sample that a module may present, whatever its type is: data from or for the module, on a
channel that the module has bound. -/
structure Admits (channels : Channels) (module : String) (sample : Message) : Prop where
  data : sample.isControl = false
  party : sample.source.module = module ∨ sample.target.module = module
  bound : ∃ name, channels.Lands module sample name

/-- All samples may be presented, and those for one connection have one type, which is the agreed
one if there is any. -/
structure Consistent (channels : Channels) (module : String) (samples : List Message) : Prop where
  admitted : ∀ sample ∈ samples, channels.Admits module sample
  single : ∀ sample ∈ samples, ∀ other ∈ samples, ∀ name,
    channels.Lands module sample name → channels.Lands module other name → sample.tag = other.tag
  agreed : ∀ sample ∈ samples, ∀ name tag,
    channels.Lands module sample name → channels.tagOf name = some tag → tag = sample.tag

/-- The connections that samples are for have the types of these, and nothing else is different. The
samples occur as members only, so that their order cannot matter. -/
structure TypedBy (before : Channels) (module : String) (samples : List Message)
    (after : Channels) : Prop where
  bindings : after.bindings = before.bindings
  reached : ∀ sample ∈ samples, ∀ name, before.Lands module sample name →
    after.connections.get? name = some { before.connection name with tag := some sample.tag }
  others : ∀ name, (∀ sample ∈ samples, ¬ before.Lands module sample name) →
    after.connections.get? name = before.connections.get? name

variable {channels before after later : Channels} {module name tag : String}
  {sample other : Message} {samples rest : List Message}

/-! ## One sample -/

/-- A channel has one connection, so a sample lands on one at most. -/
theorem lands_unique {first second : String} (one : channels.Lands module sample first)
    (two : channels.Lands module sample second) : first = second := by
  obtain ⟨role, bound⟩ := one
  obtain ⟨way, also⟩ := two
  cases bound.symm.trans also
  rfl

/-- Where samples land is a matter of the bindings, and presenting samples changes none of these.
Every sample of a batch lands where it would have landed at the beginning. -/
theorem lands_congr (same : after.bindings = before.bindings) :
    after.Lands module sample name ↔ before.Lands module sample name := by
  simp only [Lands, resolve?, same]

/-- The type of a connection after one of them was given a type. -/
theorem typed_tag {target : String} : (channels.typed name tag).tagOf target =
    if target = name then some tag else channels.tagOf target := by
  rw [tagOf, typed, connection_insert]
  split <;> rfl

/-- A connection agrees on a type that it can get, and becomes itself with that type. -/
theorem agree_typeable (typeable : channels.Typeable name tag) :
    (channels.connection name).agree name module tag =
      .ok { channels.connection name with tag := some tag } := by
  cases earlier : (channels.connection name).tag with
  | none => rw [Connection.agree, earlier]
  | some agreed =>
    obtain rfl : agreed = tag := typeable agreed earlier
    rw [Connection.agree, earlier]
    simp only [if_true]
    rw [← earlier]

/-- A sample that may be presented is accepted if its connection can get its type. The checks are
gone through in their order, and each is met by a part of the assumption. -/
theorem present_admitted (admits : channels.Admits module sample)
    (lands : channels.Lands module sample name) (typeable : channels.Typeable name sample.tag) :
    channels.present module sample = .ok (channels.typed name sample.tag) := by
  obtain ⟨role, bound⟩ := lands
  have data : ¬ sample.isControl = true := by simp [admits.data]
  have party : ¬ (sample.source.module ≠ module ∧ sample.target.module ≠ module) := by
    rintro ⟨source, target⟩
    exact admits.party.elim source target
  rw [present, if_neg data, if_neg party, bound]
  simp only [agree_typeable typeable]
  rfl

/-- No other sample is accepted: one that got through was admitted, landed somewhere, and gave its
type to a connection that could get it. -/
theorem present_accepted (accepted : channels.present module sample = .ok after) :
    channels.Admits module sample ∧ ∃ name, channels.Lands module sample name ∧
      channels.Typeable name sample.tag ∧ after = channels.typed name sample.tag := by
  obtain ⟨⟨name, role⟩, bound, rfl, typeable⟩ := present_types accepted
  have lands : channels.Lands module sample name := ⟨role, bound⟩
  refine ⟨?_, name, lands, typeable, rfl⟩
  rw [present] at accepted
  split at accepted
  · cases accepted
  · rename_i data
    split at accepted
    · cases accepted
    · rename_i party
      constructor
      case data => exact Bool.not_eq_true _ ▸ data
      case party => exact Decidable.or_iff_not_not_and_not.mpr party
      case bound => exact ⟨name, lands⟩

/-! ## A batch, sample by sample -/

/-- A batch is consistent if its first sample may be presented with its type, and the others are
consistent once the connection has that type. -/
theorem consistent_cons_iff (lands : channels.Lands module sample name) :
    channels.Consistent module (sample :: rest) ↔
      channels.Admits module sample ∧ channels.Typeable name sample.tag ∧
        (channels.typed name sample.tag).Consistent module rest := by
  constructor
  · intro consistent
    have typeable : channels.Typeable name sample.tag := fun tag earlier =>
      consistent.agreed sample List.mem_cons_self name tag lands earlier
    refine ⟨consistent.admitted sample List.mem_cons_self, typeable, ?_⟩
    constructor
    case admitted =>
      intro other listed
      obtain ⟨data, party, bound⟩ := consistent.admitted other (List.mem_cons_of_mem _ listed)
      exact ⟨data, party, bound⟩
    case single =>
      intro one first other second
      exact consistent.single one (List.mem_cons_of_mem _ first) other
        (List.mem_cons_of_mem _ second)
    case agreed =>
      intro other listed target tag there agreed
      have member := List.mem_cons_of_mem sample listed
      rw [typed_tag] at agreed
      split at agreed
      · rename_i same
        subst same
        cases agreed
        exact consistent.single sample List.mem_cons_self other member target lands there
      · exact consistent.agreed other member target tag there agreed
  · rintro ⟨admits, typeable, others⟩
    -- A later sample for the same connection has the type that the first one gave it.
    have matching : ∀ other ∈ rest, channels.Lands module other name → sample.tag = other.tag := by
      intro other listed there
      exact others.agreed other listed name sample.tag there (by rw [typed_tag, if_pos rfl])
    constructor
    case admitted =>
      intro other listed
      rcases List.mem_cons.mp listed with rfl | later
      · exact admits
      · obtain ⟨data, party, bound⟩ := others.admitted other later
        exact ⟨data, party, bound⟩
    case single =>
      intro one first other second target here there
      rcases List.mem_cons.mp first with rfl | oneLater <;>
        rcases List.mem_cons.mp second with rfl | otherLater
      · rfl
      · obtain rfl := lands_unique here lands
        exact matching other otherLater there
      · obtain rfl := lands_unique there lands
        exact (matching one oneLater here).symm
      · exact others.single one oneLater other otherLater target here there
    case agreed =>
      intro other listed target tag there agreed
      rcases List.mem_cons.mp listed with rfl | later
      · obtain rfl := lands_unique there lands
        exact typeable tag agreed
      · by_cases same : target = name
        · subst same
          exact (typeable tag agreed).trans (matching other later there)
        · exact others.agreed other later target tag there (by rwa [typed_tag, if_neg same])

/-- What the others leave behind, with the type that the first sample gave, is what all do. If a
later sample lands on the same connection it has the same type, by consistency, and so the last one
there does not change what the first one did. -/
theorem typed_by_cons (lands : channels.Lands module sample name)
    (consistent : channels.Consistent module (sample :: rest))
    (typedBy : (channels.typed name sample.tag).TypedBy module rest after) :
    channels.TypedBy module (sample :: rest) after := by
  have typed_connection (target : String) : (channels.typed name sample.tag).connection target =
      if target = name then { channels.connection name with tag := some sample.tag }
      else channels.connection target := connection_insert ..
  have typed_get (target : String) : (channels.typed name sample.tag).connections.get? target =
      if target = name then some { channels.connection name with tag := some sample.tag }
      else channels.connections.get? target := SortedMap.get?_insert ..
  -- The connection of a later sample is as it was but for its type.
  have later_reached : ∀ other ∈ rest, ∀ target, channels.Lands module other target →
      after.connections.get? target =
        some { channels.connection target with tag := some other.tag } := by
    intro other listed target there
    rw [typedBy.reached other listed target there, typed_connection]
    split
    · rename_i same
      rw [same]
    · rfl
  constructor
  case bindings => exact typedBy.bindings
  case reached =>
    intro other listed target there
    rcases List.mem_cons.mp listed with rfl | later
    · obtain rfl := lands_unique there lands
      by_cases again : ∃ next ∈ rest, channels.Lands module next target
      · obtain ⟨next, member, also⟩ := again
        rw [later_reached next member target also, consistent.single other List.mem_cons_self next
          (List.mem_cons_of_mem _ member) target there also]
      · have unreached : ∀ next ∈ rest, ¬ channels.Lands module next target :=
          fun next member also => again ⟨next, member, also⟩
        rw [typedBy.others target unreached, typed_get, if_pos rfl]
    · exact later_reached other later target there
  case others =>
    intro target unreached
    have apart : target ≠ name := by
      rintro rfl
      exact unreached sample List.mem_cons_self lands
    have rest_unreached : ∀ next ∈ rest, ¬ channels.Lands module next target :=
      fun next member => unreached next (List.mem_cons_of_mem _ member)
    rw [typedBy.others target rest_unreached, typed_get, if_neg apart]

/-- What becomes of a batch. Where it is refused, `applied` are the samples before the first
offending one. -/
inductive Verdict (channels : Channels) (module : String) (samples : List Message) :
    Outcome Channels Unit → Prop where
  | accepted {after : Channels} (consistent : channels.Consistent module samples)
    (typedBy : channels.TypedBy module samples after) :
    Verdict channels module samples (.ok after ())
  | refused {applied later : List Message} {offending : Message} {after : Channels}
    {failure : Failure} (split : samples = applied ++ offending :: later)
    (consistent : channels.Consistent module applied)
    (offends : ¬ channels.Consistent module (applied ++ [offending]))
    (typedBy : channels.TypedBy module applied after)
    (reason : after.present module offending = .error failure) :
    Verdict channels module samples (.fail after failure)

/-- A batch without samples is consistent. -/
theorem nothing_consistent (channels : Channels) (module : String) :
    channels.Consistent module [] := ⟨nofun, nofun, nofun⟩

/-- It has no effect: what it leaves behind are the channels it found. -/
theorem nothing_typed (channels : Channels) (module : String) : channels.TypedBy module [] channels :=
  ⟨rfl, nofun, fun _ _ => rfl⟩

/-- The walk over a batch accepts exactly the consistent ones, and stops at the first sample that
is not consistent with those before. -/
theorem present_each_exact (module : String) (samples : List Message) (channels : Channels) :
    channels.Verdict module samples (channels.presentEach module samples) := by
  induction samples generalizing channels with
  | nil => exact .accepted (nothing_consistent channels module) (nothing_typed channels module)
  | cons sample rest inductionHypothesis =>
    rw [presentEach]
    cases presented : channels.present module sample with
    | error failure =>
      refine .refused (List.nil_append _).symm (nothing_consistent channels module) ?_
        (nothing_typed channels module) presented
      intro consistent
      rw [List.nil_append] at consistent
      obtain ⟨name, lands⟩ := (consistent.admitted sample List.mem_cons_self).bound
      obtain ⟨admits, typeable, _⟩ := (consistent_cons_iff lands).mp consistent
      cases presented.symm.trans (present_admitted admits lands typeable)
    | ok changed =>
      obtain ⟨admits, name, lands, typeable, rfl⟩ := present_accepted presented
      dsimp only
      have verdict := inductionHypothesis (channels.typed name sample.tag)
      generalize (channels.typed name sample.tag).presentEach module rest = outcome at verdict ⊢
      cases verdict with
      | accepted consistent typedBy =>
        have all := (consistent_cons_iff lands).mpr ⟨admits, typeable, consistent⟩
        exact .accepted all (typed_by_cons lands all typedBy)
      | refused split consistent offends typedBy reason =>
        rename_i applied later offending after failure
        have all := (consistent_cons_iff lands).mpr ⟨admits, typeable, consistent⟩
        refine .refused (congrArg (sample :: ·) split) all ?_ (typed_by_cons lands all typedBy)
          reason
        intro whole
        exact offends ((consistent_cons_iff lands).mp whole).2.2

/-! ## Batches as sets -/

/-- A batch leaves nothing to choice: its effect on each connection is said by the samples that land
there, and where none lands nothing changes. -/
theorem typed_by_unique (one : before.TypedBy module samples after)
    (two : before.TypedBy module samples later) : after = later := by
  have connections : after.connections = later.connections := by
    apply SortedMap.ext_get?
    intro name
    by_cases reached : ∃ sample ∈ samples, before.Lands module sample name
    · obtain ⟨sample, listed, lands⟩ := reached
      rw [one.reached sample listed name lands, two.reached sample listed name lands]
    · have unreached : ∀ sample ∈ samples, ¬ before.Lands module sample name :=
        fun sample listed lands => reached ⟨sample, listed, lands⟩
      rw [one.others name unreached, two.others name unreached]
  have bindings := one.bindings.trans two.bindings.symm
  cases after
  cases later
  cases connections
  cases bindings
  rfl

/-- Whether a batch is consistent depends on its samples only, and the fewer the better. -/
theorem consistent_subset {fewer : List Message} (among : fewer ⊆ samples)
    (consistent : channels.Consistent module samples) : channels.Consistent module fewer where
  admitted := fun sample listed => consistent.admitted sample (among listed)
  single := fun one first other second => consistent.single one (among first) other (among second)
  agreed := fun sample listed => consistent.agreed sample (among listed)

/-- What a batch leaves behind does not depend on the order of its samples. -/
theorem typed_by_perm {other : List Message} (perm : samples.Perm other)
    (typedBy : before.TypedBy module samples after) : before.TypedBy module other after where
  bindings := typedBy.bindings
  reached := fun sample listed => typedBy.reached sample (perm.mem_iff.mpr listed)
  others := fun name unreached => typedBy.others name fun sample listed =>
    unreached sample (perm.mem_iff.mp listed)

/-- A batch that was accepted is consistent with what it left behind, and leaves that as it is. -/
theorem typed_by_again (consistent : before.Consistent module samples)
    (typedBy : before.TypedBy module samples after) :
    after.Consistent module samples ∧ after.TypedBy module samples after := by
  have connection {sample : Message} {name : String} (listed : sample ∈ samples)
      (lands : before.Lands module sample name) : after.connection name =
        { before.connection name with tag := some sample.tag } :=
    connection_found (typedBy.reached sample listed name lands)
  constructor
  · constructor
    case admitted =>
      intro sample listed
      obtain ⟨data, party, name, lands⟩ := consistent.admitted sample listed
      exact ⟨data, party, name, (lands_congr typedBy.bindings).mpr lands⟩
    case single =>
      intro one first other second name here there
      exact consistent.single one first other second name ((lands_congr typedBy.bindings).mp here)
        ((lands_congr typedBy.bindings).mp there)
    case agreed =>
      intro sample listed name tag lands agreed
      rw [tagOf, connection listed ((lands_congr typedBy.bindings).mp lands)] at agreed
      exact (Option.some.inj agreed).symm
  · constructor
    case bindings => rfl
    case reached =>
      intro sample listed name lands
      have landed := (lands_congr typedBy.bindings).mp lands
      rw [typedBy.reached sample listed name landed, connection listed landed]
    case others => exact fun _ _ => rfl

/-- A connection that has a type is not changed by a consistent batch. -/
theorem tagged_kept {connection : Connection} (consistent : before.Consistent module samples)
    (typedBy : before.TypedBy module samples after)
    (there : before.connections.get? name = some connection) (tagged : connection.tag = some tag) :
    after.connections.get? name = some connection := by
  have present := connection_found there
  by_cases reached : ∃ sample ∈ samples, before.Lands module sample name
  · obtain ⟨sample, listed, lands⟩ := reached
    have same := consistent.agreed sample listed name tag lands (by rw [tagOf, present, tagged])
    rw [typedBy.reached sample listed name lands, present, ← same, ← tagged]
  · rw [typedBy.others name fun sample listed lands => reached ⟨sample, listed, lands⟩, there]

/-- A consistent batch is accepted with just its effect. This is half of what one induction over the
samples has shown. -/
theorem present_each_consistent (consistent : channels.Consistent module samples) :
    ∃ after, channels.presentEach module samples = .ok after () ∧
      channels.TypedBy module samples after := by
  have verdict := present_each_exact module samples channels
  generalize channels.presentEach module samples = outcome at verdict
  cases verdict with
  | accepted _ typedBy => exact ⟨_, rfl, typedBy⟩
  | refused split earlier offends =>
    subst split
    refine absurd (consistent_subset ?_ consistent) offends
    exact List.append_subset.mpr ⟨List.subset_append_left .., fun one listed =>
      List.mem_append_right _ (List.mem_singleton.mp listed ▸ List.mem_cons_self)⟩

end Channels

namespace Switchboard

/-- A batch of a module with a name changes the channels only, and the board around them stays what
it is. -/
theorem present_named {board : Switchboard} {module : String} (named : module ≠ "")
    (samples : List Message) : board.present module samples =
      (board.channels.presentEach module samples).within fun channels =>
        { board with channels := channels } := by
  rw [present, Channels.presentAll, if_neg]
  rwa [String.isEmpty_iff]

/-- A batch of nobody is refused at once, before any sample is looked at. -/
theorem present_unnamed (board : Switchboard) (samples : List Message) :
    board.present "" samples =
      .fail board (.invalidChannelSample "" "module id must not be empty") := by
  rfl

/-- What is known of a batch that a module presents: when it is accepted, what it leaves, that order
and repetition do not matter, and how far a refused one came. -/
structure ExactBatch (board : Switchboard) (module : String) (samples : List Message) : Prop where
  accepted : (board.present module samples).result = .ok () ↔
    module ≠ "" ∧ board.channels.Consistent module samples
  settled : (board.present module samples).result = .ok () → ∃ channels,
    board.present module samples = .ok { board with channels := channels } () ∧
      board.channels.TypedBy module samples channels ∧
      ∀ name connection tag, board.channels.connections.get? name = some connection →
        connection.tag = some tag → channels.connections.get? name = some connection
  /-- A refused batch has done what the samples before the first offending one do. -/
  refused : ∀ failure, (board.present module samples).result = .error failure →
    module = "" ∧ (board.present module samples).state = board ∨
      ∃ applied offending later after, samples = applied ++ offending :: later ∧
        board.channels.Consistent module applied ∧
        ¬ board.channels.Consistent module (applied ++ [offending]) ∧
        board.present module applied = .ok after () ∧
        (board.present module samples).state = after ∧
        (after.present module [offending]).result = .error failure
  permuted : (board.present module samples).result = .ok () → ∀ other, other.Perm samples →
    board.present module other = board.present module samples
  repeated : (board.present module samples).result = .ok () →
    (board.present module samples).state.present module samples =
      .ok (board.present module samples).state ()

/-- A consistent batch of a module is accepted with just its effect, on the whole board. -/
theorem present_consistent {board : Switchboard} {module : String} {samples : List Message}
    (named : module ≠ "") (consistent : board.channels.Consistent module samples) :
    ∃ channels, board.present module samples = .ok { board with channels := channels } () ∧
      board.channels.TypedBy module samples channels := by
  obtain ⟨channels, presented, typedBy⟩ := Channels.present_each_consistent consistent
  refine ⟨channels, ?_, typedBy⟩
  rw [present_named named, presented]
  rfl

/-- An accepted batch is a consistent one of a module: had it not been, some sample would have been
refused. -/
theorem consistent_of_accepted {board : Switchboard} {module : String} {samples : List Message}
    (accepted : (board.present module samples).result = .ok ()) :
    module ≠ "" ∧ board.channels.Consistent module samples := by
  have named : module ≠ "" := by
    rintro rfl
    rw [present_unnamed] at accepted
    cases accepted
  refine ⟨named, ?_⟩
  have verdict := Channels.present_each_exact module samples board.channels
  rw [present_named named] at accepted
  generalize board.channels.presentEach module samples = outcome at verdict accepted
  cases verdict with
  | accepted consistent => exact consistent
  | refused => cases accepted

/-- Exactly the consistent batches of samples are accepted, in any order, and with the same effect,
which is to give types to connections that had none.

Proof: `present_each_exact` relates the walk to the sets, by induction on the samples. From then on
the walk is not looked at any more. A batch in another order has the same samples and is consistent
too, and what a batch leaves behind is determined by `TypedBy`, which does not mention the order
either. A batch presented again finds its own types. The channels before the batch are arbitrary. -/
theorem batch_exact (board : Switchboard) (module : String) (samples : List Message) :
    board.ExactBatch module samples := by
  constructor
  case accepted =>
    constructor
    · exact consistent_of_accepted
    · rintro ⟨named, consistent⟩
      obtain ⟨channels, presented, _⟩ := present_consistent named consistent
      rw [presented]
      rfl
  case settled =>
    intro accepted
    obtain ⟨named, consistent⟩ := consistent_of_accepted accepted
    obtain ⟨channels, presented, typedBy⟩ := present_consistent named consistent
    exact ⟨channels, presented, typedBy, fun name connection tag =>
      Channels.tagged_kept consistent typedBy⟩
  case refused =>
    intro failure refused
    by_cases nobody : module = ""
    · subst nobody
      exact .inl ⟨rfl, rfl⟩
    · refine .inr ?_
      have verdict := Channels.present_each_exact module samples board.channels
      rw [present_named nobody] at refused ⊢
      generalize board.channels.presentEach module samples = outcome at verdict refused ⊢
      cases verdict with
      | accepted => cases refused
      | refused split consistent offends typedBy reason =>
        rename_i applied later offending after other
        cases refused
        obtain ⟨channels, presented, settled⟩ := present_consistent nobody consistent
        obtain rfl := Channels.typed_by_unique typedBy settled
        refine ⟨applied, offending, later, _, split, consistent, offends, presented, rfl, ?_⟩
        rw [present_named nobody]
        simp only [Channels.presentEach, reason]
        rfl
  case permuted =>
    intro accepted other perm
    obtain ⟨named, consistent⟩ := consistent_of_accepted accepted
    obtain ⟨channels, presented, typedBy⟩ := present_consistent named consistent
    obtain ⟨reordered, again, settled⟩ := present_consistent named
      (Channels.consistent_subset perm.subset consistent)
    obtain rfl := Channels.typed_by_unique (Channels.typed_by_perm perm settled) typedBy
    exact again.trans presented.symm
  case repeated =>
    intro accepted
    obtain ⟨named, consistent⟩ := consistent_of_accepted accepted
    obtain ⟨channels, presented, typedBy⟩ := present_consistent named consistent
    obtain ⟨still, same⟩ := Channels.typed_by_again consistent typedBy
    obtain ⟨later, again, settled⟩ :=
      @present_consistent { board with channels := channels } module samples named still
    obtain rfl := Channels.typed_by_unique same settled
    rw [presented]
    exact again

/-- A host with one module that has two channels on one connection, so that two samples of it can be
at odds. -/
def duet : Switchboard :=
  ((create .empty).1.serveAll (create .empty).2
    [.enroll "A" "class" .empty, .bind ⟨"A", "one"⟩ ⟨"c", .publisher⟩,
      .bind ⟨"A", "two"⟩ ⟨"c", .subscriber⟩]).1

/-- A sample on one of its channels, from the module itself as samples have to be. -/
def sampleOn (channel : String) (payload : Payload) : Message :=
  ⟨"m", channel, ⟨"S", "A"⟩, ⟨"", ""⟩, "", 0, .data payload⟩

/-- Two samples of one type are accepted in either order. One of another type between them is
refused, and the sample before it stays applied. -/
theorem duet_either_way :
    let first := sampleOn "one" (.bool true)
    let second := sampleOn "two" (.bool false)
    let other := sampleOn "two" (.text "t")
    (duet.present "A" [first, second]).result = .ok () ∧
      duet.present "A" [second, first] = duet.present "A" [first, second] ∧
      (duet.present "A" [first, other, second]).state = (duet.present "A" [first]).state ∧
      ¬ duet.channels.Consistent "A" [first, other, second] := by
  intro first second other
  have accepted : (duet.present "A" [first, second]).result = .ok () := by decide +kernel
  have reordered := (batch_exact duet "A" [first, second]).permuted accepted [second, first]
    (List.Perm.swap first second [])
  refine ⟨accepted, reordered, by decide +kernel, fun consistent => ?_⟩
  have through := (batch_exact duet "A" [first, other, second]).accepted.mpr ⟨by decide, consistent⟩
  have refused : (duet.present "A" [first, other, second]).result ≠ .ok () := by decide +kernel
  exact refused through

end Switchboard

end RelayTree
