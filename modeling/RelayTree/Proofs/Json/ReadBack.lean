import RelayTree.Proofs.Json.Scanning
import RelayTree.Proofs.Keyed

/-!
# Written values are read back

A reader reads a written text for a value when it takes just that text from the front, whatever
comes after it. The only thing asked of what comes after is that it does not go on with a numeral,
and inside a document a comma or a closing bracket always follows. Each way to build a reader keeps
this property: for each there is one lemma here, and a whole document is read back by putting them
together as its reader is put together.

Lists and objects are written alike, as parts with commas between them, so both are read by
induction on the parts. The readers bound the number of parts by the length of the text.
-/

namespace RelayTree.Json

/-! ## The layout of lists and objects -/

/-- Parts with a comma before each but the first, and the bracket that closes them. -/
def listed (close : Char) : Bool → List (List Char) → List Char
  | _, [] => [close]
  | true, part :: parts => part ++ listed close false parts
  | false, part :: parts => ',' :: (part ++ listed close false parts)

/-- A member of an object: its name, a colon and its value, as it stands between two commas. -/
def writeMember (member : String × Value) : List Char :=
  writeString member.1 ++ ':' :: member.2.write

/-- The items of a list are parts up to a bracket, with commas between them. -/
theorem write_items_listed (values : List Value) :
    writeItems values = listed ']' true (values.map Value.write) := by
  induction values with
  | nil => rfl
  | cons value values inductionHypothesis =>
    cases values with
    | nil => rfl
    | cons next others => simp [writeItems, listed, inductionHypothesis]

/-- The members of an object are parts up to a brace, with commas between them. -/
theorem write_members_listed (members : List (String × Value)) :
    writeMembers members = listed closeBrace true (members.map writeMember) := by
  induction members with
  | nil => rfl
  | cons member members inductionHypothesis =>
    cases members with
    | nil => simp [writeMembers, listed, writeMember]
    | cons next others => simp [writeMembers, listed, writeMember, inductionHypothesis]

/-- The length of the text bounds the number of parts, so the bound that readers are given is never
what ends them. -/
theorem parts_bounded (close : Char) (parts : List (List Char)) (rest : List Char) :
    parts.length < (listed close true parts ++ rest).length + 1 := by
  -- A part may be empty here; it is the comma before it, or the bracket, that counts.
  have after : ∀ parts, parts.length < (listed close false parts).length := by
    intro parts
    induction parts with
    | nil => exact Nat.one_pos
    | cons part parts inductionHypothesis =>
      simp only [listed, List.length_cons, List.length_append]
      omega
  cases parts with
  | nil => exact Nat.zero_lt_succ _
  | cons part parts =>
    have more := after parts
    simp only [listed, List.length_cons, List.length_append]
    omega

/-- A character that no numeral goes on with may follow any value, as it ends a numeral that stands
before it. -/
theorem ends_cons {c : Char} (rest : List Char)
    (other : c.isDigit = false ∧ c ≠ '.' ∧ c ≠ 'e' ∧ c ≠ 'E') : Ends (c :: rest) := by
  rintro front ⟨⟩
  exact other

/-- After a part there is a comma or the closing bracket, and neither goes on with a numeral. -/
theorem ends_listed {close : Char} (bracket : close = ']' ∨ close = closeBrace)
    (parts : List (List Char)) (rest : List Char) : Ends (listed close false parts ++ rest) := by
  cases parts with
  | nil =>
    apply ends_cons
    rcases bracket with rfl | rfl <;> decide
  | cons part parts =>
    apply ends_cons
    decide

/-- Blanks are skipped up to the first character that is none, so where there is none nothing is
skipped. -/
@[simp] theorem skip_solid {c : Char} (solid : isBlank c = false) (rest : List Char) :
    skipBlanks (c :: rest) = c :: rest := by
  simp [skipBlanks, solid]

namespace Reader

variable {α β : Type}

/-- A reader takes a written text for a value and leaves what follows, and the text starts with a
character that neither is a blank nor closes a list. -/
structure Reads (reader : Reader α) (written : List Char) (value : α) : Prop where
  starts : ∃ c rest, written = c :: rest ∧ isBlank c = false ∧ c ≠ ']'
  taken : ∀ rest, Ends rest → reader (written ++ rest) = .ok (value, rest)

/-- What is made from a value is made from what was read, so a reader can be changed without a look
at the text. -/
theorem Reads.map {reader : Reader α} {written : List Char} {value : α} (f : α → β)
    (reads : Reads reader written value) : Reads (reader.map f) written (f value) where
  starts := reads.starts
  taken rest ends := by simp only [Reader.map, reads.taken rest ends]

/-! ## Values without structure -/

/-- A written string is read, whatever follows its closing quote, be it a comma, a bracket or
nothing. -/
theorem text_taken (s : String) (rest : List Char) :
    text (writeString s ++ rest) = .ok (s, rest) := by
  have body := string_body_written s.toList rest
  simp only [writeString, List.cons_append, List.append_assoc, List.nil_append]
  rw [text, skip_solid (by decide)]
  simp only [body, String.ofList_toList]

/-- A string is read back from its document, and any text may be in it. -/
theorem text_reads (s : String) : Reads text (Value.string s).write s where
  starts := ⟨'"', _, rfl, by decide, by decide⟩
  taken rest _ := text_taken s rest

/-- A string that may be missing is read, and so is its absence. -/
theorem optional_text_reads (s : Option String) :
    Reads optionalText (Value.ofOption s).write s := by
  cases s with
  | none => exact ⟨⟨'n', _, rfl, by decide, by decide⟩, fun rest _ => rfl⟩
  | some s =>
    refine ⟨⟨'"', _, rfl, by decide, by decide⟩, fun rest ends => ?_⟩
    exact ((text_reads s).map some).taken rest ends

/-- A truth value is read back from its document, by the word that it is written with. -/
theorem truth_reads (b : Bool) : Reads truth (Value.bool b).write b := by
  cases b with
  | false => exact ⟨⟨'f', _, rfl, by decide, by decide⟩, fun rest _ => rfl⟩
  | true => exact ⟨⟨'t', _, rfl, by decide, by decide⟩, fun rest _ => rfl⟩

/-- A written number starts with a digit, even if it is zero, so that a reader knows what is
coming. -/
theorem written_starts (n : Nat) :
    ∃ c rest, writeNatural n = c :: rest ∧ c.isDigit = true := by
  obtain ⟨c, rest, written⟩ := List.exists_cons_of_ne_nil (Nat.toDigits_ne_nil (b := 10) (n := n))
  have member : c ∈ Nat.toDigits 10 n := written ▸ List.mem_cons_self
  exact ⟨c, rest, written, Nat.isDigit_of_mem_toDigits (by decide) (by decide) member⟩

/-- A digit is neither a blank nor a sign nor a bracket, so the first character tells that a number
is coming. -/
theorem digit_solid {c : Char} (digit : c.isDigit = true) :
    isBlank c = false ∧ c ≠ '-' ∧ c ≠ ']' := by
  have solid : isBlank c = false := by
    cases blank : isBlank c with
    | false => rfl
    | true =>
      simp only [isBlank, Bool.or_eq_true, decide_eq_true_eq] at blank
      obtain ((rfl | rfl) | rfl) | rfl := blank <;> cases digit
  refine ⟨solid, ?_, ?_⟩ <;> rintro rfl <;> cases digit

/-- A number within the reader's limit is read, if the limit is itself within 64 bits. The scan
takes all digits and stops at the first character behind them, which must not go on with the
number. -/
theorem natural_reads {n limit : Nat} (wanted : String) (within : n ≤ limit)
    (narrow : limit ≤ largestNatural) : Reads (natural limit wanted) (Value.natural n).write n := by
  -- What kind of number it is shows at the first character, so that is taken off first.
  obtain ⟨c, others, written, digit⟩ := written_starts n
  obtain ⟨solid, unsigned, inner⟩ := digit_solid digit
  have whole : (Value.natural n).write = c :: others := written
  refine ⟨⟨c, others, whole, solid, inner⟩, fun rest ends => ?_⟩
  have scan := number_written (Nat.le_trans within narrow) ends
  rw [written, List.cons_append] at scan
  have any : anyNumber wanted (c :: (others ++ rest)) = .ok (.natural n, rest) := by
    rw [anyNumber, skip_solid solid]
    split
    · rename_i equal
      exact absurd (List.cons.inj equal).1 unsigned
    · rename_i equal
      obtain ⟨rfl, rfl⟩ := List.cons.inj equal
      rw [if_pos digit, scan]
      rfl
    · rename_i equal
      cases equal
  rw [whole, List.cons_append, natural, any]
  simp only [if_pos within]

/-! ## Lists -/

/-- The next part of a list is found behind its comma, or at once if it is the first one. -/
theorem next_item_part {c : Char} (solid : isBlank c = false) (inner : c ≠ ']') (first : Bool)
    (text rest : List Char) (parts : List (List Char)) :
    nextItem first (listed ']' first ((c :: text) :: parts) ++ rest) =
      .ok (some (c :: text ++ listed ']' false parts ++ rest)) := by
  cases first with
  | true =>
    simp only [listed, List.cons_append, nextItem, skip_solid solid]
    split
    · rename_i equal
      cases equal
    · rename_i equal
      exact absurd (List.cons.inj equal).1 inner
    · rfl
  | false =>
    have comma : isBlank ',' = false := by decide
    simp only [listed, List.cons_append, nextItem, skip_solid comma]
    simp [skip_solid solid, inner]

/-- The items of a list are read one by one up to the bracket. The bound on the number of items is
part of the induction, and it falls by one with each of them. -/
theorem items_taken {item : Reader β} {written : α → List Char} {result : α → β}
    (each : ∀ value, Reads item (written value) (result value)) (values : List α)
    (rest : List Char) :
    ∀ bound first, values.length < bound →
      items item bound first (listed ']' first (values.map written) ++ rest) =
        .ok (values.map result, rest) := by
  induction values with
  | nil =>
    intro bound first enough
    cases bound with
    | zero => cases enough
    | succ bound => rfl
  | cons value values inductionHypothesis =>
    intro bound first enough
    cases bound with
    | zero => cases enough
    | succ bound =>
      obtain ⟨c, text, part, solid, inner⟩ := (each value).starts
      have read := (each value).taken _ (ends_listed (.inl rfl) (values.map written) rest)
      have others := inductionHypothesis bound false (Nat.lt_of_succ_lt_succ enough)
      rw [part] at read
      simp only [List.map_cons, part, items, next_item_part solid inner, scanned,
        List.append_assoc, read, others, bind, Except.bind, pure, Except.pure]

/-- A list is read if each of its items is, by induction on the items that are left. -/
theorem list_reads {item : Reader β} {document : α → Value} {result : α → β}
    (each : ∀ value, Reads item (document value).write (result value)) (values : List α) :
    Reads (list item) (Value.array (values.map document)).write (values.map result) := by
  refine ⟨⟨'[', _, rfl, by decide, by decide⟩, fun rest _ => ?_⟩
  have enough := parts_bounded ']' (values.map fun value => (document value).write) rest
  rw [List.length_map] at enough
  simp only [Value.write, write_items_listed, List.map_map, List.cons_append]
  rw [list, skip_solid (by decide)]
  exact items_taken each values rest _ true enough

/-! ## Objects -/

/-- The next name of an object is found behind its comma, with its colon and value after it. -/
theorem next_key_member (first : Bool) (member : String × Value) (parts : List (List Char))
    (rest : List Char) :
    nextKey first (listed closeBrace first (writeMember member :: parts) ++ rest) =
      .ok (some (writeString member.1 ++
        ':' :: (member.2.write ++ (listed closeBrace false parts ++ rest)))) := by
  cases first <;>
    simp [listed, writeMember, writeString, nextKey, keyStart, isBlank, Except.map]

/-- After a name comes its value, right behind the colon, as no blanks are written between them. -/
theorem colon_taken (rest : List Char) : colon (':' :: rest) = .ok rest := rfl

/-- What is between two members does not go on with a numeral, so a member may end with one. -/
theorem ends_members (parts : List (List Char)) (rest : List Char) :
    Ends (listed closeBrace false parts ++ rest) :=
  ends_listed (.inr rfl) parts rest

/-- The members of an object of strings are added one by one, in the order in which they were
written. -/
theorem text_members_taken (entries : List (String × String)) (rest : List Char) :
    ∀ bound first texts, entries.length < bound →
      textMembers bound first texts (listed closeBrace first
          ((entries.map fun entry => (entry.1, Value.string entry.2)).map writeMember) ++ rest) =
        .ok (entries.foldl (fun map entry => map.insert entry.1 entry.2) texts, rest) := by
  induction entries with
  | nil =>
    intro bound first texts enough
    cases bound with
    | zero => cases enough
    | succ bound => rfl
  | cons entry entries inductionHypothesis =>
    intro bound first texts enough
    cases bound with
    | zero => cases enough
    | succ bound =>
      have others := inductionHypothesis bound false (texts.insert entry.1 entry.2)
        (Nat.lt_of_succ_lt_succ enough)
      simp only [List.map_cons, textMembers, next_key_member, scanned, text_taken, colon_taken,
        Value.write, writeScalar, others, List.foldl_cons, bind, Except.bind]

/-- An object of strings is read, and as its keys were all different each keeps its value. The map
is rebuilt by inserting the members in their order, which is that of the keys. -/
theorem texts_reads (values : SortedMap String String) :
    Reads texts (Value.ofTexts values).write values := by
  refine ⟨⟨openBrace, _, rfl, by decide, by decide⟩, fun rest _ => ?_⟩
  have enough := parts_bounded closeBrace
    ((values.entries.map fun entry => (entry.1, Value.string entry.2)).map writeMember) rest
  rw [List.length_map, List.length_map] at enough
  have taken := text_members_taken values.entries rest _ true .empty enough
  simp only [Value.ofTexts, Value.write, write_members_listed, List.cons_append]
  rw [texts, skip_solid (by decide)]
  refine taken.trans ?_
  rw [← SortedMap.ofList, SortedMap.of_list_entries]

/-! ## Records -/

variable {σ : Type}

/-- Each field in turn is read from its member into the record under construction, which lacked it
before. -/
inductive Fills : List (Field σ) → σ → List (String × Value) → σ → Prop
  | done {draft : σ} : Fills [] draft [] draft
  | next {field : Field σ} {fields : List (Field σ)} {draft between final : σ} {document : Value}
      {members : List (String × Value)} (lacking : field.present draft = false)
      (reads : Reads (field.read draft) document.write between)
      (others : Fills fields between members final) :
      Fills (field :: fields) draft ((field.name, document) :: members) final

/-- The members of a record are read one by one up to the brace. -/
theorem record_members_taken {fields remaining : List (Field σ)}
    (distinct : (fields.map Field.name).Nodup) (known : remaining ⊆ fields) {draft final : σ}
    {members : List (String × Value)} (fills : Fills remaining draft members final)
    (rest : List Char) :
    ∀ bound first, members.length < bound →
      recordMembers fields bound first draft
          (listed closeBrace first (members.map writeMember) ++ rest) =
        .ok (final, closeBrace :: rest) := by
  -- The reader looks every name up among all fields, so `fields` stays while `remaining` shrinks.
  induction fills with
  | done =>
    intro bound first enough
    cases bound with
    | zero => cases enough
    | succ bound => rfl
  | @next field remaining draft between final document members lacking reads _ inductionHypothesis =>
    intro bound first enough
    cases bound with
    | zero => cases enough
    | succ bound =>
      have found := (find_by_key distinct).mpr ⟨known List.mem_cons_self, rfl⟩
      have read := reads.taken _ (ends_members (members.map writeMember) rest)
      have others := inductionHypothesis (fun _ member => known (List.mem_cons_of_mem _ member))
        bound false (Nat.lt_of_succ_lt_succ enough)
      simp only [List.map_cons, recordMembers, next_key_member, scanned, text_taken, colon_taken,
        found, lacking, read, others, bind, Except.bind]
      simp

/-- Nothing has to be filled in where nothing was left out, so the draft is final as it is. -/
theorem complete_full {fields : List (Field σ)} {draft : σ}
    (full : ∀ field ∈ fields, field.present draft = true) : complete fields draft = .ok draft := by
  induction fields with
  | nil => rfl
  | cons field fields inductionHypothesis =>
    have here := full field List.mem_cons_self
    have others := inductionHypothesis fun other member => full other (List.mem_cons_of_mem _ member)
    simp only [complete, here, others, if_true]

/-- A record is read if each field is read from its member and none is left out. The fields have
different names, so every member finds its own, and no member is met twice. -/
theorem record_reads {fields : List (Field σ)} (shape : String) {blank final : σ}
    {members : List (String × Value)} (distinct : (fields.map Field.name).Nodup)
    (fills : Fills fields blank members final)
    (full : ∀ field ∈ fields, field.present final = true) :
    Reads (record shape fields blank) (Value.object members).write final := by
  refine ⟨⟨openBrace, _, rfl, by decide, by decide⟩, fun rest _ => ?_⟩
  have enough := parts_bounded closeBrace (members.map writeMember) rest
  rw [List.length_map] at enough
  have taken := record_members_taken distinct (List.Subset.refl fields) fills rest _ true enough
  have ended : endObject (closeBrace :: rest) = .ok rest := rfl
  simp only [Value.write, write_members_listed, List.cons_append]
  rw [record, skip_solid (by decide)]
  simp only [openBrace, taken, complete_full full, ended, scanned, bind, Except.bind, pure,
    Except.pure]

/-! ## Variants -/

/-- A variant without content is read from its name alone, written as a string. -/
theorem name_reads {cases : List (String × Content α)} {name : String} {value : α}
    (chosen : choose cases name = .ok (.unit value)) :
    Reads (oneOf cases) (Value.string name).write value := by
  refine ⟨⟨'"', _, rfl, by decide, by decide⟩, fun rest _ => ?_⟩
  have taken := text_taken name rest
  simp only [Value.write, writeScalar]
  simp only [writeString, List.cons_append] at taken ⊢
  rw [oneOf, skip_solid (by decide)]
  simp only [taken, chosen, Content.byName, bind, Except.bind, pure, Except.pure]

/-- A variant with content is read from the member with its name, which must be the only one. -/
theorem member_reads {cases : List (String × Content α)} {name : String} {content : Content α}
    {document : Value} {value : α} (chosen : choose cases name = .ok content)
    (reads : Reads content.reader document.write value) :
    Reads (oneOf cases) (Value.object [(name, document)]).write value := by
  refine ⟨⟨openBrace, _, rfl, by decide, by decide⟩, fun rest _ => ?_⟩
  have read := reads.taken (closeBrace :: rest) (ends_members [] rest)
  have key := text_taken name (':' :: (document.write ++ closeBrace :: rest))
  have start : keyStart (writeString name ++ ':' :: (document.write ++ closeBrace :: rest)) =
      .ok (writeString name ++ ':' :: (document.write ++ closeBrace :: rest)) := rfl
  have front : skipBlanks (writeString name ++ ':' :: (document.write ++ closeBrace :: rest)) =
      writeString name ++ ':' :: (document.write ++ closeBrace :: rest) := skip_solid rfl _
  simp only [Value.write, writeMembers, List.cons_append, List.append_assoc, List.nil_append]
  rw [oneOf, skip_solid (by decide)]
  simp only [openBrace, front, start, key, chosen, colon_taken, read, scanned, bind, Except.bind]
  rfl

/-! ## Whole documents -/

/-- The text of a document is read: nothing follows it that could belong to it or be too much. -/
theorem run_compact {reader : Reader α} {document : Value} {value : α}
    (reads : Reads reader document.write value) : run reader document.compact = .ok value := by
  have taken := reads.taken [] (fun _ none => nomatch none)
  rw [List.append_nil] at taken
  simp only [run, Value.compact, String.toList_ofList, taken, bind, Except.bind]
  rfl

end Reader

end RelayTree.Json
