import RelayTree.Message.Json
import RelayTree.Proofs.Json.ReadBack

/-!
# Messages are read back from their documents

Reading the document of a message gives the message. The readers of a message are built as its
document is, so the proof follows the document: bytes, payloads, administrative events, bodies, and
the nine fields of the message. A payload that is a double is left aside, since its numeral is a
matter of decimal fractions and not of the layout of documents; a double that is not finite has no
numeral at all.
-/

namespace RelayTree

open Json Json.Reader

/-- A byte is within the limit of its reader, so every byte is read back. -/
theorem byte_reads (byte : UInt8) :
    Reads byteReader (Value.natural byte.toNat).write byte := by
  have within : byte.toNat ≤ 255 := Nat.le_of_lt_succ byte.toNat_lt
  have reads := (natural_reads "u8" within (by decide)).map UInt8.ofNat
  rwa [UInt8.ofNat_toNat] at reads

/-- Bytes are read back from the list of their numbers, whatever they are. -/
theorem bytes_read (content : List UInt8) :
    Reads (list byteReader) (bytesValue content).write content := by
  have reads := list_reads byte_reads content
  rwa [List.map_id'] at reads

namespace Payload

/-- The record of a blob is read back from its members, with the name of its type and its bytes. -/
theorem blob_reads (typeName : String) (content : List UInt8) :
    Reads ((record "struct variant Payload::Blob" blobFields {}).map BlobDraft.finish)
      (Value.object [("type_name", .string typeName), ("data", bytesValue content)]).write
      (.blob typeName content) := by
  have fills : Fills blobFields {}
      [("type_name", .string typeName), ("data", bytesValue content)]
      ⟨some typeName, some content⟩ :=
    .next rfl ((text_reads typeName).map _) <| .next rfl ((bytes_read content).map _) .done
  exact (record_reads _ (by decide) fills (by simp [blobFields, required])).map BlobDraft.finish

/-- A payload is read back unless it is a double, by cases on its kind. -/
theorem reads_back {payload : Payload} (plain : ∀ x, payload ≠ .number x) :
    Reads reader payload.toValue.write payload := by
  cases payload with
  | empty => exact name_reads rfl
  | text content =>
    apply member_reads rfl
    exact (text_reads content).map Payload.text
  | number x => exact absurd rfl (plain x)
  | bool b =>
    apply member_reads rfl
    exact (truth_reads b).map Payload.bool
  | bytes content =>
    apply member_reads rfl
    exact (bytes_read content).map Payload.bytes
  | blob typeName content =>
    apply member_reads rfl
    exact blob_reads typeName content

end Payload

/-- The name of a kind is read as that kind, as no two kinds share one. -/
theorem ControlKind.reads_back (kind : ControlKind) :
    Reads ControlKind.reader (Value.string kind.name).write kind := by
  cases kind <;> exact name_reads rfl

/-- An administrative event is read back from its three fields. All of them must be there, and they
are written in the order in which the reader lists them. -/
theorem Control.reads_back (event : Control) :
    Reads Control.reader event.toValue.write event := by
  have fills : Fills Control.fields {}
      [("kind", .string event.kind.name), ("host", .string event.host),
        ("user_token", .string event.userToken)]
      ⟨some event.kind, some event.host, some event.userToken⟩ :=
    .next rfl ((ControlKind.reads_back event.kind).map _) <|
    .next rfl ((text_reads event.host).map _) <|
    .next rfl ((text_reads event.userToken).map _) .done
  exact (record_reads _ (by decide) fills (by simp [Control.fields, required])).map
    Control.Draft.finish

/-- A body is read back unless it is a double, whether it is data or an event. -/
theorem Body.reads_back {body : Body} (plain : ∀ x, body ≠ .data (.number x)) :
    Reads Body.reader body.toValue.write body := by
  cases body with
  | data payload =>
    have whole : ∀ x, payload ≠ .number x := fun x same => plain x (congrArg Body.data same)
    apply member_reads rfl
    exact (Payload.reads_back whole).map Body.data
  | control event =>
    apply member_reads rfl
    exact (Control.reads_back event).map Body.control

namespace Message

/-- The draft that holds every field of a message, as it is when the last one was read. -/
def drafted (message : Message) : Draft where
  id := message.id
  channel := message.channel
  sourceHost := message.source.host
  sourceModule := message.source.module
  targetHost := message.target.host
  targetModule := message.target.module
  userToken := message.userToken
  timestamp := message.timestamp.toNat
  body := message.body

/-- Every timestamp is within 64 bits, and so within the limit of its reader. -/
theorem timestamp_within (message : Message) : message.timestamp.toNat ≤ largestNatural :=
  Nat.le_of_lt_succ message.timestamp.toNat_lt

/-- A message is read back unless its body is a double. Its fields are read one after the other, in
the order in which they are written. -/
theorem reads_back {message : Message} (plain : ∀ x, message.body ≠ .data (.number x)) :
    Reads reader message.toValue.write message := by
  have fills : Fills fields {} _ message.drafted :=
    .next rfl ((text_reads message.id).map _) <|
    .next rfl ((text_reads message.channel).map _) <|
    .next rfl ((text_reads message.source.host).map _) <|
    .next rfl ((text_reads message.source.module).map _) <|
    .next rfl ((text_reads message.target.host).map _) <|
    .next rfl ((text_reads message.target.module).map _) <|
    .next rfl ((text_reads message.userToken).map _) <|
    .next rfl ((natural_reads _ message.timestamp_within (Nat.le_refl _)).map _) <|
    .next rfl ((Body.reads_back plain).map _) .done
  have reads := (record_reads "struct Message" (by decide) fills
    (by simp [fields, required, drafted])).map Draft.finish
  have finished : message.drafted.finish = message := by
    simp [Draft.finish, drafted]
  rwa [finished] at reads

/-- Reading the document of a message gives the message, for every administrative event and every
payload but a double.

Proof: the reader is followed over the nine members of the document in the order in which they were
written, as `reads_back` does. A time stamp is no larger than the largest number that is read, and
escapes are undone character by character. Nothing is assumed about the texts or the bytes in a
message. -/
theorem json_read_back (message : Message) (plain : ∀ x, message.body ≠ .data (.number x)) :
    ofJson message.toJson = .ok message :=
  run_compact (reads_back plain)

/-- A blob at the last moment there is, under names that need escapes or are not plain letters. -/
def unusual : Message where
  id := "1\n"
  channel := "te\"mp\\"
  source := ⟨"hôst", "\t"⟩
  target := ⟨"", "\x01"⟩
  userToken := "🜨\x7f"
  timestamp := 18446744073709551615
  body := .data (.blob "a/\x1f" [0, 9, 10, 255])

/-- A message that needs escapes and has bytes is read back, as the theorem says. -/
theorem unusual_message_read_back :
    (∀ x, unusual.body ≠ .data (.number x)) ∧ ofJson unusual.toJson = .ok unusual := by
  have plain : ∀ x, unusual.body ≠ .data (.number x) := nofun
  exact ⟨plain, json_read_back unusual plain⟩

end Message

end RelayTree
