import RelayTree.Json.Reader
import RelayTree.Json.Value
import RelayTree.Message.Basic

/-!
# Messages as documents

The written form of a message is an object with its fields in a fixed order;
addresses are flattened into it. Reading accepts the fields in any order, or a
list of them, and refuses anything that is not a message.
-/
namespace RelayTree

open Json

namespace ControlKind

/-- Every kind of administrative event, in the order in which a reader names them. -/
def all : List ControlKind :=
  [remoteClientConnected, remoteClientDisconnected, connectedToServer, disconnectedFromServer,
    reloadConfiguration]

/-- The name of a kind in documents, by which it is read back. -/
def name : ControlKind → String
  | remoteClientConnected => "RemoteClientConnected"
  | remoteClientDisconnected => "RemoteClientDisconnected"
  | connectedToServer => "ConnectedToServer"
  | disconnectedFromServer => "DisconnectedFromServer"
  | reloadConfiguration => "ReloadConfiguration"

/-- The kind with a name, if there is one. No two kinds share a name. -/
def ofName? (text : String) : Option ControlKind := all.find? (·.name = text)

/-- Read a kind: a variant without content, written as its name alone. -/
def reader : Reader ControlKind := Reader.oneOf (all.map fun kind => (kind.name, .unit kind))

end ControlKind

/-- Bytes as a list of numbers, one for each byte. -/
def bytesValue (content : List UInt8) : Value :=
  .array (content.map fun byte => .natural byte.toNat)

/-- Read a byte: a number that is at most 255, and anything else is refused. -/
def byteReader : Reader UInt8 := (Reader.natural 255 "u8").map UInt8.ofNat

namespace Payload

/-- The document of a payload: the name of its variant, with the content under it where it has
one. -/
def toValue : Payload → Value
  | .empty => .string "Empty"
  | .text content => .object [("Text", .string content)]
  | .number value => .object [("Number", .real value)]
  | .bool value => .object [("Bool", .bool value)]
  | .bytes content => .object [("Bytes", bytesValue content)]
  | .blob typeName content =>
    .object [("Blob", .object [("type_name", .string typeName), ("data", bytesValue content)])]

/-- The fields of a blob while it is read, each of which may not have come yet. -/
structure BlobDraft where
  typeName : Option String := none
  content : Option (List UInt8) := none

/-- The fields of a blob in order, both of which must be there. -/
def blobFields : List (Reader.Field BlobDraft) :=
  [ Reader.required "type_name" (·.typeName)
      (fun draft value => { draft with typeName := some value }) Reader.text,
    Reader.required "data" (·.content) (fun draft value => { draft with content := some value })
      (Reader.list byteReader) ]

/-- The blob of a complete draft. The defaults are never used, since a reader asks for both
fields. -/
def BlobDraft.finish (draft : BlobDraft) : Payload :=
  .blob (draft.typeName.getD "") (draft.content.getD [])

/-- Read a payload, by the name of its variant. -/
def reader : Reader Payload := Reader.oneOf
  [ ("Empty", .unit .empty),
    ("Text", .single (Reader.text.map .text)),
    ("Number", .single (Reader.real.map .number)),
    ("Bool", .single (Reader.truth.map .bool)),
    ("Bytes", .single ((Reader.list byteReader).map .bytes)),
    ("Blob", .fields ((Reader.record "struct variant Payload::Blob" blobFields {}).map
      BlobDraft.finish)) ]

end Payload

namespace Control

/-- The document of an administrative event, with its three fields in a fixed order. -/
def toValue (event : Control) : Value :=
  .object
    [ ("kind", .string event.kind.name), ("host", .string event.host),
      ("user_token", .string event.userToken) ]

/-- The fields of an administrative event while it is read, each of which may not have come yet. -/
structure Draft where
  kind : Option ControlKind := none
  host : Option String := none
  userToken : Option String := none

/-- The fields of an administrative event in order, all of which must be there. -/
def fields : List (Reader.Field Draft) :=
  [ Reader.required "kind" (·.kind) (fun draft value => { draft with kind := some value })
      ControlKind.reader,
    Reader.required "host" (·.host) (fun draft value => { draft with host := some value })
      Reader.text,
    Reader.required "user_token" (·.userToken)
      (fun draft value => { draft with userToken := some value }) Reader.text ]

/-- The event of a complete draft. The defaults are never used, since a reader asks for every
field. -/
def Draft.finish (draft : Draft) : Control :=
  ⟨draft.kind.getD .remoteClientConnected, draft.host.getD "", draft.userToken.getD ""⟩

/-- Read an administrative event, from an object or from a list of its fields. -/
def reader : Reader Control := (Reader.record "struct ControlMessage" fields {}).map Draft.finish

end Control

namespace Body

/-- The document of a body, under the name of what it is. -/
def toValue : Body → Value
  | .data payload => .object [("Data", payload.toValue)]
  | .control event => .object [("Control", event.toValue)]

/-- Read a body, which says itself whether it is data or an event. -/
def reader : Reader Body := Reader.oneOf
  [ ("Data", .single (Payload.reader.map .data)),
    ("Control", .single (Control.reader.map .control)) ]

end Body

namespace Message

/-- The document of a message, with its fields in a fixed order and both addresses taken apart. -/
def toValue (message : Message) : Value :=
  .object
    [ ("id", .string message.id), ("channel", .string message.channel),
      ("source_host", .string message.source.host),
      ("source_module", .string message.source.module),
      ("target_host", .string message.target.host),
      ("target_module", .string message.target.module),
      ("target_user_token", .string message.userToken),
      ("timestamp", .natural message.timestamp.toNat), ("body", message.body.toValue) ]

/-- The text of a message on one line, without blanks between its parts. -/
def toJson (message : Message) : String := message.toValue.compact

/-- The fields of a message while it is read, each of which may not have come yet. -/
structure Draft where
  id : Option String := none
  channel : Option String := none
  sourceHost : Option String := none
  sourceModule : Option String := none
  targetHost : Option String := none
  targetModule : Option String := none
  userToken : Option String := none
  timestamp : Option Nat := none
  body : Option Body := none

/-- The fields of a message in order, every one of them with the reader of its content. -/
def fields : List (Reader.Field Draft) :=
  [ Reader.required "id" (·.id) (fun draft value => { draft with id := some value }) Reader.text,
    Reader.required "channel" (·.channel)
      (fun draft value => { draft with channel := some value }) Reader.text,
    Reader.required "source_host" (·.sourceHost)
      (fun draft value => { draft with sourceHost := some value }) Reader.text,
    Reader.required "source_module" (·.sourceModule)
      (fun draft value => { draft with sourceModule := some value }) Reader.text,
    Reader.required "target_host" (·.targetHost)
      (fun draft value => { draft with targetHost := some value }) Reader.text,
    Reader.required "target_module" (·.targetModule)
      (fun draft value => { draft with targetModule := some value }) Reader.text,
    Reader.required "target_user_token" (·.userToken)
      (fun draft value => { draft with userToken := some value }) Reader.text,
    Reader.required "timestamp" (·.timestamp)
      (fun draft value => { draft with timestamp := some value })
      (Reader.natural largestNatural "u64"),
    Reader.required "body" (·.body) (fun draft value => { draft with body := some value })
      Body.reader ]

/-- The message of a complete draft. The defaults are never used, since a reader asks for every
field. -/
def Draft.finish (draft : Draft) : Message where
  id := draft.id.getD ""
  channel := draft.channel.getD ""
  source := ⟨draft.sourceHost.getD "", draft.sourceModule.getD ""⟩
  target := ⟨draft.targetHost.getD "", draft.targetModule.getD ""⟩
  userToken := draft.userToken.getD ""
  timestamp := UInt64.ofNat (draft.timestamp.getD 0)
  body := draft.body.getD (.data .empty)

/-- Read a message, from an object in any order or from a list in the fixed one. -/
def reader : Reader Message := (Reader.record "struct Message" fields {}).map Draft.finish

/-- Read the text of a message. Of everything that is wrong with a text the first is reported. -/
def ofJson (text : String) : Except Problem Message := reader.run text

end Message

end RelayTree
