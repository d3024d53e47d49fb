import RelayTree.Deployment.Basic
import RelayTree.Json.Reader
import RelayTree.Json.Value

/-!
# Deployments as documents

The written form lists hosts and modules with their fields in a fixed order and
the maps sorted by key. Reading treats an empty address or connection like an
absent one, and refuses a host name that occurs twice.
-/
namespace RelayTree

open Json

namespace Host

/-- The document of a host, with null for an address or a server that it does not have. -/
def toValue (host : Host) : Value :=
  .object
    [ ("hostname", .string host.name), ("server_address", .ofOption host.serverAddress),
      ("connect_to", .ofOption host.connectTo) ]

/-- The fields of a host while it is read. The inner option is that of the host, the outer one tells
whether the field has come. -/
structure Draft where
  name : Option String := none
  serverAddress : Option (Option String) := none
  connectTo : Option (Option String) := none

/-- Text that may be null, absent or empty, all with the same meaning. -/
def textOrNothing : Reader (Option String) := Reader.optionalText.map (·.bind nonEmpty)

/-- The fields of a host in order. The two that may be null may also be left out. -/
def fields : List (Reader.Field Draft) :=
  [ Reader.required "hostname" (·.name) (fun draft value => { draft with name := some value })
      Reader.text,
    Reader.optional "server_address" (·.serverAddress)
      (fun draft value => { draft with serverAddress := some value }) textOrNothing none,
    Reader.optional "connect_to" (·.connectTo)
      (fun draft value => { draft with connectTo := some value }) textOrNothing none ]

/-- The host of a complete draft. A default for the name is never used, since a reader asks for
it. -/
def Draft.finish (draft : Draft) : Host :=
  ⟨draft.name.getD "", draft.serverAddress.getD none, draft.connectTo.getD none⟩

/-- Read a host, from an object or from a list of its fields. -/
def reader : Reader Host := (Reader.record "struct HostDescription" fields {}).map Draft.finish

end Host

namespace Roster

/-- The document of a roster, a list of its hosts in their order. -/
def toValue (roster : Roster) : Value := .array (roster.hosts.map Host.toValue)

/-- The text of a roster on one line. -/
def toJson (roster : Roster) : String := roster.toValue.compact

/-- Read a roster. The whole list is read before names are compared, so a fault of the text comes
before a name that is repeated. -/
def reader : Reader Roster := fun input =>
  match Reader.list Host.reader input with
  | .error problem => .error problem
  | .ok (hosts, rest) =>
    match ofList hosts with
    | .ok roster => .ok (roster, rest)
    | .error failure => mismatch (.refused failure.message)

end Roster

namespace ModuleSpec

/-- The document of a module, with its three maps in the order of their keys. -/
def toValue (spec : ModuleSpec) : Value :=
  .object
    [ ("id", .string spec.id), ("class", .string spec.className), ("host", .string spec.host),
      ("properties", .ofTexts spec.properties), ("input_channels", .ofTexts spec.inputs),
      ("output_channels", .ofTexts spec.outputs) ]

/-- The text of a module on one line. -/
def toJson (spec : ModuleSpec) : String := spec.toValue.compact

/-- The fields of a module while it is read, each of which may not have come yet. -/
structure Draft where
  id : Option String := none
  className : Option String := none
  host : Option String := none
  properties : Option (SortedMap String String) := none
  inputs : Option (SortedMap String String) := none
  outputs : Option (SortedMap String String) := none

/-- The fields of a module in order. The three maps may be left out and are empty then. -/
def fields : List (Reader.Field Draft) :=
  [ Reader.required "id" (·.id) (fun draft value => { draft with id := some value }) Reader.text,
    Reader.required "class" (·.className)
      (fun draft value => { draft with className := some value }) Reader.text,
    Reader.required "host" (·.host) (fun draft value => { draft with host := some value })
      Reader.text,
    Reader.optional "properties" (·.properties)
      (fun draft value => { draft with properties := some value }) Reader.texts .empty,
    Reader.optional "input_channels" (·.inputs)
      (fun draft value => { draft with inputs := some value }) Reader.texts .empty,
    Reader.optional "output_channels" (·.outputs)
      (fun draft value => { draft with outputs := some value }) Reader.texts .empty ]

/-- The module of a complete draft. Only for the three maps a default can be used. -/
def Draft.finish (draft : Draft) : ModuleSpec where
  id := draft.id.getD ""
  className := draft.className.getD ""
  host := draft.host.getD ""
  properties := draft.properties.getD .empty
  inputs := draft.inputs.getD .empty
  outputs := draft.outputs.getD .empty

/-- Read a module, from an object or from a list of its fields. -/
def reader : Reader ModuleSpec :=
  (Reader.record "struct ModuleDescription" fields {}).map Draft.finish

end ModuleSpec

namespace Deployment

/-- The document of a deployment: its hosts, and then its modules in their order. -/
def toValue (deployment : Deployment) : Value :=
  .object
    [ ("hosts", deployment.hosts.toValue),
      ("modules", .array (deployment.modules.map ModuleSpec.toValue)) ]

/-- The text of a deployment on one line. -/
def toJson (deployment : Deployment) : String := deployment.toValue.compact

/-- The fields of a deployment while it is read, each of which may not have come yet. -/
structure Draft where
  hosts : Option Roster := none
  modules : Option (List ModuleSpec) := none

/-- The fields of a deployment in order. A deployment may have no modules, but it must say what its
hosts are. -/
def fields : List (Reader.Field Draft) :=
  [ Reader.required "hosts" (·.hosts) (fun draft value => { draft with hosts := some value })
      Roster.reader,
    Reader.optional "modules" (·.modules)
      (fun draft value => { draft with modules := some value }) (Reader.list ModuleSpec.reader)
      [] ]

/-- The deployment of a complete draft. Only for the modules a default can be used. -/
def Draft.finish (draft : Draft) : Deployment :=
  ⟨draft.hosts.getD .empty, draft.modules.getD []⟩

/-- Read a deployment, from an object or from a list of its two fields. -/
def reader : Reader Deployment :=
  (Reader.record "struct Configuration" fields {}).map Draft.finish

/-- Read the text of a deployment. Its first fault is the cause of the failure. -/
def ofJson (text : String) : Except Failure Deployment :=
  match reader.run text with
  | .ok deployment => .ok deployment
  | .error problem => .error (.unparsableDeployment problem)

/-- What a path leads to: a text, or the reason why there is none. -/
inductive FileContent where
  | text (content : String)
  | fault (fault : FileFault)

/-- The content of a file by its bytes, which must be text in UTF-8. -/
def FileContent.ofBytes (bytes : ByteArray) : FileContent :=
  match String.fromUTF8? bytes with
  | some content => .text content
  | none => .fault .notText

/-- Read a deployment file. That it has no text is a failure of another kind than a text that is no
deployment. -/
def ofFile (path : String) : FileContent → Except Failure Deployment
  | .text content => ofJson content
  | .fault fault => .error (.unreadableFile path fault)

end Deployment

end RelayTree
