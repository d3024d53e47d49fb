import RelayTree.Address

/-!
# Messages

What is moved between hosts. Routing looks at the addresses, at the user a
message is meant for, and at the type tag of its body; the contents are opaque.
-/
namespace RelayTree

/-- The data of a message. None of the strategies looks into it; only its tag is ever compared. -/
inductive Payload where
  | empty
  | text (content : String)
  | number (value : Binary64)
  | bool (value : Bool)
  | bytes (content : List UInt8)
  /-- A record of the application's own, known by the name of its type. -/
  | blob (typeName : String) (content : List UInt8)
deriving DecidableEq, Repr

/-- The type tag that channels agree on. A blob's tag is the name of its type. -/
def Payload.tag : Payload → String
  | .empty => "empty"
  | .text _ => "text"
  | .number _ => "number"
  | .bool _ => "bool"
  | .bytes _ => "bytes"
  | .blob typeName _ => typeName

/-- Administrative events: clients that come and go, the link to the server, and the wish for
another configuration. -/
inductive ControlKind where
  | remoteClientConnected
  | remoteClientDisconnected
  | connectedToServer
  | disconnectedFromServer
  | reloadConfiguration
deriving DecidableEq, Repr

/-- An administrative event and the host and user it is about, which may be neither sender nor
receiver. -/
structure Control where
  kind : ControlKind
  host : String
  userToken : String
deriving DecidableEq, Repr

/-- Application data or an administrative event. The two go different ways on the host they are
for. -/
inductive Body where
  | data (payload : Payload)
  | control (event : Control)
deriving DecidableEq, Repr

/-- One message. An empty user token means every user of the target host. -/
structure Message where
  id : String
  channel : String
  source : Address
  target : Address
  userToken : String
  timestamp : UInt64
  body : Body
deriving DecidableEq, Repr

namespace Message

/-- Whether the body is an administrative event, and so jumps the queue on the host it is for. -/
def isControl (message : Message) : Bool :=
  match message.body with
  | .control _ => true
  | .data _ => false

/-- The administrative event, if the body is one. -/
def control? (message : Message) : Option Control :=
  match message.body with
  | .control event => some event
  | .data _ => none

/-- The data, if the body holds some, of whatever type. -/
def payload? (message : Message) : Option Payload :=
  match message.body with
  | .data payload => some payload
  | .control _ => none

/-- The type tag of the body, which the parties of a connection agree on. All administrative events
share one. -/
def tag (message : Message) : String :=
  match message.body with
  | .data payload => payload.tag
  | .control _ => "control"

/-- Whether the message is meant for every connected user of its target host. -/
def isBroadcast (message : Message) : Bool := message.userToken.isEmpty

end Message

end RelayTree
