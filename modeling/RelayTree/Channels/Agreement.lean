import RelayTree.Channels.Basic
import RelayTree.Outcome

/-!
# Agreement on types

All parties of a connection send one type of payload. The first sample or message
on a connection fixes the type, and whoever comes later with another one is
refused.

A publication looks its connection up and then, only if no type was agreed on,
fixes the type. These are two separate steps, `publication` and `settle`, between
which another party may have fixed a type; `settle` therefore checks again.
-/
namespace RelayTree

namespace Connection

/-- Accept a type: the agreed one, or any while none is agreed on, which it then
becomes. -/
def agree (connection : Connection) (name module tag : String) : Except Failure Connection :=
  match connection.tag with
  | none => .ok { connection with tag := some tag }
  | some agreed =>
    if agreed = tag then .ok connection else .error (.channelTypeMismatch name module agreed tag)

end Connection

/-- What a publication finds when it looks its connection up: the type as it was at that moment, and
who was subscribed. -/
structure Publication where
  connection : String
  agreed : Option String
  subscribers : List Endpoint
deriving DecidableEq, Repr

namespace Channels

/-- The channel that a message was sent on, under its sender's name for it. -/
def senderEndpoint (message : Message) : Endpoint := ⟨message.source.module, message.channel⟩

/-- The failure of a message on a channel that its sender has not bound. -/
def unboundChannel (message : Message) : Failure :=
  .unknownChannel message.source.module message.channel

/-- Look up the connection on which the sender of a message publishes. The sender must have bound
the channel, and as a publisher. -/
def publication (channels : Channels) (message : Message) : Except Failure Publication :=
  match channels.resolve? (senderEndpoint message) with
  | none => .error (unboundChannel message)
  | some ⟨_, .subscriber⟩ => .error (.notAPublisher message.source.module message.channel)
  | some ⟨name, .publisher⟩ =>
    let connection := channels.connection name
    .ok ⟨name, connection.tag, connection.members .subscriber⟩

/-- Fix the type of a connection by a message, unless another one was fixed. -/
def settle (channels : Channels) (name : String) (message : Message) :
    Except Failure (List Endpoint × Channels) :=
  match channels.connections.get? name with
  | none => .error (unboundChannel message)
  | some connection =>
    match connection.agree name message.source.module message.tag with
    | .error failure => .error failure
    | .ok agreed =>
      .ok (agreed.members .subscriber,
        { channels with connections := channels.connections.insert name agreed })

/-- The connection and the subscribers that a message is published to. Where no type was agreed on,
the subscribers are those found when the type is fixed. -/
def accept (channels : Channels) (message : Message) :
    Except Failure (String × List Endpoint × Channels) :=
  match channels.publication message with
  | .error failure => .error failure
  | .ok found =>
    match found.agreed with
    | some agreed =>
      if agreed = message.tag then .ok (found.connection, found.subscribers, channels)
      else .error
        (.channelTypeMismatch found.connection message.source.module agreed message.tag)
    | none =>
      (channels.settle found.connection message).map fun (subscribers, channels) =>
        (found.connection, subscribers, channels)

/-- Whether a message travels on a channel that its sender publishes on, with the
type agreed on there. -/
def isValid (channels : Channels) (message : Message) : Bool :=
  match channels.resolve? (senderEndpoint message) with
  | some ⟨name, .publisher⟩ => (channels.connection name).tag = some message.tag
  | _ => false

/-- Let a module present the type of one of its channels by a sample. The sample
names the channel as the module does, and is from or for the module. -/
def present (channels : Channels) (module : String) (sample : Message) :
    Except Failure Channels :=
  if sample.isControl then
    .error (.invalidChannelSample module ("control message on channel " ++ named sample.channel))
  else if sample.source.module ≠ module ∧ sample.target.module ≠ module then
    .error (.invalidChannelSample module
      ("sample on channel " ++ named sample.channel ++ " is neither from nor to this module"))
  else
    match channels.resolve? ⟨module, sample.channel⟩ with
    | none => .error (.unknownChannel module sample.channel)
    | some binding =>
      ((channels.connection binding.connection).agree binding.connection module sample.tag).map
        fun agreed =>
          { channels with connections := channels.connections.insert binding.connection agreed }

/-- Present samples one after the other. Those before a refused one stay applied. -/
def presentEach (channels : Channels) (module : String) : List Message → Outcome Channels Unit
  | [] => .ok channels ()
  | sample :: rest =>
    match channels.present module sample with
    | .ok channels => channels.presentEach module rest
    | .error failure => .fail channels failure

/-- Present a batch of samples for a module, which must have a name. Whether the module is
registered is not asked: its channels are, one for each sample. -/
def presentAll (channels : Channels) (module : String) (samples : List Message) :
    Outcome Channels Unit :=
  if module.isEmpty then
    .fail channels (.invalidChannelSample "" "module id must not be empty")
  else channels.presentEach module samples

end Channels

end RelayTree
