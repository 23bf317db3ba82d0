/-
Requests that come as datagrams.

Bytes that are no message, and messages that are replies, are left without a
reply.  Every other message gets one.
-/
import SplitHorizon.Server.Question
import SplitHorizon.Wire.Decoder

namespace SplitHorizon
namespace Server

variable {ρ δ : Type}

/-- The reply to a request, before it is written. -/
def respond (service : Service ρ δ) (client : Ip) (request : Wire.Message) :
    Resolution.Act ρ δ Wire.Message :=
  if request.header.opcode ≠ Wire.Opcode.query then
    pure (errorReply request Wire.ResponseCode.notImplemented)
  else match request.questions with
    | [] => pure (errorReply request Wire.ResponseCode.formatError)
    | question :: _ => do
      match ← answerQuestion service client question.name question.kind with
      | .error code => return errorReply request code
      | .ok records =>
        match answerReply request records with
        | .ok reply => return reply
        | .error _ => return errorReply request Wire.ResponseCode.serverFailure

/-- The bytes to send for a reply.  One that does not fit into a message at all
gives way to a failure. -/
def replyBytes? (request reply : Wire.Message) : Option (List UInt8) :=
  match datagramBytes? request reply with
  | some bytes => some bytes
  | none => Wire.encode? (errorReply request Wire.ResponseCode.serverFailure)

/-- What is sent back for a datagram, if anything is. -/
def handleDatagram (service : Service ρ δ) (client : Ip) (bytes : List UInt8) :
    Resolution.Act ρ δ (Option (List UInt8)) :=
  match Wire.decode? bytes with
  | none => pure none
  | some request =>
    if request.header.isResponse then pure none
    else do
      let reply ← respond service client request
      return replyBytes? request reply

end Server
end SplitHorizon
