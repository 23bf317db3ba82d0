/-
Requests that come over a stream.

A reply repeats the question section as it was received, so nothing in it is
shortened by the questions.  The name is looked up in lower case, and there must
be exactly one question.  A reply may have as many bytes as a frame.
-/
import SplitHorizon.Server.Question
import SplitHorizon.Wire.Decoder
import SplitHorizon.Wire.NameCase

namespace SplitHorizon
namespace Server

variable {ρ δ : Type}

/-- What is known about a reply once it is sent, or about the request if the
reply could not be sent. -/
structure StreamInfo where
  id : UInt16
  code : Wire.ResponseCode
  answerCount : Nat
deriving DecidableEq, Repr

structure StreamOutcome where
  reply : Option (List UInt8)
  info : StreamInfo
deriving DecidableEq, Repr

/-- The header of a reply over a stream, which also copies the bit that switches
checking off. -/
def streamHeader (request : Wire.Header) (code : Wire.ResponseCode) : Wire.Header :=
  { replyHeader request code with checkingDisabled := request.checkingDisabled }

def streamAnswers (service : Service ρ δ) (client : Ip) (request : Wire.Message) :
    Resolution.Act ρ δ (Wire.ResponseCode × List Wire.Answer) :=
  if request.header.opcode ≠ Wire.Opcode.query then
    pure (Wire.ResponseCode.notImplemented, [])
  else match request.questions with
    | [question] => do
      match ← answerQuestion service client question.name.lower question.kind with
      | .error code => return (code, [])
      | .ok records =>
        match Wire.answersOf records with
        | .ok answers => return (Wire.ResponseCode.noError, answers)
        | .error _ => return (Wire.ResponseCode.serverFailure, [])
    | _ => pure (Wire.ResponseCode.formatError, [])

/-- What becomes of a reply with a code and answers.  `sendFails` tells that the
client is gone. -/
def streamOutcome (received : Wire.Received) (sendFails : Bool) (code : Wire.ResponseCode)
    (answers : List Wire.Answer) : StreamOutcome :=
  let request := received.message
  let written := Wire.encodeBehind? (streamHeader request.header code)
    request.questions.length received.questionBytes answers
  match written with
  | some encoded =>
    if sendFails then unsent
    else
      { reply := some encoded.bytes
        info := { id := request.header.id, code := code, answerCount := encoded.answerCount } }
  | none => unsent
where
  unsent : StreamOutcome :=
    { reply := none
      info :=
        { id := received.message.header.id
          code := received.message.header.code
          answerCount := received.announcedAnswers } }

/-- What is sent back for a message on a stream, if the bytes are a message. -/
def handleStream (service : Service ρ δ) (client : Ip) (sendFails : Bool)
    (bytes : List UInt8) : Resolution.Act ρ δ (Option StreamOutcome) :=
  match Wire.receive? bytes with
  | none => pure none
  | some received => do
    let (code, answers) ← streamAnswers service client received.message
    return some (streamOutcome received sendFails code answers)

end Server
end SplitHorizon
