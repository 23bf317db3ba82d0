/-
Replies to clients.

A reply copies the number, the operation, the recursion bit and the questions of
its request, and speaks with authority.  Over datagrams a reply of more than 512
bytes gives way to an empty one that is marked as truncated, so that the client
asks again over a stream.
-/
import SplitHorizon.Wire.Encoder
import SplitHorizon.Wire.Records

namespace SplitHorizon
namespace Server

def maxDatagram : Nat := 512

def replyHeader (request : Wire.Header) (code : Wire.ResponseCode) : Wire.Header :=
  { id := request.id
    isResponse := true
    opcode := request.opcode
    authoritative := true
    truncated := false
    recursionDesired := request.recursionDesired
    recursionAvailable := true
    checkingDisabled := false
    code := code }

/-- A reply without answers. -/
def errorReply (request : Wire.Message) (code : Wire.ResponseCode) : Wire.Message :=
  { header := replyHeader request.header code, questions := request.questions, answers := [] }

/-- A reply with the records in order. -/
def answerReply (request : Wire.Message) (records : List Record) :
    Except Fault Wire.Message := do
  let answers ← Wire.answersOf records
  return { errorReply request Wire.ResponseCode.noError with answers := answers }

/-- An empty reply that sends the client to a stream. -/
def truncatedReply (request : Wire.Message) : Wire.Message :=
  let reply := errorReply request Wire.ResponseCode.noError
  { reply with header := { reply.header with truncated := true } }

def datagramBytes? (request reply : Wire.Message) : Option (List UInt8) := do
  let bytes ← Wire.encode? reply
  if bytes.length ≤ maxDatagram then return bytes
  else Wire.encode? (truncatedReply request)

end Server
end SplitHorizon
