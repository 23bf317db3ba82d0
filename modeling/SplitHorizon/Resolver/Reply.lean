/-
Replies of a resolver, as far as they matter.

Only addresses and aliases are kept of what a resolver answers.  A reply echoes a
name if its first question is that name, whatever the case of the letters and
whether or not a dot closes it.
-/
import SplitHorizon.Wire.Decoder
import SplitHorizon.Wire.Records

namespace SplitHorizon
namespace Resolver

structure Reply where
  id : UInt16
  code : Wire.ResponseCode
  truncated : Bool
  isResponse : Bool
  question : Option String
  records : List Record
deriving DecidableEq, Repr

/-- The text without the dots at its end. -/
def withoutDots (s : String) : String :=
  String.ofList (s.toList.reverse.dropWhile (· = '.')).reverse

namespace Reply

def isSuccess (reply : Reply) : Bool :=
  reply.code = Wire.ResponseCode.noError

def echoes (reply : Reply) (fqdn : String) : Bool :=
  match reply.question with
  | none => false
  | some question => Text.sameLetters (withoutDots question) (withoutDots fqdn)

def ofMessage (m : Wire.Message) : Reply :=
  { id := m.header.id
    code := m.header.code
    truncated := m.header.truncated
    isResponse := m.header.isResponse
    question := m.questions.head?.map fun q => q.name.text
    records := m.answers.map Wire.Answer.toRecord }

def parse (bytes : List UInt8) : Except Fault Reply :=
  match Wire.decode? bytes with
  | some m => .ok (ofMessage m)
  | none => .error (.malformed (.undecodable "Failed to parse DNS response"))

end Reply
end Resolver
end SplitHorizon
