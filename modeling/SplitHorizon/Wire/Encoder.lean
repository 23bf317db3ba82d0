/-
Writing messages.

All questions have to fit.  Answers are written as long as they fit; if some do
not, the message says so with its truncated bit and counts the ones it has.
-/
import SplitHorizon.Record
import SplitHorizon.Wire.Message
import SplitHorizon.Wire.NameWriter

namespace SplitHorizon
namespace Wire

structure Encoded where
  bytes : List UInt8
  answerCount : Nat
deriving DecidableEq, Repr

def writeQuestion (known : Endings) (pos : Nat) (q : Question) : Option Written := do
  let name ← writeName known pos q.name
  let bytes := name.bytes ++ word16Bytes q.kind ++ word16Bytes q.cls
  guard (pos + bytes.length ≤ maxMessageSize)
  return { bytes := bytes, known := name.known }

def writeQuestions : Endings → Nat → List Question → Option Written
  | known, _, [] => some { bytes := [], known := known }
  | known, pos, q :: rest => do
    let first ← writeQuestion known pos q
    let others ← writeQuestions first.known (pos + first.bytes.length) rest
    return { bytes := first.bytes ++ others.bytes, known := others.known }

namespace AnswerData

def kind : AnswerData → RecordKind
  | .address _ => .a
  | .canonical _ => .cname

def write (known : Endings) (pos : Nat) : AnswerData → Option Written
  | .address ip => some { bytes := ip.bytes, known := known }
  | .canonical target => writeName known pos target

end AnswerData

/-- The bytes between the owner and the data of an answer, the length of the
data apart. -/
def answerMiddle (a : Answer) : List UInt8 :=
  word16Bytes a.data.kind.code ++ word16Bytes classInternet ++ word32Bytes a.ttl

def writeAnswer (known : Endings) (pos : Nat) (a : Answer) : Option Written := do
  let owner ← writeName known pos a.name
  let front := owner.bytes ++ answerMiddle a
  let data ← a.data.write owner.known (pos + front.length + 2)
  let bytes := front ++ word16Bytes (UInt16.ofNat data.bytes.length) ++ data.bytes
  guard (pos + bytes.length ≤ maxMessageSize)
  return { bytes := bytes, known := data.known }

/-- Writes the answers in front that fit, and counts them. -/
def writeAnswers : Endings → Nat → List Answer → List UInt8 × Nat
  | _, _, [] => ([], 0)
  | known, pos, a :: rest =>
    match writeAnswer known pos a with
    | none => ([], 0)
    | some first =>
      let (bytes, count) := writeAnswers first.known (pos + first.bytes.length) rest
      (first.bytes ++ bytes, count + 1)

/-- A message of a header, a written question section and answers. -/
def assemble (header : Header) (questionCount : Nat) (questions : Written)
    (answers : List Answer) : Encoded :=
  let (bytes, count) :=
    writeAnswers questions.known (Header.size + questions.bytes.length) answers
  let header := { header with truncated := header.truncated || count < answers.length }
  let counts :=
    { questions := questionCount, answers := count, authorities := 0, additionals := 0 }
  { bytes := header.bytes counts ++ questions.bytes ++ bytes, answerCount := count }

/-- The bytes of a message, if its questions fit. -/
def encode? (m : Message) : Option (List UInt8) := do
  let questions ← writeQuestions [] Header.size m.questions
  return (assemble m.header m.questions.length questions m.answers).bytes

/-- The message whose question section is given as it is to stand there.  No
name is shortened by what stands in it. -/
def encodeBehind? (header : Header) (questionCount : Nat) (questionBytes : List UInt8)
    (answers : List Answer) : Option Encoded :=
  if Header.size + questionBytes.length ≤ maxMessageSize then
    some (assemble header questionCount { bytes := questionBytes, known := [] } answers)
  else none

end Wire
end SplitHorizon
