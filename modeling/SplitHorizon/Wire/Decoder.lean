/-
Reading messages.

The header announces how many questions and records there are.  The data of a
record takes exactly the bytes announced for it, and bytes after the last record
are left alone.
-/
import SplitHorizon.Record
import SplitHorizon.Wire.Data

namespace SplitHorizon
namespace Wire

/-! ## Records and sections -/

def readQuestion (message : List UInt8) : Reader Question := do
  let name ← readName message
  let kind ← Reader.word16
  let cls ← Reader.word16
  return { name := name, kind := kind, cls := cls }

/-- A record of any kind, with the answer it is, if any. -/
structure ReadRecord where
  name : Name
  kind : UInt16
  ttl : UInt32
  data : Option AnswerData
deriving DecidableEq, Repr

namespace ReadRecord

def answer? (r : ReadRecord) : Option Answer :=
  r.data.map fun data => { name := r.name, ttl := r.ttl, data := data }

end ReadRecord

def kindExtension : UInt16 := 41

/-- The kinds that sign a message, or extend its header, and stand only in its
last section. -/
def isTrailing (kind : UInt16) : Bool :=
  kind = kindExtension || kind = 24 || kind = 250

def readRecord (message : List UInt8) : Reader ReadRecord := do
  let name ← readName message
  let kind ← Reader.word16
  guard (kind = kindExtension → name.isRoot)
  let _ ← Reader.word16
  let ttl ← Reader.word32
  let length ← Reader.word16
  let data ← readData message kind length.toNat
  return { name := name, kind := kind, ttl := ttl, data := data }

def readSection (message : List UInt8) (count : Nat) : Reader (List ReadRecord) := do
  let records ← Reader.times (readRecord message) count
  guard (records.all fun r => !isTrailing r.kind)
  return records

/-- The last section.  Its extension record, of which there may be one, has the
high bits of the response code at the top of its TTL. -/
def readAdditional (message : List UInt8) (count : Nat) : Reader UInt8 := do
  let records ← Reader.times (readRecord message) count
  match records.filter fun r => r.kind = kindExtension with
  | [] => return 0
  | [extension] => return UInt8.ofNat (extension.ttl.toNat / 0x1000000)
  | _ => fun _ => none

/-! ## Messages -/

/-- A message together with its question section as it was written and the
number of answers that its header announces. -/
structure Received where
  message : Message
  questionBytes : List UInt8
  announcedAnswers : Nat
deriving DecidableEq, Repr

def readMessage (bytes : List UInt8) : Reader Received := do
  let (header, counts) ← Header.read
  let first ← Reader.position
  let questions ← Reader.times (readQuestion bytes) counts.questions
  let afterQuestions ← Reader.position
  let answers ← readSection bytes counts.answers
  let _ ← readSection bytes counts.authorities
  let high ← readAdditional bytes counts.additionals
  let code := ResponseCode.ofParts high header.code.low
  return {
    message := {
      header := { header with code := code }
      questions := questions
      answers := answers.filterMap ReadRecord.answer? }
    questionBytes := (bytes.drop first).take (afterQuestions - first)
    announcedAnswers := counts.answers }

def receive? (bytes : List UInt8) : Option Received :=
  (readMessage bytes (Cursor.start bytes)).map Prod.fst

/-- The message that some bytes start with, without its written form. -/
def decode? (bytes : List UInt8) : Option Message :=
  (receive? bytes).map Received.message

end Wire
end SplitHorizon
