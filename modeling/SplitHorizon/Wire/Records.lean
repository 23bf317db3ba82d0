/-
Records and the answers that carry them.

A record names things by text and an answer by labels.  Every answer has a
record; a record has an answer only if its texts are names.
-/
import SplitHorizon.Fault
import SplitHorizon.Wire.Message
import SplitHorizon.Wire.NameText

namespace SplitHorizon
namespace Wire

def nameOf (text : String) : Except Fault Name :=
  match Name.parse? text with
  | some name => .ok name
  | none => .error (.invalidName ("Invalid name '" ++ text ++ "'"))

namespace AnswerData

/-- The data of a record, its texts read as names. -/
def ofRecord : RecordData → Except Fault AnswerData
  | .address ip => .ok (.address ip)
  | .canonical target => (nameOf target).map AnswerData.canonical

def toRecord : AnswerData → RecordData
  | .address ip => .address ip
  | .canonical target => .canonical target.text

end AnswerData

namespace Answer

def ofRecord (r : Record) : Except Fault Answer := do
  let name ← nameOf r.name
  let data ← AnswerData.ofRecord r.data
  return { name := name, ttl := r.ttl, data := data }

def toRecord (a : Answer) : Record :=
  { name := a.name.text, ttl := a.ttl, data := a.data.toRecord }

end Answer

/-- The answers of all records, or the fault of the first that has none. -/
def answersOf (records : List Record) : Except Fault (List Answer) :=
  records.mapM Answer.ofRecord

end Wire
end SplitHorizon
