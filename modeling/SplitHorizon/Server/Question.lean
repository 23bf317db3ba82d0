/-
Questions as they arrive in messages.

Only addresses and aliases are asked for in earnest; which of the two makes no
difference to the answer.  A fault on the way becomes a response code.
-/
import SplitHorizon.Server.Reply
import SplitHorizon.Server.Service

namespace SplitHorizon
namespace Server

variable {ρ δ : Type}

/-- The records for a question, or the response code that says why there are
none. -/
def answerQuestion (service : Service ρ δ) (client : Ip) (name : Wire.Name) (kind : UInt16) :
    Resolution.Act ρ δ (Except Wire.ResponseCode (List Record)) :=
  match RecordKind.ofCode? kind with
  | none => pure (.error Wire.ResponseCode.notImplemented)
  | some _ => do
    match ← service.query client name.text with
    | .ok records => return .ok records
    | .error _ => return .error Wire.ResponseCode.serverFailure

end Server
end SplitHorizon
