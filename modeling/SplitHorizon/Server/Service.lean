/-
Answering one question for one client.

Whatever cannot be answered, for whatever reason, is unresolved; an answer
without records is none.
-/
import SplitHorizon.Resolution.Engine

namespace SplitHorizon
namespace Server

structure Service (ρ δ : Type) where
  answers : Answers
  defaultTtl : UInt32
  source : IndexSource ρ
  delegate : Delegate δ

namespace Service

variable {ρ δ : Type}

def resolution (service : Service ρ δ) (client : ClientKey) : Resolution ρ δ :=
  { answers := service.answers
    client := client
    defaultTtl := service.defaultTtl
    source := service.source
    delegate := service.delegate }

/-- The records for a name, asked for by the client at an address. -/
def query (service : Service ρ δ) (client : Ip) (name : String) :
    Resolution.Act ρ δ (Except Fault (List Record)) := do
  match ← (service.resolution (ClientKey.ofIp client)).resolve name AliasChain.empty with
  | some (first :: rest) => return .ok (first :: rest)
  | _ => return .error (.unresolved name)

end Service
end Server
end SplitHorizon
