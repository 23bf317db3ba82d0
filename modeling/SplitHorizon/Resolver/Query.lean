/-
Questions to a resolver.

A query has one question of class IN and asks the resolver to do all the work
itself.  The number that tells its reply from others is chosen by the caller.
-/
import SplitHorizon.Fault
import SplitHorizon.Wire.Encoder
import SplitHorizon.Wire.NameText

namespace SplitHorizon
namespace Resolver

def queryHeader (id : UInt16) : Wire.Header :=
  { id := id
    isResponse := false
    opcode := Wire.Opcode.query
    authoritative := false
    truncated := false
    recursionDesired := true
    recursionAvailable := false
    checkingDisabled := false
    code := Wire.ResponseCode.noError }

def queryMessage (id : UInt16) (name : Wire.Name) (kind : RecordKind) : Wire.Message :=
  { header := queryHeader id
    questions := [{ name := name, kind := kind.code, cls := Wire.classInternet }]
    answers := [] }

/-- The name that a text asks for. -/
def askedName (domain : String) : Except Fault Wire.Name :=
  match Wire.Name.parse? domain with
  | none => .error (.invalidName ("Invalid domain '" ++ domain ++ "'"))
  | some name => .ok name

def queryBytes (id : UInt16) (name : Wire.Name) (kind : RecordKind) : Except Fault (List UInt8) :=
  match Wire.encode? (queryMessage id name kind) with
  | some bytes => .ok bytes
  | none => .error (.malformed (.undecodable "Failed to serialize DNS message"))

def query (id : UInt16) (domain : String) (kind : RecordKind) : Except Fault (List UInt8) :=
  match askedName domain with
  | .error fault => .error fault
  | .ok name => queryBytes id name kind

end Resolver
end SplitHorizon
