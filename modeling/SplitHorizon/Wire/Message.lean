/-
Messages, as far as this server takes part in them.

A message has questions, which are kept whatever they ask for, and answers, of
which only addresses and aliases are kept.  What else a message may hold is
checked when it is read and then dropped.
-/
import SplitHorizon.Address.Ipv4
import SplitHorizon.Wire.Header
import SplitHorizon.Wire.Name

namespace SplitHorizon
namespace Wire

structure Question where
  name : Name
  kind : UInt16
  cls : UInt16
deriving DecidableEq, Repr

inductive AnswerData where
  | address (ip : Ipv4)
  | canonical (target : Name)
deriving DecidableEq, Repr

structure Answer where
  name : Name
  ttl : UInt32
  data : AnswerData
deriving DecidableEq, Repr

structure Message where
  header : Header
  questions : List Question
  answers : List Answer
deriving DecidableEq, Repr

/-- The class of the Internet, the only one asked for and served. -/
def classInternet : UInt16 := 1

end Wire
end SplitHorizon
