/-
ASCII letter case.

Domain names ignore the case of ASCII letters and of no others, so lowering
must leave every other character alone.
-/

namespace SplitHorizon
namespace Text

/-- Lowers `A` to `Z` and nothing else. -/
def lowerChar (c : Char) : Char :=
  if 'A' ≤ c ∧ c ≤ 'Z' then Char.ofNat (c.toNat + 32) else c

def lowerChars (cs : List Char) : List Char :=
  cs.map lowerChar

def lower (s : String) : String :=
  String.ofList (lowerChars s.toList)

def sameLetters (a b : String) : Bool :=
  lower a == lower b

def lowerByte (b : UInt8) : UInt8 :=
  if 65 ≤ b ∧ b ≤ 90 then b + 32 else b

end Text
end SplitHorizon
