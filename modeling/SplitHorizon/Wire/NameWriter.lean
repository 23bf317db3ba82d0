/-
Writing names into a message.

A name is written label by label until what is left of it was spelled out
before; then a pointer to that place ends it.  Endings are compared byte for
byte, so a name never changes its letter case, and the earliest place wins.

A name has to fit as a whole before it is shortened.  Its endings are remembered
only if it would end at a place that a pointer can name.
-/
import SplitHorizon.Wire.Cursor
import SplitHorizon.Wire.Name

namespace SplitHorizon
namespace Wire

/-- The endings of names that a message has spelled out, each with its place,
the earliest first. -/
abbrev Endings := List (List Label × Nat)

/-- Something written into a message, and the endings known after it. -/
structure Written where
  bytes : List UInt8
  known : Endings
deriving DecidableEq, Repr

def maxMessageSize : Nat := 65535

/-- The places from here on are not remembered. -/
def endingsLimit : Nat := 0x3FFF

def pointerBytes (target : Nat) : List UInt8 :=
  [UInt8.ofNat (192 + target / 256), UInt8.ofNat target]

/-- Writes labels at a place.  `keep` says whether their endings are
remembered. -/
def writeLabels (keep : Bool) : Endings → Nat → List Label → Written
  | known, _, [] => { bytes := [0], known := known }
  | known, pos, label :: rest =>
    match List.lookup (label :: rest) known with
    | some target => { bytes := pointerBytes target, known := known }
    | none =>
      let known := if keep then known ++ [(label :: rest, pos)] else known
      let tail := writeLabels keep known (pos + label.size) rest
      { bytes := label.spelled ++ tail.bytes, known := tail.known }

/-- Writes a name at a place, if it fits. -/
def writeName (known : Endings) (pos : Nat) (name : Name) : Option Written :=
  let stop := pos + labelsSize name.labels
  let written := writeLabels (stop < endingsLimit) known pos name.labels
  if stop ≤ maxMessageSize ∧ pos + written.bytes.length ≤ maxMessageSize then some written
  else none

end Wire
end SplitHorizon
