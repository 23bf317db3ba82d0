/-
Reading names out of a message.

A name is spelled out label by label up to a zero, or up to a pointer to an
earlier place where it goes on.  A pointer must point before the name it stands
in, and what is read there must end before that name, so a chain of pointers
runs strictly towards the front of the message and comes to an end.
-/
import SplitHorizon.Wire.Cursor
import SplitHorizon.Wire.Name

namespace SplitHorizon
namespace Wire

def pointerTarget (high low : UInt8) : Nat :=
  high.toNat % 64 * 256 + low.toNat

/-- Reads labels from a cursor on.  `start` is where this run of labels began:
its pointers must point before it.  `limit` is where it has to end: a label, a
zero or a pointer at or after it is refused. -/
def readLabels (message : List UInt8) (start limit : Nat) (here : Cursor) :
    Option (List Label × Cursor) :=
  if limit ≤ here.pos then none
  else match _h : here.rest with
  | [] => none
  | b :: rest =>
    if b = 0 then some ([], { pos := here.pos + 1, rest := rest })
    else if b < 64 then
      match Label.ofBytes? (rest.take b.toNat) with
      | none => none
      | some label =>
        if label.bytes.length = b.toNat then do
          let next := { pos := here.pos + label.size, rest := rest.drop b.toNat }
          let (labels, here) ← readLabels message start limit next
          return (label :: labels, here)
        else none
    else if b < 192 then none
    else
      match rest with
      | [] => none
      | low :: rest =>
        let target := pointerTarget b low
        if target < start then do
          let (labels, _) ←
            readLabels message target start { pos := target, rest := message.drop target }
          return (labels, { pos := here.pos + 2, rest := rest })
        else none
termination_by (start, here.rest.length)
decreasing_by
  · rw [_h]
    exact Prod.Lex.right _ (by simp only [List.length_drop, List.length_cons]; omega)
  · exact Prod.Lex.left _ _ ‹_›

def readName (message : List UInt8) : Reader Name := fun here => do
  let (labels, here) ← readLabels message here.pos message.length here
  let name ← Name.ofLabels? labels
  return (name, here)

end Wire
end SplitHorizon
