/-
Labels with letters that are written from right to left.

A name with such a letter anywhere has to keep each of its labels readable: a
label starts with a letter, that letter decides its direction, and only signs
that go with this direction may follow.
-/
import SplitHorizon.Idna.BidiTable
import SplitHorizon.Text.CodePointTable

namespace SplitHorizon
namespace Idna

open Text

/-- The direction classes, as far as a name can hold them. -/
inductive Direction where
  | left
  | right
  | arabicLetter
  | arabicNumber
  | europeanNumber
  | europeanSeparator
  | europeanTerminator
  | commonSeparator
  | neutral
  | boundary
  | nonspacing
  | space
deriving DecidableEq, Repr

namespace Direction

def tables : List (Ranges × Direction) :=
  [(Ranges.ofTable rightToLeftTable, right), (Ranges.ofTable arabicLetterTable, arabicLetter),
    (Ranges.ofTable arabicNumberTable, arabicNumber),
    (Ranges.ofTable europeanNumberTable, europeanNumber),
    (Ranges.ofTable europeanSeparatorTable, europeanSeparator),
    (Ranges.ofTable europeanTerminatorTable, europeanTerminator),
    (Ranges.ofTable commonSeparatorTable, commonSeparator),
    (Ranges.ofTable neutralTable, neutral), (Ranges.ofTable boundaryTable, boundary),
    (Ranges.ofTable nonspacingTable, nonspacing)]

def ofChar (c : Char) : Direction :=
  match tables.find? fun (ranges, _) => ranges.contains c with
  | some (_, direction) => direction
  | none => if c.toNat ≤ 0x20 then space else left

/-- What may stand in a label that runs to the right. -/
def fitsLeft : Direction → Bool
  | left | europeanNumber | europeanSeparator | europeanTerminator | commonSeparator
  | neutral | boundary | nonspacing => true
  | _ => false

/-- What may stand in a label that runs to the left. -/
def fitsRight : Direction → Bool
  | left | space => false
  | _ => true

end Direction

/-- The first code point that can be written from right to left. -/
def rightToLeftStart : Nat := 0x590

def isRightToLeft (c : Char) : Bool :=
  if c.toNat < rightToLeftStart then false
  else match Direction.ofChar c with
    | .right | .arabicLetter | .arabicNumber => true
    | _ => false

def keepsDirection (label : List Char) : Bool :=
  let classes := label.map Direction.ofChar
  let last := (classes.reverse.dropWhile (· = .nonspacing)).head?
  match classes.head? with
  | none => true
  | some .left =>
    classes.all Direction.fitsLeft && (last = some .left || last = some .europeanNumber)
  | some .right | some .arabicLetter =>
    classes.all Direction.fitsRight &&
      (last = some .right || last = some .arabicLetter || last = some .europeanNumber ||
        last = some .arabicNumber) &&
      !(classes.contains .europeanNumber && classes.contains .arabicNumber)
  | some _ => false

end Idna
end SplitHorizon
