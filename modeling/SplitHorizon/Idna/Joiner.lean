/-
Joiners that are not seen.

The two zero-width joiners change how their neighbours are drawn, so they may
stand only where the script gives them that meaning: behind a virama, or, for
the one that keeps letters apart, between two letters that would join.
-/
import SplitHorizon.Idna.Composition
import SplitHorizon.Idna.JoiningTable

namespace SplitHorizon
namespace Idna

open Text

def nonJoiner : Char := Char.ofNat 0x200C
def joiner : Char := Char.ofNat 0x200D

def viramaClass : Nat := 9

def joinsNextRanges : List Ranges :=
  [Ranges.ofTable joinsNextTable, Ranges.ofTable joinsBothTable]

def joinsPreviousRanges : List Ranges :=
  [Ranges.ofTable joinsPreviousTable, Ranges.ofTable joinsBothTable]

def transparentRanges : Ranges :=
  Ranges.ofTable transparentTable

/-- The first character that joining does not look through is in one of the ranges. -/
def meets (ranges : List Ranges) (cs : List Char) : Bool :=
  match cs.dropWhile transparentRanges.contains with
  | [] => false
  | c :: _ => ranges.any (·.contains c)

/-- A joiner may stand between what is before it, the nearest first, and what is
behind it. -/
def joinerFits (c : Char) (before behind : List Char) : Bool :=
  (before.head?.map combiningClass = some viramaClass) ||
    (c = nonJoiner && meets joinsNextRanges before && meets joinsPreviousRanges behind)

/-- All joiners of a text stand where they may; `before` was passed already. -/
def joinersFit : List Char → List Char → Bool
  | _, [] => true
  | before, c :: rest =>
    (!(c = nonJoiner || c = joiner) || joinerFits c before rest) && joinersFit (c :: before) rest

end Idna
end SplitHorizon
