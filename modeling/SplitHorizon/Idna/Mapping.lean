/-
What each character of a name is taken for.

ASCII letters are lowered and all other ASCII characters kept; whether one of
those may occur is for others to say.  Beyond ASCII the tables decide: most
characters are kept, some stand for others, some are left out, and some may not
occur.
-/
import SplitHorizon.Idna.MappingTable
import SplitHorizon.Idna.MarkTable
import SplitHorizon.Text.Case
import SplitHorizon.Text.CodePointTable

namespace SplitHorizon
namespace Idna

open Text

/-! ## Tables -/

def disallowedRanges : Ranges := Ranges.ofTable disallowedTable

def ignoredRanges : Ranges := Ranges.ofTable ignoredTable

/-- Evenly spaced code points that are mapped to evenly spaced ones. -/
structure ShiftedRun where
  first : Nat
  last : Nat
  step : Nat
  image : Nat
deriving Repr, DecidableEq

def shiftedRuns : List ShiftedRun :=
  (tableRows shiftedTable).filterMap fun row =>
    match row with
    | [first, last, step, image] =>
      some { first := first, last := last, step := step, image := image }
    | _ => none

namespace ShiftedRun

def image? (run : ShiftedRun) (n : Nat) : Option Nat :=
  if run.first ≤ n ∧ n ≤ run.last ∧ (n - run.first) % run.step = 0 then
    some (run.image + (n - run.first))
  else none

end ShiftedRun

def shiftedImage? (n : Nat) : List ShiftedRun → Option Nat
  | [] => none
  | run :: rest =>
    if n < run.first then none
    else match run.image? n with
      | some image => some image
      | none => shiftedImage? n rest

/-- Code points that follow each other, with their images in order. -/
abbrev ListedRun := Nat × List (List Nat)

/-- Runs gathered from the back of a table, and images whose run has not started
yet. -/
structure GatheredRuns where
  waiting : List (List Nat)
  runs : List ListedRun

/-- Takes one more word.  A word that ends in a colon starts the run of the
images behind it. -/
def GatheredRuns.take (word : List Char) (behind : GatheredRuns) : GatheredRuns :=
  let numbers := wordNumbers none word
  if word.getLast? = some ':' then
    { waiting := [], runs := (numbers.headD 0, behind.waiting) :: behind.runs }
  else { behind with waiting := numbers :: behind.waiting }

def listedRuns : List ListedRun :=
  ((tableWords listedTable).foldr GatheredRuns.take { waiting := [], runs := [] }).runs

def listedImage? (n : Nat) : List ListedRun → Option (List Nat)
  | [] => none
  | (first, images) :: rest =>
    if n < first then none
    else if n < first + images.length then images[n - first]?
    else listedImage? n rest

def markRanges : Ranges := Ranges.ofTable markTable

/-! ## Characters -/

/-- The first code point that is looked up. -/
def tableStart : Nat := 0x80

def lookUp (c : Char) : Option (List Char) :=
  let n := c.toNat
  if disallowedRanges.contains c then none
  else if ignoredRanges.contains c then some []
  else match shiftedImage? n shiftedRuns with
    | some image => some [Char.ofNat image]
    | none =>
      match listedImage? n listedRuns with
      | some images => some (images.map Char.ofNat)
      | none => some [c]

/-- What a character is taken for, if it may occur. -/
def mapChar (c : Char) : Option (List Char) :=
  if c.toNat < tableStart then some [lowerChar c] else lookUp c

def mapChars : List Char → Option (List Char)
  | [] => some []
  | c :: rest => do
    let image ← mapChar c
    let images ← mapChars rest
    return image ++ images

/-- A character that modifies the one in front of it. -/
def isMark (c : Char) : Bool :=
  if c.toNat < 0x300 then false else markRanges.contains c

end Idna
end SplitHorizon
