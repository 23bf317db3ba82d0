/-
The composed normal form of a text.

Characters are taken apart, marks on one starter are put in the order of their
combining classes, and what can be put together again is.  Nothing below U+0300
is touched by any of this, so such a text is its own normal form.
-/
import SplitHorizon.Idna.CombiningTable
import SplitHorizon.Idna.CompositionTable
import SplitHorizon.Text.CodePointTable

namespace SplitHorizon
namespace Idna

open Text

/-! ## Tables -/

/-- A character, and the two that it is made of. -/
structure CompositionPair where
  whole : Nat
  first : Nat
  second : Nat
deriving Repr, DecidableEq

def compositionPairs : List CompositionPair :=
  (tableRows compositionTable).filterMap fun row =>
    match row with
    | [whole, first, second] => some { whole := whole, first := first, second := second }
    | _ => none

def combiningRuns : List (Nat × Nat × Nat) :=
  (tableRows combiningTable).filterMap fun row =>
    match row with
    | [first, last, cls] => some (first, last, cls)
    | _ => none

/-- The first code point that can change in composition. -/
def compositionStart : Nat := 0x300

/-- The canonical combining class; zero for a starter. -/
def combiningClass (c : Char) : Nat :=
  if c.toNat < compositionStart then 0
  else match combiningRuns.find? fun (first, last, _) => first ≤ c.toNat && c.toNat ≤ last with
    | some (_, _, cls) => cls
    | none => 0

/-! ## Hangul syllables -/

namespace Hangul

def syllableStart : Nat := 0xAC00
def leadStart : Nat := 0x1100
def vowelStart : Nat := 0x1161
def tailStart : Nat := 0x11A7
def leadCount : Nat := 19
def vowelCount : Nat := 21
def tailCount : Nat := 28
def syllableCount : Nat := leadCount * vowelCount * tailCount

def decompose? (c : Char) : Option (List Char) :=
  let n := c.toNat
  if syllableStart ≤ n ∧ n < syllableStart + syllableCount then
    let s := n - syllableStart
    let lead := Char.ofNat (leadStart + s / (vowelCount * tailCount))
    let vowel := Char.ofNat (vowelStart + s % (vowelCount * tailCount) / tailCount)
    let tail := s % tailCount
    some ([lead, vowel] ++ if tail = 0 then [] else [Char.ofNat (tailStart + tail)])
  else none

/-- The syllable of a lead and a vowel, or of a syllable and a tail. -/
def compose? (a b : Char) : Option Char :=
  let lead := a.toNat - leadStart
  let vowel := b.toNat - vowelStart
  let s := a.toNat - syllableStart
  if leadStart ≤ a.toNat ∧ lead < leadCount ∧ vowelStart ≤ b.toNat ∧ vowel < vowelCount then
    some (Char.ofNat (syllableStart + (lead * vowelCount + vowel) * tailCount))
  else if syllableStart ≤ a.toNat ∧ s < syllableCount ∧ s % tailCount = 0 ∧
      tailStart < b.toNat ∧ b.toNat < tailStart + tailCount then
    some (Char.ofNat (a.toNat + (b.toNat - tailStart)))
  else none

end Hangul

/-! ## Normal form -/

/-- The parts of a character, taken apart as often as `depth` allows. -/
def decomposeUpTo : Nat → Char → List Char
  | 0, c => [c]
  | depth + 1, c =>
    match compositionPairs.find? (·.whole = c.toNat) with
    | some pair => decomposeUpTo depth (Char.ofNat pair.first) ++ [Char.ofNat pair.second]
    | none => [c]

/-- More than the number of times any character can be taken apart. -/
def decompositionDepth : Nat := 8

def decompose (c : Char) : List Char :=
  match Hangul.decompose? c with
  | some letters => letters
  | none => decomposeUpTo decompositionDepth c

/-- Puts a character in front of ordered ones, past the marks of lower class. -/
def insertMark (c : Char) : List Char → List Char
  | [] => [c]
  | first :: rest =>
    if combiningClass c ≤ combiningClass first ∨ combiningClass first = 0 then
      c :: first :: rest
    else first :: insertMark c rest

/-- The marks behind each starter in the order of their classes. -/
def orderMarks (cs : List Char) : List Char :=
  cs.foldr insertMark []

def composePair? (a b : Char) : Option Char :=
  match Hangul.compose? a b with
  | some c => some c
  | none =>
    (compositionPairs.find? fun pair => pair.first = a.toNat && pair.second = b.toNat).map
      fun pair => Char.ofNat pair.whole

/-- Puts a starter together with what follows it.  `marks` are those that did
not go with the starter, the last one first. -/
def composeFrom (starter : Char) : List Char → List Char → List Char
  | marks, [] => starter :: marks.reverse
  | marks, c :: rest =>
    let cls := combiningClass c
    let reachable := match marks with
      | [] => true
      | last :: _ => combiningClass last < cls
    match if reachable then composePair? starter c else none with
    | some whole => composeFrom whole marks rest
    | none =>
      if cls = 0 then starter :: marks.reverse ++ composeFrom c [] rest
      else composeFrom starter (c :: marks) rest

/-- Puts together what can be; marks in front of the first starter stay. -/
def composeAll : List Char → List Char
  | [] => []
  | c :: rest => if combiningClass c = 0 then composeFrom c [] rest else c :: composeAll rest

def composed (cs : List Char) : List Char :=
  if cs.all (fun c => c.toNat < compositionStart) then cs
  else composeAll (orderMarks (cs.flatMap decompose))

end Idna
end SplitHorizon
