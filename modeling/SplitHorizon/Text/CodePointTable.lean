/-
Tables of code points, written as texts.

A table is written in lines, and a line has words between blanks; a word holds
hexadecimal numbers with one sign between two of them.  What the numbers mean is
up to the table.  Its rows stand in ascending order, so a row is looked for no
further than to the first one that begins beyond the code point.
-/
import SplitHorizon.Text.Blank
import SplitHorizon.Text.Numeral

namespace SplitHorizon
namespace Text

/-- The numbers of a word.  `current` is the one being read, if any. -/
def wordNumbers : Option Nat → List Char → List Nat
  | none, [] => []
  | some n, [] => [n]
  | current, c :: rest =>
    match digitValue c with
    | some d =>
      if d < 16 then wordNumbers (some (current.getD 0 * 16 + d)) rest
      else current.toList ++ wordNumbers none rest
    | none => current.toList ++ wordNumbers none rest

/-- The words of a text, each with its characters in order. -/
def textWords : List Char → List Char → List (List Char)
  | [], [] => []
  | word, [] => [word.reverse]
  | word, c :: rest =>
    if isBlank c then
      if word.isEmpty then textWords [] rest else word.reverse :: textWords [] rest
    else textWords (c :: word) rest

def tableWords (table : List String) : List (List Char) :=
  table.flatMap fun line => textWords [] line.toList

def tableRows (table : List String) : List (List Nat) :=
  (tableWords table).map (wordNumbers none)

/-- Code points from the first to the last of a pair, the pairs in ascending order. -/
abbrev Ranges := List (Nat × Nat)

namespace Ranges

def contains : Ranges → Char → Bool
  | [], _ => false
  | (first, last) :: rest, c =>
    first ≤ c.toNat && (c.toNat ≤ last || contains rest c)

/-- The ranges of a table whose words are single code points or pairs. -/
def ofTable (table : List String) : Ranges :=
  (tableRows table).filterMap fun row =>
    match row with
    | [c] => some (c, c)
    | [first, last] => some (first, last)
    | _ => none

end Ranges
end Text
end SplitHorizon
