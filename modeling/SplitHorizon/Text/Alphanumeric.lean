/-
Letters and numbers of all scripts.

A letter is what the Alphabetic property of Unicode covers, a number what its
number categories cover; no other character is either.
-/
import SplitHorizon.Text.CodePointTable
import SplitHorizon.Text.LetterTable
import SplitHorizon.Text.NumberTable

namespace SplitHorizon
namespace Text

def letterRanges : Ranges := Ranges.ofTable letterTable

def numberRanges : Ranges := Ranges.ofTable numberTable

/-- A character that writes words, in any script. -/
def isLetter (c : Char) : Bool :=
  c.isAlpha || (0x80 ≤ c.toNat && letterRanges.contains c)

/-- A character that writes numbers, in any script. -/
def isNumeric (c : Char) : Bool :=
  c.isDigit || (0x80 ≤ c.toNat && numberRanges.contains c)

def isAlphanumeric (c : Char) : Bool :=
  isLetter c || isNumeric c

end Text
end SplitHorizon
