/-
Blank characters and trimming.

Texts from documents, settings and queries are trimmed by the White_Space
property of Unicode, which has twenty-five members.  ASCII blanks alone would
leave a no-break or ideographic space in a name.
-/

namespace SplitHorizon
namespace Text

/-- The White_Space property, as a check on code points. -/
def isBlank (c : Char) : Bool :=
  let n := c.toNat
  (9 ≤ n && n ≤ 13) || n == 0x20 || n == 0x85 || n == 0xA0 || n == 0x1680 ||
    (0x2000 ≤ n && n ≤ 0x200A) || n == 0x2028 || n == 0x2029 || n == 0x202F ||
    n == 0x205F || n == 0x3000

def trimFront (cs : List Char) : List Char :=
  cs.dropWhile isBlank

def trimBack (cs : List Char) : List Char :=
  (trimFront cs.reverse).reverse

def trimChars (cs : List Char) : List Char :=
  trimBack (trimFront cs)

/-- The text without the blanks at its two ends. -/
def trim (s : String) : String :=
  String.ofList (trimChars s.toList)

/-- A text of blanks only, the empty one included. -/
def isAllBlank (s : String) : Bool :=
  s.toList.all isBlank

theorem trimFront_eq_nil_iff {cs : List Char} :
    trimFront cs = [] ↔ ∀ c ∈ cs, isBlank c = true := by
  induction cs with
  | nil => simp [trimFront]
  | cons c rest ih =>
    cases h : isBlank c
    · simp [trimFront, h]
    · have hrest : trimFront (c :: rest) = trimFront rest := by simp [trimFront, h]
      rw [hrest, ih]
      simp [h]

end Text
end SplitHorizon
