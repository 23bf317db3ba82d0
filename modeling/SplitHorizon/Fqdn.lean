/-
Fully qualified domain names as texts.

Every name that is stored, looked up or compared passes through `normalize`,
so that two spellings of one name meet: blanks around it, the case of its ASCII
letters and a missing closing dot make no difference.
-/
import SplitHorizon.Text.Blank
import SplitHorizon.Text.Case

namespace SplitHorizon
namespace Fqdn

/-- Adds the closing dot of the root unless it is there. -/
def closeDot (cs : List Char) : List Char :=
  if cs.getLast? = some '.' then cs else cs ++ ['.']

def normalizeChars (cs : List Char) : List Char :=
  closeDot (Text.lowerChars (Text.trimChars cs))

/-- The one spelling under which a name is stored and looked up.  The empty
name becomes the root `.`; of several closing dots none is taken away. -/
def normalize (name : String) : String :=
  String.ofList (normalizeChars name.toList)

theorem toList_normalize (name : String) :
    (normalize name).toList = normalizeChars name.toList := by
  simp [normalize]

theorem closeDot_ne_nil (cs : List Char) : closeDot cs ≠ [] := by
  unfold closeDot
  split
  · intro h; simp_all
  · simp

end Fqdn
end SplitHorizon
