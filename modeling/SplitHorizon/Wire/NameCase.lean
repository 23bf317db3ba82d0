/-
Names in lower case.

Lowering changes letters only, so a lowered name is as long as it was.
-/
import SplitHorizon.Text.Case
import SplitHorizon.Wire.Name

namespace SplitHorizon
namespace Wire

namespace Label

def lower (label : Label) : Label :=
  { bytes := label.bytes.map Text.lowerByte
    bytes_ne_nil := by simpa using label.bytes_ne_nil
    length_le := by simpa using label.length_le }

@[simp]
theorem size_lower (label : Label) : label.lower.size = label.size := by
  simp [size, lower]

end Label

theorem labelsSize_map_lower (labels : List Label) :
    labelsSize (labels.map Label.lower) = labelsSize labels := by
  induction labels with
  | nil => rfl
  | cons label rest ih => simp [ih]

namespace Name

def lower (name : Name) : Name :=
  { labels := name.labels.map Label.lower
    size_le := by rw [labelsSize_map_lower]; exact name.size_le }

end Name
end Wire
end SplitHorizon
