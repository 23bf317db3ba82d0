/-
Names as messages carry them.

A name is a list of labels, the most specific first; the root is the name
without labels.  A label has one to 63 bytes of any value, and a name takes at
most 255 bytes in a message, its closing zero included.
-/

namespace SplitHorizon
namespace Wire

structure Label where
  bytes : List UInt8
  bytes_ne_nil : bytes ≠ []
  length_le : bytes.length ≤ 63
deriving DecidableEq, Repr

namespace Label

/-- The label of some bytes, if there are neither none nor too many. -/
def ofBytes? (bytes : List UInt8) : Option Label :=
  if h : bytes ≠ [] ∧ bytes.length ≤ 63 then some ⟨bytes, h.1, h.2⟩ else none

/-- The bytes the label takes in a message: a length byte and its own. -/
def size (label : Label) : Nat :=
  label.bytes.length + 1

def spelled (label : Label) : List UInt8 :=
  UInt8.ofNat label.bytes.length :: label.bytes

theorem size_pos (label : Label) : 0 < label.size :=
  Nat.succ_pos _

@[simp]
theorem length_spelled (label : Label) : label.spelled.length = label.size := by
  simp [spelled, size]

end Label

/-- The bytes some labels take in a message, without the zero of the root. -/
def labelsSize : List Label → Nat
  | [] => 0
  | label :: rest => label.size + labelsSize rest

/-- The most bytes a name may take in a message. -/
def maxNameSize : Nat := 255

structure Name where
  labels : List Label
  size_le : labelsSize labels + 1 ≤ maxNameSize
deriving DecidableEq, Repr

namespace Name

/-- The name of some labels, if they are not too long together. -/
def ofLabels? (labels : List Label) : Option Name :=
  if h : labelsSize labels + 1 ≤ maxNameSize then some ⟨labels, h⟩ else none

def root : Name :=
  ⟨[], by decide⟩

def isRoot (name : Name) : Bool :=
  name.labels.isEmpty

end Name

@[simp]
theorem labelsSize_cons (label : Label) (rest : List Label) :
    labelsSize (label :: rest) = label.size + labelsSize rest := rfl

end Wire
end SplitHorizon
