/-
A seeded source of indices.

The generator adds a fixed odd number to its state and folds a double-width
product into one word.  A word becomes an index by multiplication: the high
half of `word * n` is below `n`.  Low halves below `2^64 mod n` would make some
indices likelier than others and are drawn again.
-/
import SplitHorizon.Shuffle.Source

namespace SplitHorizon

abbrev Seed := UInt64

namespace Seed

def wordSize : Nat := 0x10000000000000000

def step : UInt64 := 0x2d358dccaa6c78a5

/-- What the state is combined with before it is multiplied with itself. -/
def mask : UInt64 := 0x8bb84b93962eacc9

def word (s : Seed) : UInt64 :=
  let product := s.toNat * (s ^^^ mask).toNat
  UInt64.ofNat product ^^^ UInt64.ofNat (product / wordSize)

/-- The index below `n` that a word stands for. -/
def indexOf (n : Nat) (w : UInt64) : Nat :=
  w.toNat * n / wordSize

/-- A word that would favour some indices below `n` over others. -/
def isBiased (n : Nat) (w : UInt64) : Bool :=
  let low := w.toNat * n % wordSize
  low < n && low < (wordSize - n) % n

theorem indexOf_lt {n : Nat} (hn : 0 < n) (w : UInt64) : indexOf n w < n := by
  unfold indexOf
  refine Nat.div_lt_of_lt_mul ?_
  exact Nat.mul_lt_mul_of_pos_right w.toNat_lt hn

/-- Draws until a word favours no index.  The state passes through all its
values before one comes again, so as many tries as there are states are as good
as any number. -/
def nextWord (n : Nat) : Nat → Seed → UInt64 × Seed
  | 0, s => (word (s + step), s + step)
  | tries + 1, s =>
    let s := s + step
    if isBiased n (word s) then nextWord n tries s else (word s, s)

def source : IndexSource Seed :=
  { draw := fun upper s =>
      let (w, s) := nextWord (upper + 1) wordSize s
      (⟨indexOf (upper + 1) w, indexOf_lt (Nat.succ_pos upper) w⟩, s) }

end Seed
end SplitHorizon
