/-
Punycode: a label of any characters as letters, digits and hyphens.

The ASCII characters of the label come first, then a hyphen if there are any,
then numbers that say in turn where the next larger character goes.  Each number
is written in a base that shrinks digit by digit, and the thresholds of the
digits follow the size of the numbers before.
-/
import SplitHorizon.Text.Numeral

namespace SplitHorizon
namespace Idna
namespace Punycode

def base : Nat := 36
def thresholdMin : Nat := 1
def thresholdMax : Nat := 26
def skew : Nat := 38
def damp : Nat := 700
def initialBias : Nat := 72

/-- The first code point that is not ASCII. -/
def initialCode : Nat := 128

def delimiter : Char := '-'

/-- The threshold of the digit at position `k`, which counts by the base. -/
def threshold (k bias : Nat) : Nat :=
  if k ≤ bias then thresholdMin else min thresholdMax (max thresholdMin (k - bias))

theorem threshold_pos (k bias : Nat) : 0 < threshold k bias := by
  simp only [threshold, thresholdMin, thresholdMax]
  split <;> omega

theorem threshold_le (k bias : Nat) : threshold k bias ≤ thresholdMax := by
  simp only [threshold, thresholdMin, thresholdMax]
  split <;> omega

/-- Divides until little is left, counting by the base. -/
def scaleDown (delta k : Nat) : Nat :=
  if (base - thresholdMin) * thresholdMax / 2 < delta then
    scaleDown (delta / (base - thresholdMin)) (k + base)
  else k + (base - thresholdMin + 1) * delta / (delta + skew)
termination_by delta
decreasing_by
  simp only [base, thresholdMin, thresholdMax] at *
  omega

/-- The bias after a number, for a text of `count` characters. -/
def adapt (delta count : Nat) (isFirst : Bool) : Nat :=
  let delta := if isFirst then delta / damp else delta / 2
  scaleDown (delta + delta / count) 0

/-! ## Reading -/

/-- Reads one number: `value` so far, `weight` of the next digit, `k` its
position.  A digit below its threshold is the last. -/
def readInteger (bias : Nat) : Nat → Nat → Nat → List Char → Option (Nat × List Char)
  | _, _, _, [] => none
  | value, weight, k, c :: rest =>
    -- Letters count from zero here and the digits follow them.
    match (Text.digitValue c).map (fun d => if d < 10 then d + 26 else d - 10) with
    | none => none
    | some digit =>
      let value := value + digit * weight
      let t := threshold k bias
      if digit < t then some (value, rest)
      else readInteger bias value (weight * (base - t)) (k + base) rest

theorem length_of_readInteger {bias value weight k : Nat} {cs : List Char} {r : Nat × List Char}
    (h : readInteger bias value weight k cs = some r) : r.2.length < cs.length := by
  induction cs generalizing value weight k with
  | nil => simp [readInteger] at h
  | cons c rest ih =>
    simp only [readInteger] at h
    split at h
    · simp at h
    · split at h
      · obtain rfl := Option.some.inj h
        simp
      · have := ih h
        simp only [List.length_cons]
        omega

def insertAt {α : Type} (xs : List α) (i : Nat) (x : α) : List α :=
  xs.take i ++ x :: xs.drop i

/-- The character of a code point, if it is one. -/
def charOf? (n : Nat) : Option Char :=
  if n.isValidChar then some (Char.ofNat n) else none

/-- Reads the numbers and puts in the characters they stand for.  `next` and
`pos` are the code point and the position reached. -/
def insertions (out : List Char) (next pos bias : Nat) (isFirst : Bool) (cs : List Char) :
    Option (List Char) :=
  if cs = [] then some out
  else
    match _h : readInteger bias pos 1 base cs with
    | none => none
    | some (value, rest) =>
      let count := out.length + 1
      let bias := adapt (value - pos) count isFirst
      let next := next + value / count
      let pos := value % count
      match charOf? next with
      | none => none
      | some c => insertions (insertAt out pos c) next (pos + 1) bias false rest
termination_by cs.length
decreasing_by exact length_of_readInteger _h

/-- The text before the last delimiter and the one after it.  A delimiter at the
very front is none. -/
def splitAtDelimiter (cs : List Char) : List Char × List Char :=
  let back := cs.reverse.takeWhile (· ≠ delimiter)
  let front := cs.take (cs.length - back.length)
  if 1 < front.length then (front.dropLast, back.reverse) else ([], cs)

def decode? (cs : List Char) : Option (List Char) :=
  let (front, numbers) := splitAtDelimiter cs
  if front.all (fun c => c.toNat < initialCode) then
    insertions front initialCode 0 initialBias true numbers
  else none

/-! ## Writing -/

def digitOf (d : Nat) : Char :=
  if d < 26 then Char.ofNat (97 + d) else Char.ofNat (22 + d)

/-- Writes one number from the digit at position `k` on. -/
def writeInteger (bias k q : Nat) : List Char :=
  let t := threshold k bias
  if q < t then [digitOf q]
  else digitOf (t + (q - t) % (base - t)) :: writeInteger bias (k + base) ((q - t) / (base - t))
termination_by q
decreasing_by
  have h₁ := threshold_pos k bias
  have h₂ := threshold_le k bias
  simp only [thresholdMax] at h₂
  have h₃ : (q - t) / (base - t) ≤ q - t := Nat.div_le_self _ _
  simp only [t] at *
  omega

/-- What the writer goes on with: the distance counted since the last number,
the bias, and how many characters are placed. -/
structure Progress where
  delta : Nat
  bias : Nat
  placed : Nat
  written : List Char
deriving Repr

/-- Passes one character on the way to those with code point `code`. -/
def pass (code basicCount : Nat) (p : Progress) (c : Char) : Progress :=
  if c.toNat < code then { p with delta := p.delta + 1 }
  else if c.toNat = code then
    { delta := 0
      bias := adapt p.delta (p.placed + 1) (p.placed = basicCount)
      placed := p.placed + 1
      written := p.written ++ writeInteger p.bias base p.delta }
  else p

/-- Places the characters of each code point in turn, in ascending order. -/
def placeCodes (cs : List Char) (basicCount : Nat) : Nat → List Nat → Progress → Progress
  | _, [], p => p
  | next, code :: rest, p =>
    let p := { p with delta := p.delta + (code - next) * (p.placed + 1) }
    let p := cs.foldl (pass code basicCount) p
    placeCodes cs basicCount (code + 1) rest { p with delta := p.delta + 1 }

/-- The code points beyond ASCII, in ascending order and each once. -/
def codesOf (cs : List Char) : List Nat :=
  ((cs.map Char.toNat).filter (initialCode ≤ ·)).mergeSort.eraseDups

def encode (cs : List Char) : List Char :=
  let basic := cs.filter fun c => c.toNat < initialCode
  let start := { delta := 0, bias := initialBias, placed := basic.length, written := [] }
  let p := placeCodes cs basic.length initialCode (codesOf cs) start
  (if basic.isEmpty then [] else basic ++ [delimiter]) ++ p.written

end Punycode
end Idna
end SplitHorizon
