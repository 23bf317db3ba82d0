/-
Numerals in texts.

A run of digits is always read as long as it goes; what a reader allows
(how many digits, a zero in front, how large a value) is checked on the whole
run afterwards.
-/

namespace SplitHorizon
namespace Text

/-- The value of a digit below base 36, in either letter case. -/
def digitValue (c : Char) : Option Nat :=
  let n := c.toNat
  if '0' ≤ c ∧ c ≤ '9' then some (n - 48)
  else if 'a' ≤ c ∧ c ≤ 'z' then some (n - 87)
  else if 'A' ≤ c ∧ c ≤ 'Z' then some (n - 55)
  else none

def isDigitOf (base : Nat) (c : Char) : Bool :=
  match digitValue c with
  | some d => d < base
  | none => false

/-- The digit characters, lower case from ten on. -/
def digitChar (d : Nat) : Char :=
  if d < 10 then Char.ofNat (48 + d) else Char.ofNat (87 + d)

/-- The number a run of digits writes, most significant digit first. -/
def numeralValue (base : Nat) (digits : List Char) : Nat :=
  digits.foldl (fun acc c => acc * base + (digitValue c).getD 0) 0

/-- The longest run of digits in front, and what follows it. -/
def spanDigits (base : Nat) (cs : List Char) : List Char × List Char :=
  (cs.takeWhile (isDigitOf base), cs.dropWhile (isDigitOf base))

theorem spanDigits_append (base : Nat) (cs : List Char) :
    (spanDigits base cs).1 ++ (spanDigits base cs).2 = cs := by
  simp [spanDigits]

/-- A number written with any count of digits, at most `max`. -/
def readNumber (base max : Nat) (cs : List Char) : Option (Nat × List Char) :=
  let (digits, rest) := spanDigits base cs
  let value := numeralValue base digits
  if digits = [] ∨ max < value then none else some (value, rest)

/-- The digits of a number, with `room` bounding their count. -/
def digitsUpTo (base : Nat) : Nat → Nat → List Char
  | 0, _ => []
  | room + 1, n =>
    if n < base then [digitChar n]
    else digitsUpTo base room (n / base) ++ [digitChar (n % base)]

/-- A number in decimal without zeros in front. -/
def decimalChars (n : Nat) : List Char :=
  digitsUpTo 10 (n + 1) n

/-- A number in lower-case hexadecimal without zeros in front. -/
def hexChars (n : Nat) : List Char :=
  digitsUpTo 16 (n + 1) n

def decimal (n : Nat) : String :=
  String.ofList (decimalChars n)

/-- A number alone in a text, with an optional `+` in front and at most `max`. -/
def readUnsigned (max : Nat) (s : String) : Option Nat :=
  let cs := match s.toList with
    | '+' :: rest => rest
    | cs => cs
  match readNumber 10 max cs with
  | some (n, []) => some n
  | _ => none

end Text
end SplitHorizon
