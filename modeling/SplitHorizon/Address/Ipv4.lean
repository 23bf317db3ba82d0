/-
IPv4 addresses and their dotted text.

The reader accepts exactly what the printer writes: four numbers below 256
without zeros in front, joined by dots.
-/
import SplitHorizon.Text.Numeral

namespace SplitHorizon

/-- An IPv4 address, most significant byte first. -/
structure Ipv4 where
  b0 : UInt8
  b1 : UInt8
  b2 : UInt8
  b3 : UInt8
deriving DecidableEq, Repr, Inhabited

namespace Ipv4

def bytes (ip : Ipv4) : List UInt8 :=
  [ip.b0, ip.b1, ip.b2, ip.b3]

/-- The address of four bytes, and of no other count. -/
def ofBytes? : List UInt8 → Option Ipv4
  | [a, b, c, d] => some { b0 := a, b1 := b, b2 := c, b3 := d }
  | _ => none

/-- One number of the dotted text: at most three digits, below 256, and a zero
in front only if it is the whole number. -/
def readByte (cs : List Char) : Option (UInt8 × List Char) :=
  let (digits, rest) := Text.spanDigits 10 cs
  let value := Text.numeralValue 10 digits
  if digits = [] ∨ 3 < digits.length ∨ 255 < value ∨
      (digits.head? = some '0' ∧ 1 < digits.length) then none
  else some (UInt8.ofNat value, rest)

def readDotByte : List Char → Option (UInt8 × List Char)
  | '.' :: rest => readByte rest
  | _ => none

/-- A dotted address in front of a text, and what follows it. -/
def read? (cs : List Char) : Option (Ipv4 × List Char) := do
  let (a, cs) ← readByte cs
  let (b, cs) ← readDotByte cs
  let (c, cs) ← readDotByte cs
  let (d, cs) ← readDotByte cs
  return ({ b0 := a, b1 := b, b2 := c, b3 := d }, cs)

/-- A text that is a dotted address and nothing more. -/
def parse? (s : String) : Option Ipv4 :=
  match read? s.toList with
  | some (ip, []) => some ip
  | _ => none

def byteChars (b : UInt8) : List Char :=
  Text.decimalChars b.toNat

def chars (ip : Ipv4) : List Char :=
  byteChars ip.b0 ++ '.' :: (byteChars ip.b1 ++ '.' :: (byteChars ip.b2 ++
    '.' :: byteChars ip.b3))

def text (ip : Ipv4) : String :=
  String.ofList ip.chars

end Ipv4
end SplitHorizon
