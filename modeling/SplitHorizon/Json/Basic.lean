/-
JSON values.

A value keeps what a reader may still object to: a string whose escapes denote
no Unicode text has no text but is a value all the same, and a number keeps the
form it was written in.  So a value that nobody asks for is only checked for
its syntax.
-/
import SplitHorizon.Text.Numeral

namespace SplitHorizon

/-- A number as written: sign, integer digits, fraction digits, and whether an
exponent follows. -/
structure JsonNumber where
  negative : Bool
  digits : List Char
  fraction : List Char
  hasExponent : Bool
deriving DecidableEq, Repr

inductive Json where
  | null
  | bool (b : Bool)
  | number (n : JsonNumber)
  | string (text : Option String)
  | array (items : List Json)
  | object (members : List (Option String × Json))
deriving Repr, Inhabited

namespace JsonNumber

def natural? (n : JsonNumber) : Option Nat :=
  if n.negative = false ∧ n.fraction = [] ∧ n.hasExponent = false then
    some (Text.numeralValue 10 n.digits)
  else none

end JsonNumber

namespace Json

def text? : Json → Option String
  | .string text => text
  | _ => none

def uint32? : Json → Option UInt32
  | .number n =>
    match n.natural? with
    | some value => if value ≤ 0xFFFFFFFF then some (UInt32.ofNat value) else none
    | none => none
  | _ => none

def texts? : Json → Option (List String)
  | .array items => items.mapM text?
  | _ => none

/-- Reads `null` as nothing and any other value by `read`. -/
def nullable {α : Type} (read : Json → Option α) : Json → Option (Option α)
  | .null => some none
  | value => (read value).map some

end Json
end SplitHorizon
