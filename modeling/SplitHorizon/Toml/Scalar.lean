/-
Numbers, truth values, dates and times in TOML.

A scalar is read as a whole: the characters up to the next sign that ends a
value are taken, and they must be one of the forms and nothing else.
-/
import SplitHorizon.Text.Numeral
import SplitHorizon.Toml.Basic

namespace SplitHorizon
namespace Toml

/-! ## Digits -/

/-- Digits with single underscores between some of them; the digits alone. -/
def plainDigits? (base : Nat) : List Char → Option (List Char)
  | [] => none
  | [c] => if Text.isDigitOf base c then some [c] else none
  | c :: '_' :: rest =>
    if Text.isDigitOf base c then (plainDigits? base rest).map (c :: ·) else none
  | c :: rest =>
    if Text.isDigitOf base c then (plainDigits? base rest).map (c :: ·) else none

/-- The sign in front, if any, and what follows it. -/
def splitSign : List Char → Bool × List Char
  | '-' :: rest => (true, rest)
  | '+' :: rest => (false, rest)
  | cs => (false, cs)

/-- Decimal digits without a zero in front. -/
def integerDigits? (cs : List Char) : Option (List Char) :=
  match plainDigits? 10 cs with
  | some ('0' :: _ :: _) => none
  | digits => digits

/-! ## Numbers -/

def magnitude? : List Char → Option Nat
  | '0' :: 'x' :: rest => (plainDigits? 16 rest).map (Text.numeralValue 16)
  | '0' :: 'o' :: rest => (plainDigits? 8 rest).map (Text.numeralValue 8)
  | '0' :: 'b' :: rest => (plainDigits? 2 rest).map (Text.numeralValue 2)
  | cs => (integerDigits? cs).map (Text.numeralValue 10)

/-- The integers that are numbers at all. -/
def integerMin : Int := -0x80000000000000000000000000000000
def integerMax : Int := 0xFFFFFFFFFFFFFFFFFFFFFFFFFFFFFFFF

/-- An integer.  Only decimal ones have a sign. -/
def integer? (cs : List Char) : Option Int :=
  let n := match splitSign cs with
    | (true, digits) => (integerDigits? digits).map fun ds => -(Text.numeralValue 10 ds : Int)
    | (false, digits) =>
      if digits.length = cs.length then (magnitude? cs).map fun n => (n : Int)
      else (integerDigits? digits).map fun ds => (Text.numeralValue 10 ds : Int)
  match n with
  | some n => if integerMin ≤ n ∧ n ≤ integerMax then some n else none
  | none => none

/-- The characters before the first that `p` holds for, and those after it. -/
def cutAt (p : Char → Bool) (cs : List Char) : List Char × Option (List Char) :=
  match cs.dropWhile (fun c => !p c) with
  | [] => (cs, none)
  | _ :: rest => (cs.takeWhile fun c => !p c, some rest)

def exponent? (cs : List Char) : Option Int :=
  let (negative, digits) := splitSign cs
  (plainDigits? 10 digits).map fun ds =>
    let n : Int := Text.numeralValue 10 ds
    if negative then -n else n

/-- Twice the largest number of double precision, less its last bit: from here
on a number is rounded to infinity. -/
def floatLimit : Nat := Nat.pow 2 1024 - Nat.pow 2 970

/-- The number `digits * 10 ^ power` has a value of double precision.  With more
than 400 digits in front of the point it cannot have one, with none it has. -/
def isFinite (digits : List Char) (power : Int) : Bool :=
  let significant := digits.dropWhile (· = '0')
  let places : Int := significant.length + power
  if significant.isEmpty || places ≤ 0 then true
  else if 400 < places then false
  else
    let value := Text.numeralValue 10 significant
    if 0 ≤ power then value * Nat.pow 10 power.toNat < floatLimit
    else value < floatLimit * Nat.pow 10 (-power).toNat

/-- A floating-point number with a fraction, an exponent or both. -/
def isFloat (cs : List Char) : Bool :=
  let (_, cs) := splitSign cs
  if cs = ['i', 'n', 'f'] ∨ cs = ['n', 'a', 'n'] then true
  else
    let (number, power) := cutAt (fun c => c = 'e' || c = 'E') cs
    let (whole, fraction) := cutAt (· = '.') number
    let wholeDigits := integerDigits? whole
    let fractionDigits := match fraction with
      | none => some []
      | some cs => plainDigits? 10 cs
    let exponent := match power with
      | none => some 0
      | some cs => exponent? cs
    match wholeDigits, fractionDigits, exponent with
    | some ds, some fs, some e =>
      (fraction.isSome || power.isSome) && isFinite (ds ++ fs) (e - fs.length)
    | _, _, _ => false

/-! ## Dates and times -/

/-- A number of exactly two digits from `low` to `high`. -/
def isTwoDigits (low high : Nat) (a b : Char) : Bool :=
  let n := Text.numeralValue 10 [a, b]
  Text.isDigitOf 10 a && Text.isDigitOf 10 b && low ≤ n && n ≤ high

def isLeapYear (year : Nat) : Bool :=
  (year % 4 = 0 && year % 100 ≠ 0) || year % 400 = 0

def daysInMonth (year month : Nat) : Nat :=
  if month = 2 then (if isLeapYear year then 29 else 28)
  else if month = 4 ∨ month = 6 ∨ month = 9 ∨ month = 11 then 30
  else 31

/-- What follows a date, if one stands in front. -/
def afterDate : List Char → Option (List Char)
  | a :: b :: c :: d :: '-' :: e :: f :: '-' :: g :: h :: rest =>
    let year := Text.numeralValue 10 [a, b, c, d]
    let month := Text.numeralValue 10 [e, f]
    if [a, b, c, d].all (Text.isDigitOf 10) && isTwoDigits 1 12 e f &&
        isTwoDigits 1 (daysInMonth year month) g h then some rest
    else none
  | _ => none

/-- What follows the fraction of a second, if one stands in front. -/
def afterFraction : List Char → Option (List Char)
  | '.' :: rest =>
    let (digits, rest) := Text.spanDigits 10 rest
    if digits = [] then none else some rest
  | cs => some cs

/-- What follows a time, if one stands in front.  The seconds may be left
out. -/
def afterTime : List Char → Option (List Char)
  | a :: b :: ':' :: c :: d :: rest =>
    if isTwoDigits 0 23 a b && isTwoDigits 0 59 c d then
      match rest with
      | ':' :: e :: f :: rest => if isTwoDigits 0 60 e f then afterFraction rest else none
      | ':' :: _ => none
      | rest => some rest
    else none
  | _ => none

/-- A distance from universal time, or nothing. -/
def isOffset : List Char → Bool
  | [] => true
  | ['Z'] | ['z'] => true
  | [sign, a, b, ':', c, d] =>
    (sign = '+' || sign = '-') && isTwoDigits 0 23 a b && isTwoDigits 0 59 c d
  | _ => false

/-- A date, a time, or both. -/
def isMoment (cs : List Char) : Bool :=
  match afterDate cs with
  | some [] => true
  | some (mark :: rest) =>
    (mark = 'T' || mark = 't' || mark = ' ') && ((afterTime rest).map isOffset).getD false
  | none => afterTime cs = some []

/-! ## Scalars -/

def endsScalar (c : Char) : Bool :=
  c == ' ' || c == '\t' || c == '\n' || c == '\r' || c == ',' || c == ']' || c == '}' || c == '#'

def scalar? (cs : List Char) : Option Toml :=
  if cs = ['t', 'r', 'u', 'e'] then some (.bool true)
  else if cs = ['f', 'a', 'l', 's', 'e'] then some (.bool false)
  else match integer? cs with
    | some n => some (.integer n)
    | none =>
      if isFloat cs then some .float
      else if isMoment cs then some .moment
      else none

/-- The characters of a scalar and what follows them.  One blank may stand
between a date and a time. -/
def scalarChars (cs : List Char) : List Char × List Char :=
  let front := cs.takeWhile fun c => !endsScalar c
  let rest := cs.dropWhile fun c => !endsScalar c
  match afterDate front, rest with
  | some [], ' ' :: c :: more =>
    if Text.isDigitOf 10 c then
      let time := c :: more
      (front ++ ' ' :: time.takeWhile fun c => !endsScalar c,
        time.dropWhile fun c => !endsScalar c)
    else (front, rest)
  | _, _ => (front, rest)

def readScalar (cs : List Char) : Option (Toml × List Char) :=
  let (front, rest) := scalarChars cs
  (scalar? front).map fun value => (value, rest)

end Toml
end SplitHorizon
