/-
Strings and keys in TOML.

A string stands between double quotes, where a backslash starts an escape, or
between single quotes, where nothing does.  With three quotes on each side it may
run over several lines.
-/
import SplitHorizon.Text.Numeral
import SplitHorizon.Toml.Basic

namespace SplitHorizon
namespace Toml

/-- A character that stands for itself in a string: a tab, or no control
character. -/
def isStringChar (c : Char) : Bool :=
  c == '\t' || (0x20 ≤ c.toNat && c.toNat != 0x7F)

/-! ## Escapes -/

/-- The character of hexadecimal digits, exactly so many. -/
def readHexChar (count : Nat) (cs : List Char) : Option (Char × List Char) :=
  let digits := cs.take count
  let n := Text.numeralValue 16 digits
  if digits.length = count ∧ digits.all (Text.isDigitOf 16) ∧ n.isValidChar then
    some (Char.ofNat n, cs.drop count)
  else none

/-- The character of an escape, whose backslash is read already. -/
def readEscape : List Char → Option (Char × List Char)
  | 'b' :: rest => some (Char.ofNat 8, rest)
  | 't' :: rest => some ('\t', rest)
  | 'n' :: rest => some ('\n', rest)
  | 'f' :: rest => some (Char.ofNat 12, rest)
  | 'r' :: rest => some ('\r', rest)
  | 'e' :: rest => some (Char.ofNat 27, rest)
  | '"' :: rest => some ('"', rest)
  | '\\' :: rest => some ('\\', rest)
  | 'x' :: rest => readHexChar 2 rest
  | 'u' :: rest => readHexChar 4 rest
  | 'U' :: rest => readHexChar 8 rest
  | _ => none

/-! ## Strings on one line -/

/-- What stands up to a double quote.  `room` bounds the number of characters. -/
def readBasic : Nat → List Char → Option (List Char × List Char)
  | 0, _ => none
  | room + 1, cs =>
    match cs with
    | [] => none
    | '"' :: rest => some ([], rest)
    | '\\' :: rest => do
      let (c, rest) ← readEscape rest
      let (cs, rest) ← readBasic room rest
      return (c :: cs, rest)
    | c :: rest =>
      if isStringChar c then do
        let (cs, rest) ← readBasic room rest
        return (c :: cs, rest)
      else none

def readLiteral : List Char → Option (List Char × List Char)
  | [] => none
  | '\'' :: rest => some ([], rest)
  | c :: rest =>
    if isStringChar c then do
      let (cs, rest) ← readLiteral rest
      return (c :: cs, rest)
    else none

/-! ## Strings on several lines -/

/-- What follows a line end, if one stands in front. -/
def afterLineEnd : List Char → Option (List Char)
  | '\n' :: rest => some rest
  | '\r' :: '\n' :: rest => some rest
  | _ => none

/-- A line end right behind the opening quotes is no part of a string. -/
def skipFirstLineEnd (cs : List Char) : List Char :=
  (afterLineEnd cs).getD cs

/-- What follows the quotes in front, of which at most `most` are taken, and how
many were taken. -/
def takeQuotes (quote : Char) (most : Nat) (cs : List Char) : Nat × List Char :=
  let count := min most (cs.takeWhile (· = quote)).length
  (count, cs.drop count)

/-- Quotes inside or at the end of a string: how many belong to it, and whether
it ends.  Three end it, and up to two may stand right before them. -/
def closingQuotes (count : Nat) : Nat × Bool :=
  if count < 3 then (count, false) else (count - 3, true)

def isBlankChar (c : Char) : Bool :=
  c == ' ' || c == '\t'

/-- What follows a backslash at the end of a line: the next character that is
neither blank nor a line end. -/
def afterFoldedLine (cs : List Char) : Option (List Char) :=
  (afterLineEnd (cs.dropWhile isBlankChar)).map skipFolded
where
  skipFolded : List Char → List Char
    | '\r' :: '\n' :: rest => skipFolded rest
    | c :: rest => if isBlankChar c || c == '\n' then skipFolded rest else c :: rest
    | [] => []

/-- What stands up to three double quotes.  `room` bounds the number of steps. -/
def readLongBasic : Nat → List Char → Option (List Char × List Char)
  | 0, _ => none
  | room + 1, cs =>
    match cs with
    | [] => none
    | '"' :: _ =>
      let (count, rest) := takeQuotes '"' 5 cs
      match closingQuotes count with
      | (inside, true) => some (List.replicate inside '"', rest)
      | (inside, false) => do
        let (cs, rest) ← readLongBasic room rest
        return (List.replicate inside '"' ++ cs, rest)
    | '\\' :: rest =>
      match afterFoldedLine rest with
      | some rest => readLongBasic room rest
      | none => do
        let (c, rest) ← readEscape rest
        let (cs, rest) ← readLongBasic room rest
        return (c :: cs, rest)
    | '\r' :: '\n' :: rest => do
      let (cs, rest) ← readLongBasic room rest
      return ('\r' :: '\n' :: cs, rest)
    | c :: rest =>
      if isStringChar c || c == '\n' then do
        let (cs, rest) ← readLongBasic room rest
        return (c :: cs, rest)
      else none

/-- What stands up to three single quotes.  `room` bounds the number of steps. -/
def readLongLiteral : Nat → List Char → Option (List Char × List Char)
  | 0, _ => none
  | room + 1, cs =>
    match cs with
    | [] => none
    | '\'' :: _ =>
      let (count, rest) := takeQuotes '\'' 5 cs
      match closingQuotes count with
      | (inside, true) => some (List.replicate inside '\'', rest)
      | (inside, false) => do
        let (cs, rest) ← readLongLiteral room rest
        return (List.replicate inside '\'' ++ cs, rest)
    | '\r' :: '\n' :: rest => do
      let (cs, rest) ← readLongLiteral room rest
      return ('\r' :: '\n' :: cs, rest)
    | c :: rest =>
      if isStringChar c || c == '\n' then do
        let (cs, rest) ← readLongLiteral room rest
        return (c :: cs, rest)
      else none

/-- Reads a string of any of the four kinds; its first quote stands in front. -/
def readString : List Char → Option (String × List Char)
  | '"' :: '"' :: '"' :: rest =>
    (readLongBasic (rest.length + 1) (skipFirstLineEnd rest)).map text
  | '"' :: rest => (readBasic (rest.length + 1) rest).map text
  | '\'' :: '\'' :: '\'' :: rest =>
    (readLongLiteral (rest.length + 1) (skipFirstLineEnd rest)).map text
  | '\'' :: rest => (readLiteral rest).map text
  | _ => none
where
  text : List Char × List Char → String × List Char
    | (cs, rest) => (String.ofList cs, rest)

/-! ## Keys -/

/-- A character of a key without quotes. -/
def isKeyChar (c : Char) : Bool :=
  ('a' ≤ c ∧ c ≤ 'z') ∨ ('A' ≤ c ∧ c ≤ 'Z') ∨ ('0' ≤ c ∧ c ≤ '9') ∨ c = '-' ∨ c = '_'

def readSimpleKey : List Char → Option (String × List Char)
  | '"' :: rest => (readBasic (rest.length + 1) rest).map fun (cs, rest) => (String.ofList cs, rest)
  | '\'' :: rest => (readLiteral rest).map fun (cs, rest) => (String.ofList cs, rest)
  | cs =>
    let front := cs.takeWhile isKeyChar
    if front.isEmpty then none else some (String.ofList front, cs.dropWhile isKeyChar)

def skipBlanks (cs : List Char) : List Char :=
  cs.dropWhile isBlankChar

/-- The parts of a key, of which there are at most so many: those in front of the
last one, and the last.  Dots stand between parts, with blanks around them or
not. -/
def readKeyUpTo : Nat → List Char → Option ((List String × String) × List Char)
  | 0, _ => none
  | room + 1, cs => do
    let (part, rest) ← readSimpleKey cs
    match skipBlanks rest with
    | '.' :: more =>
      let ((path, last), rest) ← readKeyUpTo room (skipBlanks more)
      return ((part :: path, last), rest)
    | _ => return (([], part), rest)

/-- How many parts a key may have. -/
def maxKeyParts : Nat := 80

def readKey (cs : List Char) : Option ((List String × String) × List Char) :=
  readKeyUpTo maxKeyParts cs

end Toml
end SplitHorizon
