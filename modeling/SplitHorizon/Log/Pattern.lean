/-
Patterns for the values of fields.

A pattern is a regular expression.  No event is ever compared with one here, so
all that matters is whether a text is a pattern.  Patterns know no properties of
characters beyond ASCII: classes named by a letter, word boundaries and ignored
letter case need the flag `u` to be off, and then nothing may match what is not
ASCII.  A closing brace ends the field, so there are no counts in braces.
-/
import SplitHorizon.Text.Alphanumeric
import SplitHorizon.Text.Blank
import SplitHorizon.Text.Case
import SplitHorizon.Text.Numeral

namespace SplitHorizon
namespace Log
namespace Pattern

/-! ## Flags -/

/-- The flags that decide what a pattern may hold. -/
structure Flags where
  ignoresCase : Bool
  asciiOnly : Bool
  /-- Blanks and comments say nothing. -/
  skipsBlanks : Bool
deriving DecidableEq, Repr

namespace Flags

def usual : Flags := { ignoresCase := false, asciiOnly := false, skipsBlanks := false }

def set (flags : Flags) (letter : Char) (on : Bool) : Flags :=
  match letter with
  | 'i' => { flags with ignoresCase := on }
  | 'u' => { flags with asciiOnly := !on }
  | 'x' => { flags with skipsBlanks := on }
  | _ => flags

def letters : List Char := ['i', 'm', 's', 'U', 'u', 'R', 'x']

/-- Reads flags up to a colon or a closing parenthesis.  None is given twice; those
behind a hyphen, of which there may be one, are off. -/
def read (seen : List Char) (flags : Flags) : List Char → Option (Flags × List Char)
  | [] => none
  | c :: rest =>
    if c = ':' ∨ c = ')' then
      if seen.head? = some '-' then none else some (flags, c :: rest)
    else if seen.contains c then none
    else if c = '-' then read ('-' :: seen) flags rest
    else if letters.contains c then
      read (c :: seen) (flags.set c !(seen.contains '-')) rest
    else none

/-- Whether a character may be matched as it is. -/
def allow (flags : Flags) : Bool :=
  flags.asciiOnly || !flags.ignoresCase

end Flags

/-- Leaves blanks and comments out, if the flags say so.  `room` bounds the number
of steps. -/
def skip (flags : Flags) : Nat → List Char → List Char
  | 0, cs => cs
  | room + 1, cs =>
    if !flags.skipsBlanks then cs
    else match Text.trimFront cs with
    | '#' :: rest => skip flags room (rest.dropWhile (· ≠ '\n'))
    | cs => cs

def next (flags : Flags) (cs : List Char) : List Char :=
  skip flags (cs.length + 1) cs

/-! ## Escapes -/

inductive Escape where
  | literal (code : Nat)
  /-- A byte in two hexadecimal digits. -/
  | byte (value : Nat)
  /-- A class named by a letter, or everything outside it. -/
  | named (outside : Bool)
  /-- A place between characters that depends on what a word is. -/
  | wordEdge
  /-- The start or the end of the text. -/
  | textEdge
deriving DecidableEq, Repr

/-- The number of so many hexadecimal digits. -/
def hexDigits (count : Nat) (cs : List Char) : Option (Nat × List Char) :=
  let digits := cs.take count
  if digits.length = count ∧ digits.all (Text.isDigitOf 16) then
    some (Text.numeralValue 16 digits, cs.drop count)
  else none

def isScalar (n : Nat) : Bool :=
  n < 0xD800 || (0xDFFF < n && n < 0x110000)

def readEscape : List Char → Option (Escape × List Char)
  | [] => none
  | c :: rest =>
    match c with
    | 'x' => (hexDigits 2 rest).map fun (n, rest) => (.byte n, rest)
    | 'u' | 'U' => do
      let (n, rest) ← hexDigits (if c = 'u' then 4 else 8) rest
      if isScalar n then return (.literal n, rest) else none
    | 'd' | 's' | 'w' => some (.named false, rest)
    | 'D' | 'S' | 'W' => some (.named true, rest)
    | 'b' | 'B' | '<' | '>' => some (.wordEdge, rest)
    | 'A' | 'z' => some (.textEdge, rest)
    | 'a' => some (.literal 7, rest)
    | 'f' => some (.literal 12, rest)
    | 't' => some (.literal 9, rest)
    | 'n' => some (.literal 10, rest)
    | 'r' => some (.literal 13, rest)
    | 'v' => some (.literal 11, rest)
    | _ =>
      if c.toNat < 0x80 && !Text.isAlphanumeric c then some (.literal c.toNat, rest) else none

/-- Whether an escape may stand outside brackets. -/
def Escape.fits (flags : Flags) : Escape → Bool
  | .literal _ => flags.allow
  | .byte n => flags.allow && (!flags.asciiOnly || n < 0x80)
  | .named outside => flags.asciiOnly && !outside
  | .wordEdge => flags.asciiOnly
  | .textEdge => true

/-! ## Brackets -/

def classNames : List String :=
  ["alnum", "alpha", "ascii", "blank", "cntrl", "digit", "graph", "lower", "print", "punct",
    "space", "upper", "word", "xdigit"]

/-- A class between colons, without its opening bracket, and whether everything
outside it is meant. -/
def readClassName (cs : List Char) : Option (Bool × List Char) :=
  match cs with
  | ':' :: rest =>
    let outside := rest.head? = some '^'
    let rest := if outside then rest.drop 1 else rest
    let name := rest.takeWhile (· ≠ ':')
    match rest.dropWhile (· ≠ ':') with
    | ':' :: ']' :: rest =>
      if classNames.contains (String.ofList name) then some (outside, rest) else none
    | _ => none
  | _ => none

/-- One item between brackets: the code of a character, if it is one. -/
def readItem (flags : Flags) : List Char → Option (Option Nat × List Char)
  | [] => none
  | '\\' :: rest =>
    match readEscape rest with
    | some (.literal n, rest) | some (.byte n, rest) =>
      if flags.asciiOnly && 0x80 ≤ n then none else some (some n, rest)
    | some (.named outside, rest) =>
      if flags.asciiOnly && !outside then some (none, rest) else none
    | _ => none
  | c :: rest => if flags.asciiOnly && 0x80 ≤ c.toNat then none else some (some c.toNat, rest)

/-- What may stand behind an opening bracket: a circumflex, hyphens, and a closing
bracket that is meant as it is. -/
def readOpening (flags : Flags) (cs : List Char) : Option (List Char) :=
  let outside := (next flags cs).head? = some '^'
  let cs := next flags (if outside then (next flags cs).drop 1 else next flags cs)
  let rest := cs.dropWhile (· = '-')
  let rest := if cs.head? = some ']' then rest.drop 1 else rest
  if outside && flags.asciiOnly then none else some rest

/-- Reads up to the bracket that closes the outermost of `depth` and one more open
ones.  `room` bounds the number of items. -/
def readBrackets (flags : Flags) : Nat → Nat → List Char → Option (List Char)
  | 0, _, _ => none
  | room + 1, depth, cs =>
    match next flags cs with
    | [] => none
    | ']' :: rest =>
      match depth with
      | 0 => some rest
      | depth + 1 => readBrackets flags room depth rest
    | '[' :: rest =>
      match readClassName rest with
      | some (outside, rest) =>
        if outside && flags.asciiOnly then none else readBrackets flags room depth rest
      | none => (readOpening flags rest).bind (readBrackets flags room (depth + 1))
    | '&' :: '&' :: rest | '-' :: '-' :: rest | '~' :: '~' :: rest =>
      readBrackets flags room depth rest
    | cs => do
      let (first, rest) ← readItem flags cs
      match next flags rest with
      | '-' :: rest =>
        let behind := (next flags rest).head?
        if behind = some ']' ∨ behind = some '-' then
          readBrackets flags room depth ('-' :: rest)
        else do
          let (last, rest) ← readItem flags (next flags rest)
          match first, last with
          | some a, some b => if a ≤ b then readBrackets flags room depth rest else none
          | _, _ => none
      | rest => readBrackets flags room depth rest

/-- Reads a class without its opening bracket. -/
def readClass (flags : Flags) (cs : List Char) : Option (List Char) :=
  if flags.allow then
    (readOpening flags cs).bind (readBrackets flags (cs.length + 1) 0)
  else none

/-! ## Patterns -/

structure Progress where
  flags : Flags
  /-- The flags that hold again behind each open parenthesis. -/
  outer : List Flags
  /-- Whether there is something in front that can be repeated. -/
  repeatable : Bool
  /-- The names of groups. -/
  names : List (List Char)

namespace Progress

def start : Progress := { flags := .usual, outer := [], repeatable := false, names := [] }

/-- Behind something that can be repeated. -/
def behindItem (progress : Progress) : Progress := { progress with repeatable := true }

def openGroup (progress : Progress) (flags : Flags) : Progress :=
  { progress with flags := flags, outer := progress.flags :: progress.outer,
                  repeatable := false }

end Progress

def isNameStart (c : Char) : Bool :=
  c == '_' || Text.isLetter c

def isNameChar (c : Char) : Bool :=
  c == '_' || c == '.' || c == '[' || c == ']' || Text.isAlphanumeric c

def readName (progress : Progress) (cs : List Char) : Option (Progress × List Char) :=
  let name := cs.takeWhile isNameChar
  match cs.dropWhile isNameChar with
  | '>' :: rest =>
    if name.head?.map isNameStart = some true && !progress.names.contains name then
      some ({ progress.openGroup progress.flags with names := name :: progress.names }, rest)
    else none
  | _ => none

/-- Reads what stands behind an opening parenthesis: the name of a group, or flags
for a group or for what follows. -/
def readGroup (progress : Progress) (cs : List Char) : Option (Progress × List Char) :=
  match next progress.flags cs with
  | '?' :: 'P' :: '<' :: rest => readName progress rest
  | '?' :: '<' :: rest =>
    if rest.head? = some '=' ∨ rest.head? = some '!' then none else readName progress rest
  | '?' :: rest =>
    match Flags.read [] progress.flags rest with
    | some (flags, ':' :: rest) => some (progress.openGroup flags, rest)
    | some (flags, ')' :: behind) =>
      if rest.head? = some ')' then none
      else some ({ progress with flags := flags, repeatable := false }, behind)
    | _ => none
  | rest => some (progress.openGroup progress.flags, rest)

/-- Whether the rest of a pattern is sound.  `room` bounds the number of steps. -/
def isSound : Nat → Progress → List Char → Bool
  | 0, _, _ => false
  | room + 1, progress, cs =>
    match next progress.flags cs with
    | [] => progress.outer.isEmpty
    | '(' :: rest =>
      match readGroup progress rest with
      | some (progress, rest) => isSound room progress rest
      | none => false
    | ')' :: rest =>
      match progress.outer with
      | flags :: outer =>
        isSound room { progress with flags := flags, outer := outer, repeatable := true } rest
      | [] => false
    | '|' :: rest => isSound room { progress with repeatable := false } rest
    | '[' :: rest =>
      match readClass progress.flags rest with
      | some rest => isSound room progress.behindItem rest
      | none => false
    | '\\' :: rest =>
      match readEscape rest with
      | some (escape, rest) =>
        escape.fits progress.flags && isSound room progress.behindItem rest
      | none => false
    | c :: rest =>
      if c = '?' ∨ c = '*' ∨ c = '+' then
        progress.repeatable &&
          isSound room progress (if rest.head? = some '?' then rest.drop 1 else rest)
      else if c = '{' then false
      else if c = '.' then !progress.flags.asciiOnly && isSound room progress.behindItem rest
      else if c = '^' ∨ c = '$' then isSound room progress.behindItem rest
      else progress.flags.allow && isSound room progress.behindItem rest

def isPattern (cs : List Char) : Bool :=
  isSound (cs.length + 1) .start cs

/-! ## Numbers -/

/-- The power of ten at the end of a number; there need not be one. -/
def isExponent : List Char → Bool
  | [] => true
  | c :: rest =>
    let digits := match rest with
      | '+' :: digits | '-' :: digits => digits
      | digits => digits
    (c == 'e' || c == 'E') && !digits.isEmpty && digits.all Char.isDigit

/-- A number without a sign, with or without a fraction, or a word for one. -/
def isNumber (cs : List Char) : Bool :=
  ["inf", "infinity", "nan"].contains (Text.lower (String.ofList cs)) ||
    let (whole, rest) := Text.spanDigits 10 cs
    let (fraction, rest) := match rest with
      | '.' :: rest => Text.spanDigits 10 rest
      | rest => ([], rest)
    (!whole.isEmpty || !fraction.isEmpty) && isExponent rest

/-- What the value of a field may be compared with: a pattern or a number.  Only
behind a plus sign is a number not a pattern as well. -/
def isComparand (cs : List Char) : Bool :=
  isPattern cs ||
    match cs with
    | '+' :: rest => isNumber rest
    | _ => false

end Pattern
end Log
end SplitHorizon
