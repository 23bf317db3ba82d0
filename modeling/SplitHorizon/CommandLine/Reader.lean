/-
Reading a command line.

A word is an option with two hyphens and a name, an option with one hyphen and a
letter, or a value.  A value stands in the word of its option or is the next
word, and then it must not look like an option.  Words are read from left to
right, and the first one that is wrong, or that asks for a text, ends the
reading.
-/
import SplitHorizon.CommandLine.Basic

namespace SplitHorizon
namespace CommandLine

inductive Word where
  /-- A name, with the value after an equals sign if there is one. -/
  | long (name : String) (value : Option String)
  /-- A letter and what follows it in the word. -/
  | short (letter : Char) (rest : List Char)
  /-- Two hyphens: only values may follow. -/
  | escape
  | plain (text : String)
deriving DecidableEq, Repr

namespace Word

def ofLong (cs : List Char) : Word :=
  let name := String.ofList (cs.takeWhile (· ≠ '='))
  match cs.dropWhile (· ≠ '=') with
  | '=' :: value => .long name (some (String.ofList value))
  | _ => .long name none

def ofText (text : String) : Word :=
  match text.toList with
  | ['-', '-'] => .escape
  | '-' :: '-' :: cs => ofLong cs
  | '-' :: letter :: rest => .short letter rest
  | _ => .plain text

/-- The value in a word with a letter; an equals sign in front of it does not
count. -/
def attached : List Char → Option String
  | [] => none
  | '=' :: value => some (String.ofList value)
  | value => some (String.ofList value)

end Word

/-- What a word means where an option may stand. -/
inductive Meaning where
  | set (option : ValueOption) (value : Option String)
  | ask (inquiry : Inquiry)
  /-- A value for an option that takes none. -/
  | askWith (inquiry : Inquiry) (value : String)
  | escape
  | unknown
  | value
deriving DecidableEq, Repr

/-- An option that asks for a text counts as soon as its letter is read, so what
follows the letter is not looked at. -/
def meaning : Word → Meaning
  | .plain _ => .value
  | .escape => .escape
  | .long name value =>
    match ofLong? name, value with
    | some (.set option), value => .set option value
    | some (.ask inquiry), none => .ask inquiry
    | some (.ask inquiry), some value => .askWith inquiry value
    | none, _ => .unknown
  | .short letter rest =>
    match ofLetter? letter with
    | some (.set option) => .set option (Word.attached rest)
    | some (.ask inquiry) => .ask inquiry
    | none => .unknown

/-- The end of a command line whose words may only be values, of which none is
wanted. -/
def readEscaped (arguments : Arguments) : List String → Except Refusal Request
  | [] => .ok (.serve arguments)
  | text :: _ => .error (.unexpectedArgument text)

def readFrom (arguments : Arguments) : List String → Except Refusal Request
  | [] => .ok (.serve arguments)
  | text :: rest =>
    match meaning (Word.ofText text) with
    | .set option (some value) =>
      match arguments.put option value with
      | .ok arguments => readFrom arguments rest
      | .error refusal => .error refusal
    | .set option none =>
      match rest with
      | [] => .error (.missingValue option)
      | next :: rest =>
        match Word.ofText next with
        | .plain value =>
          match arguments.put option value with
          | .ok arguments => readFrom arguments rest
          | .error refusal => .error refusal
        | _ => .error (.missingValue option)
    | .ask inquiry => .ok (.tell inquiry)
    | .askWith inquiry value => .error (.unexpectedValue inquiry value)
    | .escape => readEscaped arguments rest
    | .unknown => .error (.unknownOption text)
    | .value => .error (.unexpectedArgument text)

def read (words : List String) : Except Refusal Request :=
  readFrom .none words

end CommandLine
end SplitHorizon
