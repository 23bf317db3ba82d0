/-
The options of the command line.

Every option with a value may be given once.  What it sets wins over the
settings of a file, except for the option that names the file.
-/
import SplitHorizon.Settings.Overrides
import SplitHorizon.Text.Numeral

namespace SplitHorizon
namespace CommandLine

inductive ValueOption where
  | config
  | answers
  | bind
  | dnsPort
  | ttl
  | logLevel
deriving DecidableEq, Repr

/-- An option that asks for a text instead of a server. -/
inductive Inquiry where
  | help
  | version
deriving DecidableEq, Repr

inductive Choice where
  | set (option : ValueOption)
  | ask (inquiry : Inquiry)
deriving DecidableEq, Repr

/-- How an option is written: a long name, and a letter if it has one. -/
structure Spelling where
  long : String
  letter : Option Char
  choice : Choice
deriving DecidableEq, Repr

/-- All options, in the order in which the help lists them. -/
def spellings : List Spelling :=
  [{ long := "config", letter := some 'c', choice := .set .config },
   { long := "answers", letter := some 'a', choice := .set .answers },
   { long := "bind", letter := some 'b', choice := .set .bind },
   { long := "dns-port", letter := some 'd', choice := .set .dnsPort },
   { long := "ttl", letter := none, choice := .set .ttl },
   { long := "log-level", letter := none, choice := .set .logLevel },
   { long := "help", letter := some 'h', choice := .ask .help },
   { long := "version", letter := some 'V', choice := .ask .version }]

def ofLong? (name : String) : Option Choice :=
  (spellings.find? fun spelling => spelling.long = name).map Spelling.choice

def ofLetter? (letter : Char) : Option Choice :=
  (spellings.find? fun spelling => spelling.letter = some letter).map Spelling.choice

def ValueOption.long : ValueOption → String
  | .config => "config"
  | .answers => "answers"
  | .bind => "bind"
  | .dnsPort => "dns-port"
  | .ttl => "ttl"
  | .logLevel => "log-level"

structure Arguments where
  config : Option String
  overrides : Overrides
deriving DecidableEq, Repr

inductive Request where
  | serve (arguments : Arguments)
  | tell (inquiry : Inquiry)
deriving DecidableEq, Repr

/-- Why a command line is not understood. -/
inductive Refusal where
  | unknownOption (text : String)
  | unexpectedArgument (text : String)
  | unexpectedValue (inquiry : Inquiry) (value : String)
  | missingValue (option : ValueOption)
  | invalidNumber (option : ValueOption) (value : String)
  | repeated (option : ValueOption)
deriving DecidableEq, Repr

namespace Arguments

def none : Arguments := { config := .none, overrides := .none }

/-- A number up to `max`, with an optional sign; zero is the only number that
may have a minus sign. -/
def readNumber? (max : Nat) (text : String) : Option Nat :=
  match text.toList with
  | '-' :: digits =>
    match Text.readNumber 10 0 digits with
    | some (n, []) => some n
    | _ => .none
  | _ => Text.readUnsigned max text

/-- Sets something that is not set yet. -/
def fresh {α β : Type} (option : ValueOption) (old : Option α) (result : Except Refusal β) :
    Except Refusal β :=
  if old.isSome then .error (.repeated option) else result

def number {β : Type} (option : ValueOption) (max : Nat) (value : String) (use : Nat → β) :
    Except Refusal β :=
  match readNumber? max value with
  | some n => .ok (use n)
  | .none => .error (.invalidNumber option value)

def put (arguments : Arguments) (option : ValueOption) (value : String) :
    Except Refusal Arguments :=
  let overrides := arguments.overrides
  match option with
  | .config => fresh option arguments.config (.ok { arguments with config := some value })
  | .answers =>
    fresh option overrides.answersPath
      (.ok { arguments with overrides := { overrides with answersPath := some value } })
  | .bind =>
    fresh option overrides.bindAddress
      (.ok { arguments with overrides := { overrides with bindAddress := some value } })
  | .dnsPort =>
    fresh option overrides.dnsPort (number option 0xFFFF value fun n =>
      { arguments with overrides := { overrides with dnsPort := some (UInt16.ofNat n) } })
  | .ttl =>
    fresh option overrides.defaultTtl (number option 0xFFFFFFFF value fun n =>
      { arguments with overrides := { overrides with defaultTtl := some (UInt32.ofNat n) } })
  | .logLevel =>
    fresh option overrides.logLevel
      (.ok { arguments with overrides := { overrides with logLevel := some value } })

end Arguments
end CommandLine
end SplitHorizon
