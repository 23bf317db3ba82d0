/-
The texts of the command line.
-/
import SplitHorizon.CommandLine.Basic

namespace SplitHorizon
namespace CommandLine

def programName : String := "answer-dns"

def programVersion : String := "0.3.0"

def ValueOption.placeholder : ValueOption → String
  | .config | .answers => "<FILE>"
  | .bind => "<BIND>"
  | .dnsPort => "<DNS_PORT>"
  | .ttl => "<TTL>"
  | .logLevel => "<LOG_LEVEL>"

/-- An option with its value, as messages name it. -/
def ValueOption.text (option : ValueOption) : String :=
  "--" ++ option.long ++ " " ++ option.placeholder

def Inquiry.text : Inquiry → String
  | .help => "--help"
  | .version => "--version"

def Choice.text : Choice → String
  | .set option => option.text
  | .ask inquiry => inquiry.text

def Choice.about : Choice → String
  | .set .config => "Configuration file path"
  | .set .answers => "Answers document path"
  | .set .bind => "Bind address"
  | .set .dnsPort => "DNS server port"
  | .set .ttl => "TTL for records that do not set one"
  | .set .logLevel => "Log level (trace, debug, info, warn, error)"
  | .ask .help => "Print help"
  | .ask .version => "Print version"

def Spelling.text (spelling : Spelling) : String :=
  (match spelling.letter with
    | some letter => "-" ++ String.singleton letter ++ ", "
    | none => "    ") ++ spelling.choice.text

def columnWidth : Nat :=
  (spellings.map fun spelling => spelling.text.length).foldl max 0

def Spelling.helpLine (spelling : Spelling) : String :=
  let blanks := columnWidth - spelling.text.length + 2
  "  " ++ spelling.text ++ String.ofList (List.replicate blanks ' ') ++ spelling.choice.about

def usage : String := "Usage: " ++ programName ++ " [OPTIONS]"

def Inquiry.answer : Inquiry → String
  | .version => programName ++ " " ++ programVersion ++ "\n"
  | .help =>
    "Per-client authoritative DNS answers with upstream delegation\n\n" ++ usage ++
      "\n\nOptions:\n" ++
      String.join (spellings.map fun spelling => spelling.helpLine ++ "\n")

def Refusal.message : Refusal → String
  | .unknownOption text => "unexpected argument '" ++ text ++ "' found"
  | .unexpectedArgument text => "unexpected argument '" ++ text ++ "' found"
  | .unexpectedValue inquiry value =>
    "unexpected value '" ++ value ++ "' for '" ++ inquiry.text ++
      "' found; no more were expected"
  | .missingValue option =>
    "a value is required for '" ++ option.text ++ "' but none was supplied"
  | .invalidNumber option value => "invalid value '" ++ value ++ "' for '" ++ option.text ++ "'"
  | .repeated option => "the argument '" ++ option.text ++ "' cannot be used multiple times"

end CommandLine
end SplitHorizon
