/-
What a server logs while it starts.
-/
import SplitHorizon.CommandLine.Text
import SplitHorizon.Fault
import SplitHorizon.Log.Event
import SplitHorizon.Server.Session
import SplitHorizon.Settings.Basic

namespace SplitHorizon
namespace Startup

inductive Event where
  | starting
  | initializing (settings : Settings)
  | answersMissing (path : String)
  /-- The document was read; a missing one has no bytes. -/
  | answersRead (path : String) (size : Nat)
  | answersRefused (path : String) (fault : Fault)
  | answersLoaded (path : String) (summary : Server.Summary)
  | stopped (reason : String)
deriving DecidableEq, Repr

namespace Event

def level : Event → Log.Level
  | .starting | .initializing _ | .answersLoaded _ _ => .info
  | .answersMissing _ => .warn
  | .answersRead _ _ => .debug
  | .answersRefused _ _ | .stopped _ => .error

/-- The part of the program that an event comes from, as filters name it. -/
def place : Event → String
  | .starting | .stopped _ => "answer_dns"
  | .initializing _ => "answer_dns::di::dns"
  | .answersMissing _ | .answersRead _ _ => "answer_dns_infrastructure::answers::file_loader"
  | .answersRefused _ _ | .answersLoaded _ _ =>
    "answer_dns_application::use_cases::answers::reload"

def message : Event → String
  | .starting => "Starting " ++ CommandLine.programName ++ " v" ++ CommandLine.programVersion
  | .initializing _ => "Initializing DNS services"
  | .answersMissing _ => "Answers file not found, serving an empty store"
  | .answersRead _ _ => "Read answers file"
  | .answersRefused _ _ => "Failed to load answers, keeping previous generation"
  | .answersLoaded _ _ => "Answers loaded"
  | .stopped _ => "DNS server error"

def fields : Event → List (String × Log.FieldValue)
  | .starting => []
  | .initializing settings =>
    [("answers", .text settings.document.path),
     ("default_ttl", .number settings.answers.defaultTtl.toNat),
     ("upstream_timeout_ms", .number settings.answers.resolverTimeout.toNat)]
  | .answersMissing path => [("path", .text path)]
  | .answersRead path size => [("path", .text path), ("bytes", .number size)]
  | .answersRefused path fault => [("source", .text path), ("error", .text fault.message)]
  | .answersLoaded path summary =>
    [("source", .text path), ("clients", .number summary.clients),
     ("records", .number summary.records)]
  | .stopped reason => [("error", .text reason)]

def entry (event : Event) : Log.Event :=
  { level := event.level, place := event.place, message := event.message,
    fields := event.fields }

end Event
end Startup
end SplitHorizon
