/-
From the command line to the moment at which a server would listen.

The settings are read and checked before there is a log, so what is wrong with
them is only said on the way out.  After that the first generation of answers is
loaded, which must succeed, and the address to listen on is read last.
-/
import SplitHorizon.Address.Socket
import SplitHorizon.CommandLine.Reader
import SplitHorizon.Log.Filter
import SplitHorizon.Settings.File
import SplitHorizon.Settings.Listen
import SplitHorizon.Settings.Validation
import SplitHorizon.Startup.Event

namespace SplitHorizon
namespace Startup

structure Surroundings where
  /-- What stands at a path. -/
  files : String → StoredFile
  /-- The filter of the environment. -/
  logFilter : Option String

/-- Why a server does not start. -/
inductive Failure where
  | settings (fault : SettingsFault)
  | answers (fault : Fault)
  | badListenAddress
deriving DecidableEq, Repr

namespace Failure

def message : Failure → String
  | .settings fault => fault.message
  | .answers fault => fault.message
  | .badListenAddress => "invalid socket address syntax"

end Failure

structure Ready where
  settings : Settings
  answers : Answers
  address : SocketAddress
deriving DecidableEq, Repr

/-- The settings of a command line, read and found sound. -/
def readSettings (files : String → StoredFile) (arguments : CommandLine.Arguments) :
    Except Failure Settings := do
  let settings ← (Settings.load files arguments.config arguments.overrides).mapError .settings
  settings.validate.mapError .settings
  return settings

def readingEvents (path : String) (file : StoredFile) : List Event :=
  match file.readText with
  | .error _ => []
  | .ok none => [.answersMissing path, .answersRead path 0]
  | .ok (some text) => [.answersRead path text.utf8ByteSize]

/-- Loads the first generation of answers. -/
def loadAnswers (path : String) (file : StoredFile) : List Event × Except Failure Answers :=
  match Answers.ofFile path file with
  | .ok answers =>
    (readingEvents path file ++ [.answersLoaded path (Server.Session.summaryOf answers)],
     .ok answers)
  | .error fault =>
    (readingEvents path file ++ [.answersRefused path fault], .error (.answers fault))

/-- The server of sound settings, and what is logged on the way to it. -/
def prepare (files : String → StoredFile) (settings : Settings) :
    List Event × Except Failure Ready :=
  let path := settings.document.path
  let (loading, loaded) := loadAnswers path (files path)
  let events := .starting :: .initializing settings :: loading
  match loaded with
  | .error failure => (events, .error failure)
  | .ok answers =>
    match SocketAddress.parse? settings.listen.listenAddress with
    | some address =>
      (events, .ok { settings := settings, answers := answers, address := address })
    | none =>
      (events ++ [.stopped Failure.badListenAddress.message], .error .badListenAddress)

structure Attempt where
  /-- The format of the log, once it is known. -/
  format : LogFormat
  /-- The pieces of the filter that were left out. -/
  ignored : List Log.Filter.Ignored
  /-- The events that the filter admits, in their order. -/
  log : List Log.Event
  result : Except Failure Ready

def attempt (surroundings : Surroundings) (arguments : CommandLine.Arguments) : Attempt :=
  match readSettings surroundings.files arguments with
  | .error failure => { format := .text, ignored := [], log := [], result := .error failure }
  | .ok settings =>
    let (filter, ignored) := Log.Filter.choose surroundings.logFilter settings.log.level
    let (events, result) := prepare surroundings.files settings
    { format := settings.log.format
      ignored := ignored
      log := (events.map Event.entry).filter filter.admits
      result := result }

inductive Outcome where
  | refused (refusal : CommandLine.Refusal)
  | told (text : String)
  | attempted (attempt : Attempt)

/-- Runs the program up to the moment at which it would listen. -/
def run (surroundings : Surroundings) (words : List String) : Outcome :=
  match CommandLine.read words with
  | .error refusal => .refused refusal
  | .ok (.tell inquiry) => .told inquiry.answer
  | .ok (.serve arguments) => .attempted (attempt surroundings arguments)

namespace Outcome

/-- The code the program ends with: a server that is ready has not failed. -/
def exitCode : Outcome → UInt8
  | .refused _ => 2
  | .told _ => 0
  | .attempted attempt =>
    match attempt.result with
    | .ok _ => 0
    | .error _ => 1

def complaint : Outcome → String
  | .refused refusal => "error: " ++ refusal.message ++ "\n\n" ++ CommandLine.usage ++ "\n"
  | .told _ => ""
  | .attempted attempt =>
    String.join (attempt.ignored.map fun ignored => ignored.message ++ "\n") ++
      match attempt.result with
      | .ok _ => ""
      | .error failure => "Error: " ++ failure.message ++ "\n"

end Outcome
end Startup
end SplitHorizon
