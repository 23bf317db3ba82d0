/-
The settings of a server.

Everything has a default, so a server can run without any settings at all.
-/

namespace SplitHorizon

inductive LogFormat where
  | text
  | json
deriving DecidableEq, Repr

namespace LogFormat

def name : LogFormat → String
  | .text => "text"
  | .json => "json"

/-- The format of a name, which has no capitals. -/
def ofName? (s : String) : Option LogFormat :=
  if s = "text" then some .text else if s = "json" then some .json else none

end LogFormat

/-- Where the server listens. -/
structure ListenSettings where
  bindAddress : String
  dnsPort : UInt16
  streamEnabled : Bool
deriving DecidableEq, Repr

structure AnswerSettings where
  defaultTtl : UInt32
  /-- How long to wait for a resolver, in milliseconds. -/
  resolverTimeout : UInt64
deriving DecidableEq, Repr

/-- Where the answers document is. -/
structure DocumentSettings where
  path : String
  reloadOnSignal : Bool
deriving DecidableEq, Repr

structure LogSettings where
  level : String
  format : LogFormat
deriving DecidableEq, Repr

structure Settings where
  listen : ListenSettings
  answers : AnswerSettings
  document : DocumentSettings
  log : LogSettings
deriving DecidableEq, Repr

namespace ListenSettings

def default : ListenSettings :=
  { bindAddress := "0.0.0.0", dnsPort := 53, streamEnabled := true }

end ListenSettings

namespace AnswerSettings

def default : AnswerSettings :=
  { defaultTtl := 600, resolverTimeout := 2000 }

end AnswerSettings

namespace DocumentSettings

def default : DocumentSettings :=
  { path := "answers.json", reloadOnSignal := true }

end DocumentSettings

namespace LogSettings

def default : LogSettings :=
  { level := "info", format := .text }

end LogSettings

namespace Settings

def default : Settings :=
  { listen := .default, answers := .default, document := .default, log := .default }

end Settings
end SplitHorizon
