/-
Settings given on the command line, which win over those of a file.
-/
import SplitHorizon.Settings.Basic

namespace SplitHorizon

structure Overrides where
  dnsPort : Option UInt16
  bindAddress : Option String
  answersPath : Option String
  defaultTtl : Option UInt32
  logLevel : Option String
deriving DecidableEq, Repr

namespace Overrides

def none : Overrides :=
  { dnsPort := .none, bindAddress := .none, answersPath := .none, defaultTtl := .none,
    logLevel := .none }

def apply (overrides : Overrides) (settings : Settings) : Settings :=
  { listen :=
      { settings.listen with
        bindAddress := overrides.bindAddress.getD settings.listen.bindAddress
        dnsPort := overrides.dnsPort.getD settings.listen.dnsPort }
    answers :=
      { settings.answers with
        defaultTtl := overrides.defaultTtl.getD settings.answers.defaultTtl }
    document :=
      { settings.document with
        path := overrides.answersPath.getD settings.document.path }
    log := { settings.log with level := overrides.logLevel.getD settings.log.level } }

end Overrides
end SplitHorizon
