/-
Checking settings before they are used.
-/
import SplitHorizon.Settings.Basic
import SplitHorizon.Settings.Fault
import SplitHorizon.Text.Blank

namespace SplitHorizon
namespace Settings

/-- The first thing that keeps the settings from being used. -/
def defect? (settings : Settings) : Option SettingsDefect :=
  if settings.listen.dnsPort = 0 then some .zeroPort
  else if Text.isAllBlank settings.listen.bindAddress then some .blankBindAddress
  else if settings.answers.resolverTimeout = 0 then some .zeroTimeout
  else if Text.isAllBlank settings.document.path then some .blankAnswersPath
  else none

def validate (settings : Settings) : Except SettingsFault Unit :=
  match settings.defect? with
  | some defect => .error (.invalid defect)
  | none => .ok ()

end Settings
end SplitHorizon
