/-
What can be wrong with settings, and how it is said.
-/

namespace SplitHorizon

/-- Settings that can be read but not used. -/
inductive SettingsDefect where
  | zeroPort
  | blankBindAddress
  | zeroTimeout
  | blankAnswersPath
deriving DecidableEq, Repr

namespace SettingsDefect

def message : SettingsDefect → String
  | .zeroPort => "DNS port cannot be 0"
  | .blankBindAddress => "Bind address cannot be empty"
  | .zeroTimeout => "Upstream timeout must be greater than 0"
  | .blankAnswersPath => "Answers file path cannot be empty"

end SettingsDefect

inductive SettingsFault where
  | unreadableFile (path reason : String)
  | malformed (reason : String)
  | invalid (defect : SettingsDefect)
deriving DecidableEq, Repr

namespace SettingsFault

def message : SettingsFault → String
  | .unreadableFile path reason => "Failed to read config file " ++ path ++ ": " ++ reason
  | .malformed reason => "Failed to parse config: " ++ reason
  | .invalid defect => "Configuration validation error: " ++ defect.message

end SettingsFault
end SplitHorizon
