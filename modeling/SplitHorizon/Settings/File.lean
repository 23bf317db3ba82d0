/-
Files with settings.

A file that was asked for must be there.  Without one, the first of the usual
places that has a file is read, and if none has, the defaults hold.
-/
import SplitHorizon.Answers.File
import SplitHorizon.Settings.Document
import SplitHorizon.Settings.Overrides

namespace SplitHorizon
namespace Settings

/-- The files that are looked for, in this order. -/
def usualPaths : List String :=
  ["answer-dns.toml", "/etc/answer-dns/config.toml"]

/-- Why there is nothing at a path. -/
def noSuchFile : String := "No such file or directory (os error 2)"

def ofFile (path : String) (file : StoredFile) : Except SettingsFault Settings :=
  match file.readText with
  | .error reason => .error (.unreadableFile path reason)
  | .ok none => .error (.unreadableFile path noSuchFile)
  | .ok (some text) => ofText text

/-- The file to read: the one asked for, or the first usual one that exists. -/
def pathToRead (files : String → StoredFile) (asked : Option String) : Option String :=
  match asked with
  | some path => some path
  | none => usualPaths.find? fun path => files path ≠ .missing

/-- The settings of the file to read, with the overrides in place. -/
def load (files : String → StoredFile) (asked : Option String) (overrides : Overrides) :
    Except SettingsFault Settings := do
  let settings ← match pathToRead files asked with
    | some path => ofFile path (files path)
    | none => .ok .default
  return overrides.apply settings

end Settings
end SplitHorizon
