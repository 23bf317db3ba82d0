/-
The program.

It reads the files that the command line and the settings name, starts a server
from them, and writes what there is to say.  Its run ends where a server would
open its sockets.
-/
import SplitHorizon.Log.Line
import SplitHorizon.Startup.Basic

namespace SplitHorizon
namespace Program

def refusalReason : IO.Error → String
  | .inappropriateType _ code details | .permissionDenied _ code details
  | .invalidArgument _ code details | .resourceExhausted _ code details
  | .noSuchThing _ code details | .hardwareFault code details
  | .resourceBusy code details | .illegalOperation code details
  | .unsupportedOperation code details | .otherError code details =>
    details ++ " (os error " ++ toString code ++ ")"
  | e => toString e

def readFile (path : String) : IO StoredFile := do
  if path.contains (Char.ofNat 0) then return .unnameable
  match ← (IO.FS.readBinFile path).toBaseIO with
  | .ok bytes => return .content bytes.toList
  | .error (.noFileOrDirectory _ _ _) => return .missing
  | .error e => return .unreadable (refusalReason e)

/-- The files at the paths, and nothing anywhere else. -/
def readFiles (paths : List String) : IO (String → StoredFile) := do
  let files ← paths.mapM fun path => return (path, ← readFile path)
  return fun path => (files.lookup path).getD .missing

/-- The paths that the settings of a command line may be at. -/
def settingsPaths (arguments : CommandLine.Arguments) : List String :=
  match arguments.config with
  | some path => [path]
  | none => Settings.usualPaths

def gather (arguments : CommandLine.Arguments) : IO (String → StoredFile) := do
  let paths := settingsPaths arguments
  let files ← readFiles paths
  match Startup.readSettings files arguments with
  | .ok settings => readFiles (paths ++ [settings.document.path])
  | .error _ => return files

def surroundings (words : List String) : IO Startup.Surroundings := do
  let files ← match CommandLine.read words with
    | .ok (.serve arguments) => gather arguments
    | _ => readFiles []
  return { files := files, logFilter := ← IO.getEnv "RUST_LOG" }

def lines : Startup.Outcome → List String
  | .refused _ => []
  | .told text => [text]
  | .attempted attempt => attempt.log.map fun event => event.line attempt.format ++ "\n"

end Program
end SplitHorizon

open SplitHorizon in
def main (words : List String) : IO UInt32 := do
  let outcome := Startup.run (← Program.surroundings words) words
  (Program.lines outcome).forM fun line => IO.print line
  IO.eprint outcome.complaint
  return outcome.exitCode.toUInt32
