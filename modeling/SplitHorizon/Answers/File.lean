/-
The file that holds the answers document.

A file that is not there configures nothing, so a server can start before it has
answers.  Everything else that keeps the file from being read is a fault.
-/
import SplitHorizon.Answers.Load
import SplitHorizon.Fault
import SplitHorizon.Text.Utf8

namespace SplitHorizon

inductive StoredFile where
  | missing
  /-- Something that cannot be read, such as a directory. -/
  | unreadable (reason : String)
  | content (bytes : List UInt8)
deriving DecidableEq, Repr

namespace StoredFile

def directory : StoredFile :=
  .unreadable "Is a directory (os error 21)"

/-- What stands at a path with a NUL in it, which no file can have. -/
def unnameable : StoredFile :=
  .unreadable "file name contained an unexpected NUL byte"

def notText : String := "stream did not contain valid UTF-8"

/-- The text of the file, none if it is missing, or why it cannot be read. -/
def readText : StoredFile → Except String (Option String)
  | .missing => .ok none
  | .unreadable reason => .error reason
  | .content bytes =>
    match Text.ofUtf8? bytes with
    | some text => .ok (some text)
    | none => .error notText

end StoredFile

namespace Answers

def ofFile (path : String) (file : StoredFile) : Except Fault Answers :=
  match file.readText with
  | .error reason => .error (.unreadableFile path reason)
  | .ok document => (load document).mapError Fault.invalidDocument

end Answers
end SplitHorizon
