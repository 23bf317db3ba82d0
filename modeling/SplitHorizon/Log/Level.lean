/-
How much an event matters, and how much of the log is wanted.
-/
import SplitHorizon.Text.Case
import SplitHorizon.Text.Numeral

namespace SplitHorizon
namespace Log

inductive Level where
  | error
  | warn
  | info
  | debug
  | trace
deriving DecidableEq, Repr

namespace Level

/-- One for the events that matter most, and more for those that matter less. -/
def rank : Level → Nat
  | .error => 1
  | .warn => 2
  | .info => 3
  | .debug => 4
  | .trace => 5

def label : Level → String
  | .error => "ERROR"
  | .warn => "WARN"
  | .info => "INFO"
  | .debug => "DEBUG"
  | .trace => "TRACE"

def all : List Level := [.error, .warn, .info, .debug, .trace]

end Level

/-- Where the log ends: at nothing, or at the events of a level. -/
inductive Threshold where
  | off
  | upTo (level : Level)
deriving DecidableEq, Repr

namespace Threshold

def rank : Threshold → Nat
  | .off => 0
  | .upTo level => level.rank

def admits (threshold : Threshold) (level : Level) : Bool :=
  level.rank ≤ threshold.rank

def ofRank? (n : Nat) : Option Threshold :=
  if n = 0 then some .off else (Level.all.find? fun level => level.rank = n).map .upTo

/-- The threshold of a name in any letter case, `off` among them. -/
def ofName? (s : String) : Option Threshold :=
  if Text.sameLetters s "off" then some .off
  else (Level.all.find? fun level => Text.sameLetters s level.label).map .upTo

def parse? (s : String) : Option Threshold :=
  match Text.readUnsigned 5 s with
  | some n => ofRank? n
  | none => ofName? s

end Threshold
end Log
end SplitHorizon
