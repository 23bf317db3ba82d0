/-
Filters: directives between commas.

The directive that describes an event most closely decides about it.  Of two
that describe it alike the later one decides, and an event that no directive is
about is not wanted.
-/
import SplitHorizon.Log.Directive

namespace SplitHorizon
namespace Log

structure Filter where
  directives : List Directive
deriving DecidableEq, Repr

namespace Filter

/-- Without directives errors are wanted and nothing else. -/
def ofDirectives (directives : List Directive) : Filter :=
  { directives := if directives = [] then [.default] else directives }

/-- The pieces of a text between commas; empty ones count for nothing. -/
def pieces (text : String) : List (List Char) :=
  (text.toList.splitOn ',').filter (· ≠ [])

/-- The filter of a text in which every directive is sound.  Without directives
it wants nothing. -/
def parse? (text : String) : Option Filter :=
  match (pieces text).mapM Directive.read with
  | .ok directives => some { directives := directives }
  | .error _ => none

/-- A piece of a text that is not a directive. -/
structure Ignored where
  piece : String
  fault : DirectiveFault
deriving DecidableEq, Repr

namespace Ignored

def message (ignored : Ignored) : String :=
  "ignoring `" ++ ignored.piece ++ "`: " ++ ignored.fault.message

end Ignored

def ignoredIn (cs : List Char) : Option Ignored :=
  match Directive.read cs with
  | .ok _ => none
  | .error fault => some { piece := String.ofList cs, fault := fault }

/-- The filter of the sound directives in a text, and the pieces left out.  Where
no directive is sound, errors are wanted. -/
def ofText (text : String) : Filter × List Ignored :=
  (ofDirectives ((pieces text).filterMap fun cs => (Directive.read cs).toOption),
   (pieces text).filterMap ignoredIn)

def deciding? (filter : Filter) (event : Event) : Option Directive :=
  (filter.directives.filter fun directive => directive.concerns event).foldl
    (fun best directive =>
      match best with
      | some chosen => if directive.isCloser chosen then some directive else best
      | none => some directive)
    none

def admits (filter : Filter) (event : Event) : Bool :=
  match filter.deciding? event with
  | some directive => directive.threshold.admits event.level
  | none => false

/-- The filter of the environment if it has a sound one, else the filter of the
configured level. -/
def choose (environment : Option String) (level : String) : Filter × List Ignored :=
  match environment.bind parse? with
  | some filter => (filter, [])
  | none => ofText level

end Filter
end Log
end SplitHorizon
