/-
Directives: which events of which place are wanted.

A directive is a threshold alone, a place, or a place with a threshold after an
equals sign; a place without a threshold wants everything.  Between square
brackets stands the span that the events must be in, and between braces a field
that they must have, perhaps with a pattern for its value.
-/
import SplitHorizon.Log.Event
import SplitHorizon.Log.Pattern
import SplitHorizon.Text.Blank
import SplitHorizon.Text.Utf8

namespace SplitHorizon
namespace Log

structure Directive where
  /-- What the place of an event must start with. -/
  place : Option String
  /-- The fields that an event must have. -/
  fields : List String
  /-- Whether only events in a span are meant. -/
  inSpan : Bool
  threshold : Threshold
deriving DecidableEq, Repr

/-- Why a text is not a directive. -/
inductive DirectiveFault where
  | badForm
  | badThreshold
  | badField
deriving DecidableEq, Repr

namespace DirectiveFault

def message : DirectiveFault → String
  | .badForm => "invalid filter directive"
  | .badThreshold =>
    "error parsing level filter: expected one of \"off\", \"error\", \"warn\", \"info\", " ++
      "\"debug\", \"trace\", or a number 0-5"
  | .badField => "invalid field filter: error building NFA"

end DirectiveFault

namespace Directive

def everything : Threshold := .upTo .trace

def ofThreshold (threshold : Threshold) : Directive :=
  { place := none, fields := [], inSpan := false, threshold := threshold }

/-- The directive that holds where no other is given. -/
def default : Directive := ofThreshold (.upTo .error)

/-- Whether a directive that does not start with a span may start with a character. -/
def startsPlace (c : Char) : Bool :=
  c == '-' || c == ':' || c == '_' || Text.isAlphanumeric c

/-! ## Reading

The blanks around a directive play no part in where its pieces end, yet the pieces
are cut out of the whole text at those positions, which are counted in bytes.  So
blanks in front move every piece and blanks at the end belong to the last one. -/

def cut (text : List UInt8) (start stop : Nat) : Except DirectiveFault String :=
  match Text.between? text start stop with
  | some piece => .ok piece
  | none => .error .badForm

/-- The threshold from a position on; none is everything. -/
def readThreshold (text : List UInt8) (start : Nat) : Except DirectiveFault Threshold := do
  let word ← cut text start text.length
  if word = "" then return everything
  match Threshold.parse? word with
  | some threshold => return threshold
  | none => .error .badThreshold

def readAfterSpan (text : List UInt8) (start : Nat) (cs : List Char) :
    Except DirectiveFault Threshold :=
  match cs with
  | [] => .ok everything
  | '=' :: _ => readThreshold text (start + 1)
  | _ => .error .badForm

/-- The name of a field, and whether it comes with a value for it. -/
def readField (cs : List Char) : Except DirectiveFault (String × Bool) :=
  let name := String.ofList (cs.takeWhile (· ≠ '='))
  match cs.dropWhile (· ≠ '=') with
  | _ :: value =>
    if Pattern.isComparand (value.takeWhile (· ≠ '=')) then .ok (name, true)
    else .error .badField
  | [] => .ok (name, false)

/-- A field between braces, without the opening one, and what follows it.  A field
with a value is one of a span. -/
def readBraces (text : List UInt8) (place : Option String) (named : Bool) (start : Nat)
    (cs : List Char) : Except DirectiveFault Directive := do
  let field := cs.takeWhile (· ≠ '}')
  let stop := start + Text.utf8Length field
  match field, cs.dropWhile (· ≠ '}') with
  | _ :: _, _ :: rest =>
    let (name, hasValue) ← readField (← cut text start stop).toList
    match rest with
    | ']' :: rest =>
      let threshold ← readAfterSpan text (stop + 2) rest
      return { place := place, fields := [name], inSpan := named || hasValue,
               threshold := threshold }
    | _ => .error .badForm
  | _, _ => .error .badForm

/-- A span without its opening bracket, and what follows it. -/
def readSpan (text : List UInt8) (place : Option String) (start : Nat) (cs : List Char) :
    Except DirectiveFault Directive := do
  let isEnd := fun c => c == ']' || c == '{'
  let name := cs.takeWhile (fun c => !isEnd c)
  let stop := start + Text.utf8Length name
  match cs.dropWhile (fun c => !isEnd c) with
  | ']' :: rest =>
    let _ ← cut text start stop
    let threshold ← readAfterSpan text (stop + 1) rest
    return { place := place, fields := [], inSpan := true, threshold := threshold }
  | '{' :: rest =>
    let _ ← cut text start stop
    readBraces text place (!name.isEmpty) (stop + 1) rest
  | _ => .error .badForm

/-- A text that is a threshold, or the place whose events are all wanted. -/
def ofWord (word : String) : Directive :=
  match Threshold.parse? word with
  | some threshold => ofThreshold threshold
  | none => { place := some word, fields := [], inSpan := false, threshold := everything }

def readWord (text : List UInt8) (cs : List Char) : Except DirectiveFault Directive := do
  let isEnd := fun c => c == '=' || c == '['
  let stop := Text.utf8Length (cs.takeWhile (fun c => !isEnd c))
  match cs.dropWhile (fun c => !isEnd c) with
  | '=' :: _ =>
    let place ← cut text 0 stop
    let threshold ← readThreshold text (stop + 1)
    return { place := some place, fields := [], inSpan := false, threshold := threshold }
  | '[' :: rest => readSpan text (some (← cut text 0 stop)) (stop + 1) rest
  | _ => return ofWord (← cut text 0 text.length)

def read (cs : List Char) : Except DirectiveFault Directive :=
  let text := Text.utf8 (String.ofList cs)
  match Text.trimChars cs with
  | [] => .error .badForm
  | '[' :: rest => readSpan text none 1 rest
  | c :: rest => if startsPlace c then readWord text (c :: rest) else .error .badForm

/-! ## Choosing -/

/-- Whether the directive is about an event.  No event of this program happens
in a span. -/
def concerns (directive : Directive) (event : Event) : Bool :=
  !directive.inSpan &&
    (match directive.place with
      | some place => place.toList.isPrefixOf event.place.toList
      | none => true) &&
    directive.fields.all event.hasField

/-- How closely a directive describes its events: by the length of the place,
then by the count of fields.  A directive without a place is the least. -/
def closeness (directive : Directive) : Nat × Nat :=
  (match directive.place with
    | some place => place.length + 1
    | none => 0,
   directive.fields.length)

/-- Whether the first directive describes its events at least as closely as the
second.  Of two with the same place and one field each, the greater name is the
closer one. -/
def isCloser (a b : Directive) : Bool :=
  let (p, m) := a.closeness
  let (q, n) := b.closeness
  q < p || (q == p && (n < m || (n == m && !(a.fields < b.fields))))

end Directive
end Log
end SplitHorizon
