/-
What is logged.

An event has a level, a message, fields, and the place it comes from.  A filter
chooses by all of them, so an event is data until it is written.
-/
import SplitHorizon.Log.Level

namespace SplitHorizon
namespace Log

inductive FieldValue where
  | text (s : String)
  | number (n : Nat)
deriving DecidableEq, Repr

structure Event where
  level : Level
  /-- The place the event comes from, as a filter names it. -/
  place : String
  message : String
  fields : List (String × FieldValue)
deriving DecidableEq, Repr

namespace Event

/-- Whether the event has a field of this name; its message is one. -/
def hasField (event : Event) (name : String) : Bool :=
  name = "message" || event.fields.any fun field => field.1 = name

end Event
end Log
end SplitHorizon
