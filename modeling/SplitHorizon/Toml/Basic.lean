/-
TOML values.

Dates, times and floating-point numbers are values whose content nobody asks
for.  A table remembers how it came into being, since that decides what may
still be added to it.
-/

namespace SplitHorizon

inductive TomlOrigin where
  /-- On the way to a table with a header of its own. -/
  | implicit
  /-- On the way to the last part of a dotted key. -/
  | dotted
  /-- By a header. -/
  | header
  /-- Between braces. -/
  | inline
deriving DecidableEq, Repr

inductive Toml where
  | string (s : String)
  | integer (n : Int)
  | float
  | bool (b : Bool)
  | moment
  | array (items : List Toml)
  /-- Tables that each have a header in double brackets. -/
  | tables (elements : List (List (String × Toml)))
  | table (origin : TomlOrigin) (members : List (String × Toml))
deriving Repr, Inhabited

namespace Toml

abbrev Members := List (String × Toml)

/-- The member with a key, put in place of the one that was there. -/
def Members.put (members : Members) (key : String) (value : Toml) : Members :=
  match members with
  | [] => [(key, value)]
  | (k, v) :: rest => if k = key then (key, value) :: rest else (k, v) :: Members.put rest key value

end Toml
end SplitHorizon
