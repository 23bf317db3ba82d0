/-
Adding to tables.

No key is given twice and no table is defined twice.  A table between braces is
complete as it stands, and a table with a header is not added to by dotted keys
from elsewhere, nor the other way round.
-/
import SplitHorizon.Toml.Basic

namespace SplitHorizon
namespace Toml

/-- A table as it is being built: its origin and its members. -/
abbrev Building := TomlOrigin × Members

/-- Follows a path from a table and changes the table at its end.  Tables that
are missing on the way come into being with the origin `fresh`; of several
tables under one name the last is followed. -/
def changeAt (fresh : TomlOrigin) (change : Building → Option Building) :
    List String → Building → Option Building
  | [], here => change here
  | key :: path, (origin, members) =>
    match List.lookup key members with
    | none => do
      let (o, ms) ← changeAt fresh change path (fresh, [])
      return (origin, members.put key (.table o ms))
    | some (.table o ms) =>
      if o = .inline ∨ (fresh = .dotted ∧ o = .header) then none
      else do
        let (o, ms) ← changeAt fresh change path (o, ms)
        return (origin, members.put key (.table o ms))
    | some (.tables elements) =>
      match elements.getLast? with
      | none => none
      | some ms => do
        let (_, ms) ← changeAt fresh change path (.header, ms)
        return (origin, members.put key (.tables (elements.dropLast ++ [ms])))
    | some _ => none

/-- Gives a key of a table a value.  The path must lead to a table of dotted
keys, and a key without a path must not add to one. -/
def addValue (path : List String) (key : String) (value : Toml) (here : Building) :
    Option Building :=
  changeAt .dotted (fun (origin, members) =>
    if (origin = .dotted ↔ path.isEmpty) ∨ (List.lookup key members).isSome then none
    else some (origin, members ++ [(key, value)])) path here

/-- Opens the table of a header, which must not have been defined. -/
def openTable (path : List String) (key : String) (root : Building) : Option Building :=
  changeAt .implicit (fun (origin, members) =>
    match List.lookup key members with
    | none => some (origin, members ++ [(key, .table .header [])])
    | some (.table .implicit ms) => some (origin, members.put key (.table .header ms))
    | some _ => none) path root

def openElement (path : List String) (key : String) (root : Building) : Option Building :=
  changeAt .implicit (fun (origin, members) =>
    match List.lookup key members with
    | none => some (origin, members ++ [(key, .tables [[]])])
    | some (.tables elements) => some (origin, members.put key (.tables (elements ++ [[]])))
    | some _ => none) path root

end Toml
end SplitHorizon
