/-
Reading TOML documents.

A document is a list of lines that each give a key a value or open a table.
Brackets and braces may run over several lines, may have comments wherever a line
may end inside them, and may end with a comma.
-/
import SplitHorizon.Toml.Quoted
import SplitHorizon.Toml.Scalar
import SplitHorizon.Toml.Table

namespace SplitHorizon
namespace Toml

/-! ## Between values -/

/-- What follows a comment: the end of its line. -/
def afterComment (cs : List Char) : Option (List Char) :=
  let rest := cs.dropWhile isStringChar
  if rest.isEmpty || (afterLineEnd rest).isSome then some rest else none

/-- Blanks, line ends and comments.  `room` bounds the number of steps. -/
def skipGap : Nat → List Char → Option (List Char)
  | 0, _ => none
  | room + 1, cs =>
    match skipBlanks cs with
    | '#' :: rest => (afterComment rest).bind (skipGap room)
    | cs =>
      match afterLineEnd cs with
      | some rest => skipGap room rest
      | none => some cs

def afterGap (cs : List Char) : Option (List Char) :=
  skipGap (cs.length + 1) cs

def endLine (cs : List Char) : Option (List Char) :=
  match skipBlanks cs with
  | [] => some []
  | '#' :: rest => (afterComment rest).map skipFirstLineEnd
  | cs => afterLineEnd cs

/-! ## Values -/

/-- How deep brackets and braces may nest. -/
def maxDepth : Nat := 80

/-- The sign between a key and its value, and the blanks around it. -/
def afterEquals (cs : List Char) : Option (List Char) :=
  match skipBlanks cs with
  | '=' :: rest => some (skipBlanks rest)
  | _ => none

/-- The sign between a key and its value inside braces, and the gaps around it. -/
def afterEqualsInBraces (cs : List Char) : Option (List Char) :=
  match afterGap cs with
  | some ('=' :: rest) => afterGap rest
  | _ => none

mutual

/-- Reads a value.  `depth` is how deep it may still nest. -/
def readValue (depth : Nat) (cs : List Char) : Option (Toml × List Char) :=
  match cs with
  | '"' :: _ | '\'' :: _ => (readString cs).map fun (s, rest) => (.string s, rest)
  | '[' :: rest =>
    match depth with
    | 0 => none
    | depth + 1 =>
      (readItems depth (rest.length + 1) rest).map fun (items, rest) => (.array items, rest)
  | '{' :: rest =>
    match depth with
    | 0 => none
    | depth + 1 =>
      (readPairs depth (rest.length + 1) (.inline, []) rest).map fun ((_, members), rest) =>
        (.table .inline members, rest)
  | cs => readScalar cs
termination_by (depth, 0)

/-- The items up to the closing bracket.  `room` bounds their number. -/
def readItems (depth room : Nat) (cs : List Char) : Option (List Toml × List Char) :=
  match room with
  | 0 => none
  | room + 1 => do
    match ← afterGap cs with
    | ']' :: rest => return ([], rest)
    | cs =>
      let (item, rest) ← readValue depth cs
      match ← afterGap rest with
      | ',' :: rest =>
        let (items, rest) ← readItems depth room rest
        return (item :: items, rest)
      | ']' :: rest => return ([item], rest)
      | _ => none
termination_by (depth, room)

/-- The pairs up to the closing brace, added to a table.  `room` bounds their
number. -/
def readPairs (depth room : Nat) (built : Building) (cs : List Char) :
    Option (Building × List Char) :=
  match room with
  | 0 => none
  | room + 1 => do
    match ← afterGap cs with
    | '}' :: rest => return (built, rest)
    | cs =>
      let ((path, key), rest) ← readKey cs
      let (value, rest) ← readValue depth (← afterEqualsInBraces rest)
      let built ← addValue path key value built
      match ← afterGap rest with
      | ',' :: rest => readPairs depth room built rest
      | '}' :: rest => return (built, rest)
      | _ => none
termination_by (depth, room)

end

/-! ## Lines -/

structure DocumentState where
  root : Building
  current : List String

def readHeader (closing cs : List Char) : Option ((List String × String) × List Char) := do
  let (key, rest) ← readKey (skipBlanks cs)
  let rest := skipBlanks rest
  if closing.isPrefixOf rest then return (key, rest.drop closing.length) else none

/-- Reads what stands in front: a header, or a key and its value. -/
def readEntry (state : DocumentState) (cs : List Char) : Option (DocumentState × List Char) :=
  match cs with
  | '[' :: '[' :: rest => do
    let ((path, key), rest) ← readHeader [']', ']'] rest
    let root ← openElement path key state.root
    return ({ root := root, current := path ++ [key] }, rest)
  | '[' :: rest => do
    let ((path, key), rest) ← readHeader [']'] rest
    let root ← openTable path key state.root
    return ({ root := root, current := path ++ [key] }, rest)
  | cs => do
    let ((path, key), rest) ← readKey cs
    let (value, rest) ← readValue maxDepth (← afterEquals rest)
    let root ← changeAt .implicit (addValue path key value) state.current state.root
    return ({ state with root := root }, rest)

/-- Reads lines to the end of the text.  `room` bounds their number. -/
def readLines : Nat → DocumentState → List Char → Option DocumentState
  | 0, _, _ => none
  | room + 1, state, cs => do
    match ← afterGap cs with
    | [] => return state
    | cs =>
      let (state, rest) ← readEntry state cs
      readLines room state (← endLine rest)

/-- The mark that may stand in front of a text and says nothing. -/
def byteOrderMark : Char := Char.ofNat 0xFEFF

def parse? (s : String) : Option Members :=
  let cs := match s.toList with
    | c :: rest => if c = byteOrderMark then rest else c :: rest
    | [] => []
  (readLines (cs.length + 1) { root := (.header, []), current := [] } cs).map
    fun state => state.root.2

end Toml
end SplitHorizon
