/-
Names as texts.

A name is printed label by label, each followed by a dot.  Letters, digits, the
hyphen and the underscore print as they are and other bytes behind a backslash;
a label in Punycode prints as the characters it stands for, if it can be read.

A text is read as an international name first: every label takes its ASCII
spelling, in which letters are lowered.  If one label has none, the whole text is
read as ASCII, and then its letters keep their case.

A text may leave out the dot behind its last label.  It then gives a relative name,
which prints without that dot.  Messages have no relative names, so a name that was
written into one prints with the dot when it is read out again.
-/
import SplitHorizon.Idna.Domain
import SplitHorizon.Text.Alphanumeric
import SplitHorizon.Text.Utf8
import SplitHorizon.Wire.Name

namespace SplitHorizon
namespace Wire

/-! ## Printing -/

def isAlphanumeric (c : Char) : Bool :=
  ('a' ≤ c ∧ c ≤ 'z') ∨ ('A' ≤ c ∧ c ≤ 'Z') ∨ ('0' ≤ c ∧ c ≤ '9')

def isPlainByte (isFirst : Bool) (c : Char) : Bool :=
  isAlphanumeric c || c == '_' || (c == '-' && !isFirst) || (c == '*' && isFirst)

def octalDigits (n : Nat) : List Char :=
  [Text.digitChar (n / 64 % 8), Text.digitChar (n / 8 % 8), Text.digitChar (n % 8)]

/-- A byte as it prints: as it is, behind a backslash, or in octal. -/
def byteText (isFirst : Bool) (b : UInt8) : List Char :=
  let c := Char.ofNat b.toNat
  if isPlainByte isFirst c then [c]
  else if 0x20 < b ∧ b < 0x7F then ['\\', c]
  else '\\' :: octalDigits b.toNat

def bytesText : List UInt8 → List Char
  | [] => []
  | b :: rest => byteText true b ++ rest.flatMap (byteText false)

def acePrefixBytes : List UInt8 := [120, 110, 45, 45]

namespace Label

def chars (label : Label) : List Char :=
  let international :=
    if acePrefixBytes.isPrefixOf label.bytes then
      (Text.ofUtf8? label.bytes).bind fun s => Idna.toUnicode? s.toList
    else none
  international.getD (bytesText label.bytes)

end Label

/-- A name as it was written in a text, absolute if the text closes it. -/
structure WrittenName where
  name : Name
  isAbsolute : Bool
deriving DecidableEq, Repr

namespace WrittenName

/-- The text of the name: its labels with dots between them, and one behind them if it
is absolute. -/
def text (written : WrittenName) : String :=
  String.ofList <| List.intercalate ['.'] (written.name.labels.map Label.chars) ++
    if written.isAbsolute then ['.'] else []

end WrittenName

namespace Name

/-- The name as messages carry it. -/
def absolute (name : Name) : WrittenName :=
  { name := name, isAbsolute := true }

/-- The text of the name, with a dot behind every label; the root is one dot. -/
def text (name : Name) : String :=
  name.absolute.text

end Name

/-! ## Reading -/

def isControl (c : Char) : Bool :=
  c.toNat < 0x20 || (0x7F ≤ c.toNat && c.toNat ≤ 0x9F)

def octalValue? (c : Char) : Option Nat :=
  if '0' ≤ c ∧ c ≤ '7' then some (c.toNat - 48) else none

/-- A text cut into labels: those that a dot closes, and the one it ends in, which has
no character if the text is closed itself. -/
structure TextLabels where
  closed : List (List Char)
  last : List Char
deriving DecidableEq, Repr

namespace TextLabels

def all (labels : TextLabels) : List (List Char) :=
  if labels.last.isEmpty then labels.closed else labels.closed ++ [labels.last]

end TextLabels

/-- Cuts a text into labels and resolves what stands behind backslashes: three
octal digits, or one character that is taken literally.  `label` is the one
being read, its last character first.  A backslash sequence that the text ends
in is dropped. -/
def cutLabels : List Char → List Char → Option TextLabels
  | label, [] => some { closed := [], last := label.reverse }
  | label, '\\' :: [] => some { closed := [], last := label.reverse }
  | label, '\\' :: a :: rest =>
    if Text.isNumeric a then
      match octalValue? a, rest with
      | none, _ => none
      | some _, [] => some { closed := [], last := label.reverse }
      | some i, b :: rest =>
        match octalValue? b, rest with
        | none, _ => none
        | some _, [] => some { closed := [], last := label.reverse }
        | some j, c :: rest =>
          match octalValue? c with
          | none => none
          | some k => cutLabels (Char.ofNat (i * 64 + j * 8 + k) :: label) rest
    else cutLabels (a :: label) rest
  | label, c :: rest =>
    if c = '.' then
      if label.isEmpty then none
      else (cutLabels [] rest).map fun labels =>
        { labels with closed := label.reverse :: labels.closed }
    else if isControl c || Text.isBlank c then none
    else cutLabels (c :: label) rest

/-- The labels of a text, the last one with or without a dot behind it. -/
def splitLabels (label cs : List Char) : Option (List (List Char)) :=
  (cutLabels label cs).map TextLabels.all

/-- A character that may stand in a label of an ASCII text. -/
def isLabelChar (isFirst : Bool) (c : Char) : Bool :=
  isAlphanumeric c || c == '_' || c == '.' || (c == '-' && !isFirst) || (c == '*' && isFirst)

/-- The label of ASCII characters, in the case they have. -/
def asciiLabel? : List Char → Option Label
  | [] => none
  | first :: rest =>
    if isLabelChar true first && rest.all (isLabelChar false) then
      Label.ofBytes? ((first :: rest).map fun c => UInt8.ofNat c.toNat)
    else none

/-- The label of characters of any script.  An asterisk alone and names behind
an underscore are not for people, and are kept as they are. -/
def internationalLabel? (cs : List Char) : Option Label :=
  if cs = ['*'] ∨ cs.head? = some '_' then asciiLabel? cs
  else (Idna.toAscii? cs).bind asciiLabel?

namespace Name

/-- The name of label texts, each made a label by `read`. -/
def ofTexts? (read : List Char → Option Label) (texts : List (List Char)) : Option Name :=
  (texts.mapM read).bind ofLabels?

end Name

/-- Reads a name.  One dot is the root, and so is the empty text, which is relative. -/
def WrittenName.parse? (s : String) : Option WrittenName :=
  if s = "." then some Name.root.absolute
  else do
    let labels ← cutLabels [] s.toList
    let name ← Name.ofTexts? internationalLabel? labels.all <|>
      Name.ofTexts? asciiLabel? labels.all
    return { name := name, isAbsolute := labels.last.isEmpty && s ≠ "" }

namespace Name

/-- Reads a name to be put into a message, where a closing dot makes no difference. -/
def parse? (s : String) : Option Name :=
  (WrittenName.parse? s).map WrittenName.name

end Name
end Wire
end SplitHorizon
