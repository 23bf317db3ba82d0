/-
International names.

Such a name has two spellings: one of characters and one of ASCII, in which each
label beyond ASCII is written in Punycode behind `xn--`.  Both come out of the
same processing: characters are mapped, the text is brought into its composed
form and cut at its dots, labels in Punycode are read, and every label is
checked.
-/
import SplitHorizon.Idna.Direction
import SplitHorizon.Idna.Joiner
import SplitHorizon.Idna.Mapping
import SplitHorizon.Idna.Punycode

namespace SplitHorizon
namespace Idna

def acePrefix : List Char := ['x', 'n', '-', '-']

def isAscii (cs : List Char) : Bool :=
  cs.all fun c => c.toNat < 0x80

structure DomainLabel where
  ascii : List Char
  unicode : List Char
deriving DecidableEq, Repr

namespace DomainLabel

/-- The label of some characters, none of them in Punycode. -/
def ofUnicode (cs : List Char) : DomainLabel :=
  { ascii := if isAscii cs then cs else acePrefix ++ Punycode.encode cs, unicode := cs }

end DomainLabel

/-- What every label beyond ASCII has to keep to: no mark in front, and joiners
only where they have a meaning. -/
def isWellFormed (label : List Char) : Bool :=
  isAscii label || (!(label.head?.map isMark = some true) && joinersFit [] label)

/-- The label that a text in Punycode stands for.  It must be the one spelling
of its label: in composed form, of characters that are kept as they are, and not
of ASCII alone.  It may look like Punycode once more. -/
def decodedLabel? (denied : Char → Bool) (cs : List Char) : Option (List Char) :=
  match Punycode.decode? cs with
  | none => none
  | some label =>
    if !isAscii label && label.all (fun c => mapChar c = some [c]) &&
        composed label = label && !label.any denied && !label.contains '.' then some label
    else none

def label? (denied : Char → Bool) (cs : List Char) : Option DomainLabel :=
  if cs.any denied then none
  else if acePrefix.isPrefixOf cs then
    if isAscii cs && cs.getLast? ≠ some '-' then
      (decodedLabel? denied (cs.drop acePrefix.length)).bind fun label =>
        if isWellFormed label then some { ascii := cs, unicode := label } else none
    else none
  else if isWellFormed cs then some (.ofUnicode cs)
  else none

def splitDots : List Char → List (List Char)
  | [] => [[]]
  | '.' :: rest => [] :: splitDots rest
  | c :: rest =>
    match splitDots rest with
    | first :: others => (c :: first) :: others
    | [] => [[c]]

/-- Processes a name.  `denied` tells which characters may not occur although
they can be mapped. -/
def process (denied : Char → Bool) (cs : List Char) : Option (List DomainLabel) := do
  let mapped ← mapChars cs
  let labels ← (splitDots (composed mapped)).mapM (label? denied)
  let rightToLeft := labels.any fun label => label.unicode.any isRightToLeft
  guard (!rightToLeft || labels.all fun label => keepsDirection label.unicode)
  return labels

def joinDots : List (List Char) → List Char
  | [] => []
  | [label] => label
  | label :: rest => label ++ '.' :: joinDots rest

/-- A character that host names do not have: in ASCII, all but letters, digits
and the hyphen. -/
def isDeniedInHosts (c : Char) : Bool :=
  c.toNat < 0x80 &&
    !(('a' ≤ c ∧ c ≤ 'z') ∨ ('A' ≤ c ∧ c ≤ 'Z') ∨ ('0' ≤ c ∧ c ≤ '9') ∨ c = '-')

def toAscii? (cs : List Char) : Option (List Char) :=
  (process isDeniedInHosts cs).map fun labels => joinDots (labels.map DomainLabel.ascii)

/-- The spelling of a name in characters, whatever ASCII characters it has. -/
def toUnicode? (cs : List Char) : Option (List Char) :=
  (process (fun _ => false) cs).map fun labels => joinDots (labels.map DomainLabel.unicode)

end Idna
end SplitHorizon
