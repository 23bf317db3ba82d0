/-
Reading the data of records.

Each kind of record whose form is known must keep to it; the bytes of all other
kinds are passed over.  Only addresses and canonical names are kept, since no
other data ever becomes an answer.
-/
import SplitHorizon.Text.Utf8
import SplitHorizon.Wire.Message
import SplitHorizon.Wire.NameReader

namespace SplitHorizon
namespace Wire

inductive DataForm where
  | address
  | canonical
  /-- So many names between two runs of bytes of fixed lengths. -/
  | names (before count after : Nat)
  /-- Strings with a length byte each, up to the end. -/
  | strings
  /-- Two such strings: a machine and its system. -/
  | host
  /-- A rule that turns one name into another. -/
  | rule
  /-- Who may certify a name: flags, a short tag, and a value. -/
  | authority
  /-- What a parent is to take over: a serial number, flags, and kinds of records. -/
  | kinds
  /-- Where a service is found, and its parameters. -/
  | service
  /-- Options of the header's extension. -/
  | options
  /-- So many bytes or more. -/
  | opaqueBytes (least : Nat)
  /-- Kinds that exist in questions only. -/
  | forbidden
deriving DecidableEq, Repr

def DataForm.ofCode (code : UInt16) : DataForm :=
  match code.toNat with
  | 1 => .address
  | 5 => .canonical
  | 2 | 12 | 65305 => .names 0 1 0
  | 6 => .names 0 2 20
  | 13 => .host
  | 15 => .names 2 1 0
  | 16 => .strings
  | 28 => .names 16 0 0
  | 33 => .names 6 1 0
  | 35 => .rule
  | 37 => .opaqueBytes 6
  | 41 => .options
  | 44 => .opaqueBytes 2
  | 52 | 53 => .opaqueBytes 3
  | 62 => .kinds
  | 64 | 65 => .service
  | 257 => .authority
  | 0 | 251 | 252 | 255 => .forbidden
  | _ => .opaqueBytes 0

def isAlphanumericByte (b : UInt8) : Bool :=
  (48 ≤ b && b ≤ 57) || (65 ≤ b && b ≤ 90) || (97 ≤ b && b ≤ 122)

/-! ## Strings and addresses -/

/-- A string behind its length. -/
def readString : Reader (List UInt8) := do
  let length ← Reader.byte
  Reader.bytes length.toNat

/-- Strings with a length byte each, until `stop` is reached.  At most `count`
of them can fit. -/
def readStrings (stop : Nat) : Nat → Reader Unit
  | 0 => pure ()
  | count + 1 => do
    if (← Reader.position) < stop then
      let _ ← readString
      readStrings stop count

def readAddress : Reader Ipv4 := do
  let a ← Reader.byte
  let b ← Reader.byte
  let c ← Reader.byte
  let d ← Reader.byte
  return ⟨a, b, c, d⟩

/-! ## Rules and authorities -/

/-- Two numbers, flags, a service, an expression, and a name. -/
def readRule (message : List UInt8) : Reader Unit := do
  let _ ← Reader.bytes 4
  let flags ← readString
  guard (flags.all isAlphanumericByte)
  let _ ← readString
  let _ ← readString
  let _ ← readName message

/-- How long the tag of an authority may be. -/
def maxTagLength : Nat := 15

def readAuthority (length : Nat) : Reader Unit := do
  let _ ← Reader.byte
  let tagLength := (← Reader.byte).toNat
  guard (0 < tagLength ∧ tagLength ≤ maxTagLength ∧ tagLength + 2 ≤ length)
  let tag ← Reader.bytes tagLength
  guard (tag.all isAlphanumericByte)
  let _ ← Reader.bytes (length - 2 - tagLength)

/-! ## Kinds of records -/

/-- Where in a list of kinds a byte stands.  The list is made of windows: a number,
a length, and so many blocks, whose bits are the kinds. -/
inductive KindsPlace where
  | number
  | length
  | block (size left : Nat)

/-- How many blocks a window has room for. -/
def maxBlocks : Nat := 32

/-- The kinds can be told: no bit stands in a block for which its window has no
room, and a window with blocks to follow has at least one.  The list may end
anywhere. -/
def kindsFit : KindsPlace → List UInt8 → Bool
  | _, [] => true
  | .number, _ :: rest => kindsFit .length rest
  | .length, b :: rest => kindsFit (.block b.toNat b.toNat) rest
  | .block _ 0, _ :: _ => false
  | .block size (left + 1), b :: rest =>
    (b = 0 || size - (left + 1) < maxBlocks) &&
      kindsFit (if left = 0 then .number else .block size left) rest

def readKinds (length : Nat) : Reader Unit := do
  let _ ← Reader.word32
  let flags ← Reader.word16
  guard (flags &&& 0xFC = 0 ∧ 6 ≤ length)
  let kinds ← Reader.bytes (length - 6)
  guard (kindsFit .number kinds)

/-! ## Services -/

/-- Strings that take up all bytes, each of them a text. -/
def areTexts : Nat → List UInt8 → Bool
  | _, [] => true
  | 0, _ => false
  | room + 1, length :: rest =>
    let string := rest.take length.toNat
    string.length = length.toNat && (Text.ofUtf8? string).isSome &&
      areTexts room (rest.drop length.toNat)

def parameterFits (key : UInt16) (value : List UInt8) : Bool :=
  match key.toNat with
  | 0 => !value.isEmpty && value.length % 2 = 0
  | 1 => !value.isEmpty && areTexts value.length value
  | 2 => value.isEmpty
  | 3 => 2 ≤ value.length
  | 4 => value.length % 4 = 0
  | 6 => value.length % 16 = 0
  | _ => true

/-- Parameters in the order of their keys while there is room for one before
`stop`.  At most `count` of them can fit. -/
def readParameters (stop : Nat) : Nat → Option UInt16 → Reader Unit
  | 0, _ => pure ()
  | count + 1, last => do
    if (← Reader.position) + 4 ≤ stop then
      let key ← Reader.word16
      let length ← Reader.word16
      let value ← Reader.bytes length.toNat
      guard (parameterFits key value)
      guard (last.all (· < key))
      readParameters stop count (some key)

def readService (message : List UInt8) (length : Nat) : Reader Unit := do
  let stop := (← Reader.position) + length
  let _ ← Reader.word16
  let _ ← readName message
  readParameters stop length none

/-! ## Options -/

def optionNetwork : Nat := 8

/-- The network of a client: a family, how many bits of the address count and how
many of them were heeded, and the bytes that hold these bits. -/
def networkFits : List UInt8 → Bool
  | high :: low :: bits :: _ :: address =>
    let width := match high.toNat * 256 + low.toNat with
      | 1 => 4
      | 2 => 16
      | _ => 0
    0 < width && min width ((bits.toNat + 7) / 8) ≤ address.length
  | _ => false

/-- Options that take up all bytes: a code and a length in two bytes each, then so
many bytes of data.  The last one may lack data, or all but its code; no length
exceeds that of all options.  `room` bounds their number. -/
def optionsFit (total : Nat) : Nat → List UInt8 → Bool
  | room + 1, codeHigh :: codeLow :: high :: low :: rest =>
    let length := high.toNat * 256 + low.toNat
    let data := rest.take length
    length ≤ total &&
      (data.length < length ||
        ((codeHigh.toNat * 256 + codeLow.toNat ≠ optionNetwork || networkFits data) &&
          optionsFit total room (rest.drop length)))
  | _, bytes => bytes.length % 2 = 0

def readOptions (length : Nat) : Reader Unit := do
  let options ← Reader.bytes length
  guard (optionsFit length (length + 1) options)

/-! ## Data -/

/-- Reads data of a form, wherever it ends. -/
def readForm (message : List UInt8) (length : Nat) : DataForm → Reader (Option AnswerData)
  | .address => return some (.address (← readAddress))
  | .canonical => return some (.canonical (← readName message))
  | .names before count after => do
    let _ ← Reader.bytes before
    let _ ← Reader.times (readName message) count
    let _ ← Reader.bytes after
    return none
  | .strings => do
    readStrings ((← Reader.position) + length) length
    return none
  | .host => do
    let _ ← Reader.times readString 2
    return none
  | .rule => do
    readRule message
    return none
  | .authority => do
    readAuthority length
    return none
  | .kinds => do
    readKinds length
    return none
  | .service => do
    readService message length
    return none
  | .options => do
    readOptions length
    return none
  | .opaqueBytes least => do
    guard (least ≤ length)
    let _ ← Reader.bytes length
    return none
  | .forbidden => fun _ => none

/-- Reads the data of a record, which must take exactly `length` bytes.  Without
any bytes it says nothing, whatever its kind. -/
def readData (message : List UInt8) (kind : UInt16) (length : Nat) :
    Reader (Option AnswerData) := do
  if length = 0 then return none
  let first ← Reader.position
  let data ← readForm message length (DataForm.ofCode kind)
  guard ((← Reader.position) = first + length)
  return data

end Wire
end SplitHorizon
