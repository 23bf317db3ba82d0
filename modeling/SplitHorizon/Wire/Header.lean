/-
The header of a message.

Sixteen bits of flags hold, from the top: the response bit, the operation, the
authoritative, truncated, recursion desired and recursion available bits, a
reserved bit, the authentic data and checking disabled bits and the low half of
the response code.  Four counts follow.
-/
import SplitHorizon.Wire.Cursor

namespace SplitHorizon
namespace Wire

/-- The operation of a message, four bits. -/
abbrev Opcode := Fin 16

def Opcode.query : Opcode := 0

/-- A response code: four bits in the header, and eight above them that only an
extension record can carry. -/
abbrev ResponseCode := Fin 4096

namespace ResponseCode

def noError : ResponseCode := 0
def formatError : ResponseCode := 1
def serverFailure : ResponseCode := 2
def nameError : ResponseCode := 3
def notImplemented : ResponseCode := 4
def refused : ResponseCode := 5

/-- The mnemonic of the code, for those that have one here. -/
def text (code : ResponseCode) : String :=
  if code = noError then "NOERROR"
  else if code = nameError then "NXDOMAIN"
  else if code = serverFailure then "SERVFAIL"
  else if code = refused then "REFUSED"
  else if code = notImplemented then "NOTIMP"
  else if code = formatError then "FORMERR"
  else "UNKNOWN"

def low (code : ResponseCode) : Fin 16 :=
  Fin.ofNat 16 code.val

def ofParts (high : UInt8) (low : Fin 16) : ResponseCode :=
  ⟨high.toNat * 16 + low.val, by have := high.toNat_lt; omega⟩

end ResponseCode

structure Header where
  id : UInt16
  isResponse : Bool
  opcode : Opcode
  authoritative : Bool
  truncated : Bool
  recursionDesired : Bool
  recursionAvailable : Bool
  checkingDisabled : Bool
  code : ResponseCode
deriving DecidableEq, Repr

structure Counts where
  questions : Nat
  answers : Nat
  authorities : Nat
  additionals : Nat
deriving DecidableEq, Repr

namespace Header

/-- The flags as two bytes.  The reserved bit and the authentic data bit are
never set. -/
def flagBytes (header : Header) : List UInt8 :=
  let bit (b : Bool) (weight : Nat) : Nat := if b then weight else 0
  [UInt8.ofNat (bit header.isResponse 128 + header.opcode.val * 8 +
      bit header.authoritative 4 + bit header.truncated 2 + bit header.recursionDesired 1),
    UInt8.ofNat (bit header.recursionAvailable 128 + bit header.checkingDisabled 16 +
      header.code.low.val)]

def bytes (header : Header) (counts : Counts) : List UInt8 :=
  word16Bytes header.id ++ header.flagBytes ++
    word16Bytes (UInt16.ofNat counts.questions) ++ word16Bytes (UInt16.ofNat counts.answers) ++
    word16Bytes (UInt16.ofNat counts.authorities) ++
    word16Bytes (UInt16.ofNat counts.additionals)

def size : Nat := 12

def ofFlags (id : UInt16) (high low : UInt8) : Header :=
  { id := id
    isResponse := high.toNat.testBit 7
    opcode := Fin.ofNat 16 (high.toNat / 8)
    authoritative := high.toNat.testBit 2
    truncated := high.toNat.testBit 1
    recursionDesired := high.toNat.testBit 0
    recursionAvailable := low.toNat.testBit 7
    checkingDisabled := low.toNat.testBit 4
    code := ResponseCode.ofParts 0 (Fin.ofNat 16 low.toNat) }

def read : Reader (Header × Counts) := do
  let id ← Reader.word16
  let high ← Reader.byte
  let low ← Reader.byte
  let questions ← Reader.word16
  let answers ← Reader.word16
  let authorities ← Reader.word16
  let additionals ← Reader.word16
  return (ofFlags id high low,
    { questions := questions.toNat, answers := answers.toNat,
      authorities := authorities.toNat, additionals := additionals.toNat })

end Header
end Wire
end SplitHorizon
