/-
Reading a message from front to back.

A cursor keeps the bytes that are left together with the position reached, since
positions are what compressed names refer to.  Numbers stand in network order.
-/

namespace SplitHorizon
namespace Wire

structure Cursor where
  pos : Nat
  rest : List UInt8
deriving DecidableEq, Repr

/-- Something that reads from a cursor, or fails. -/
def Reader (α : Type) := Cursor → Option (α × Cursor)

namespace Cursor

def start (message : List UInt8) : Cursor :=
  { pos := 0, rest := message }

end Cursor

namespace Reader

instance : Monad Reader where
  pure a := fun here => some (a, here)
  bind read next := fun here => (read here).bind fun (a, here) => next a here

instance : Alternative Reader where
  failure := fun _ => none
  orElse read other := fun here => (read here) <|> other () here

def byte : Reader UInt8 := fun here =>
  match here.rest with
  | [] => none
  | b :: rest => some (b, { pos := here.pos + 1, rest := rest })

/-- Exactly so many bytes. -/
def bytes (count : Nat) : Reader (List UInt8) := fun here =>
  let front := here.rest.take count
  if front.length = count then
    some (front, { pos := here.pos + count, rest := here.rest.drop count })
  else none

def word16 : Reader UInt16 := do
  let high ← byte
  let low ← byte
  return UInt16.ofNat (high.toNat * 256 + low.toNat)

def word32 : Reader UInt32 := do
  let high ← word16
  let low ← word16
  return UInt32.ofNat (high.toNat * 65536 + low.toNat)

def position : Reader Nat := fun here => some (here.pos, here)

/-- The same thing read so many times. -/
def times {α : Type} (read : Reader α) : Nat → Reader (List α)
  | 0 => pure []
  | count + 1 => do
    let first ← read
    let rest ← times read count
    return first :: rest

end Reader

/-- A number of sixteen bits in network order. -/
def word16Bytes (n : UInt16) : List UInt8 :=
  [UInt8.ofNat (n.toNat / 256), UInt8.ofNat n.toNat]

/-- A number of thirty-two bits in network order. -/
def word32Bytes (n : UInt32) : List UInt8 :=
  word16Bytes (UInt16.ofNat (n.toNat / 65536)) ++ word16Bytes (UInt16.ofNat n.toNat)

end Wire
end SplitHorizon
