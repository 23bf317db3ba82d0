/-
Reading what stands in a message.

`Reads message read pos a stop` says that `read`, started at `pos`, comes out with
`a` at `stop`.  A reader made of smaller ones is followed step by step with
`Reads.bind`, so a proof about it never opens the state that is passed along.
`StandsAt` says which bytes are found at a place; together the two tell that
written numbers read back as themselves.
-/
import Mathlib.Data.Option.Basic
import SplitHorizon.Wire.Cursor

namespace SplitHorizon
namespace Wire

variable {α β : Type} {message : List UInt8} {pos mid stop : Nat}

/-! ## Places in a message -/

/-- The cursor at a place of a message. -/
def Cursor.within (message : List UInt8) (pos : Nat) : Cursor :=
  { pos := pos, rest := message.drop pos }

/-- The bytes are found at a place of the message. -/
def StandsAt (message : List UInt8) (pos : Nat) (bytes : List UInt8) : Prop :=
  bytes <+: message.drop pos

theorem StandsAt.of_eq {bytes : List UInt8} (h : message = bytes) : StandsAt message 0 bytes :=
  h ▸ List.prefix_refl message

theorem standsAt_append {xs ys : List UInt8} :
    StandsAt message pos (xs ++ ys) ↔
      StandsAt message pos xs ∧ StandsAt message (pos + xs.length) ys := by
  unfold StandsAt
  constructor
  · rintro ⟨rest, hrest⟩
    have hfront : message.drop pos = xs ++ (ys ++ rest) := by
      rw [← hrest, List.append_assoc]
    refine ⟨⟨ys ++ rest, hfront.symm⟩, ⟨rest, ?_⟩⟩
    rw [← List.drop_drop, hfront, List.drop_left]
  · rintro ⟨⟨rest, hrest⟩, hys⟩
    rw [← List.drop_drop, ← hrest, List.drop_left] at hys
    rw [← hrest]
    exact (List.prefix_append_right_inj xs).2 hys

theorem StandsAt.left {xs ys : List UInt8} (h : StandsAt message pos (xs ++ ys)) :
    StandsAt message pos xs :=
  (standsAt_append.1 h).1

theorem StandsAt.right {xs ys : List UInt8} (h : StandsAt message pos (xs ++ ys)) :
    StandsAt message (pos + xs.length) ys :=
  (standsAt_append.1 h).2

theorem StandsAt.drop_eq {b : UInt8} {bytes : List UInt8}
    (h : StandsAt message pos (b :: bytes)) : message.drop pos = b :: message.drop (pos + 1) := by
  obtain ⟨rest, hrest⟩ := h
  have htail : message.drop (pos + 1) = bytes ++ rest := by
    rw [← List.drop_drop, ← hrest, List.cons_append, List.drop_one, List.tail_cons]
  rw [htail, ← hrest, List.cons_append]

theorem StandsAt.head {b : UInt8} {bytes : List UInt8} (h : StandsAt message pos (b :: bytes)) :
    StandsAt message pos [b] :=
  have hsplit : StandsAt message pos ([b] ++ bytes) := h
  hsplit.left

theorem StandsAt.tail {b : UInt8} {bytes : List UInt8} (h : StandsAt message pos (b :: bytes)) :
    StandsAt message (pos + 1) bytes :=
  have hsplit : StandsAt message pos ([b] ++ bytes) := h
  hsplit.right

theorem StandsAt.add_length_le {bytes : List UInt8} (h : StandsAt message pos bytes)
    (hne : bytes ≠ []) : pos + bytes.length ≤ message.length := by
  have hlength : bytes.length ≤ message.length - pos := by
    rw [← List.length_drop]
    exact h.length_le
  have hpos : 0 < bytes.length := List.length_pos_iff.2 hne
  omega

/-! ## Readers -/

/-- The reader goes from one place to another and comes out with a value. -/
def Reads (message : List UInt8) (read : Reader α) (pos : Nat) (a : α) (stop : Nat) : Prop :=
  read (Cursor.within message pos) = some (a, Cursor.within message stop)

namespace Reads

variable {read : Reader α} {next : α → Reader β} {a : α} {b : β}

protected theorem pure (a : α) : Reads message (pure a) pos a pos := rfl

protected theorem bind (hread : Reads message read pos a mid)
    (hnext : Reads message (next a) mid b stop) : Reads message (read >>= next) pos b stop := by
  change (read (Cursor.within message pos)).bind (fun p => next p.1 p.2) = _
  rw [show read (Cursor.within message pos) = _ from hread]
  exact hnext

protected theorem guard {p : Prop} [Decidable p] (h : p) :
    Reads message (guard p) pos () pos := by
  rw [guard, if_pos h]
  exact Reads.pure ()

theorem position : Reads message Reader.position pos pos pos := rfl

theorem times_zero : Reads message (Reader.times read 0) pos [] pos := rfl

theorem times_succ {count : Nat} {as : List α} (hfirst : Reads message read pos a mid)
    (hrest : Reads message (Reader.times read count) mid as stop) :
    Reads message (Reader.times read (count + 1)) pos (a :: as) stop :=
  Reads.bind hfirst (Reads.bind hrest (Reads.pure (a :: as)))

/-! ## Numbers -/

theorem byte {b : UInt8} (h : StandsAt message pos [b]) :
    Reads message Reader.byte pos b (pos + 1) := by
  change Reader.byte { pos := pos, rest := message.drop pos } = _
  rw [h.drop_eq]
  rfl

theorem word16 {n : UInt16} (h : StandsAt message pos (word16Bytes n)) :
    Reads message Reader.word16 pos n (pos + 2) := by
  have hvalue : UInt16.ofNat ((UInt8.ofNat (n.toNat / 256)).toNat * 256 +
      (UInt8.ofNat n.toNat).toNat) = n := by
    rw [← UInt16.toNat_inj]
    have hn : n.toNat < 65536 := n.toNat_lt
    simp only [UInt8.toNat_ofNat', UInt16.toNat_ofNat']
    omega
  have hread : Reads message Reader.word16 pos _ (pos + 2) :=
    Reads.bind (Reads.byte (StandsAt.head h)) <|
      Reads.bind (Reads.byte (StandsAt.tail h)) (Reads.pure _)
  rwa [hvalue] at hread

theorem word32 {n : UInt32} (h : StandsAt message pos (word32Bytes n)) :
    Reads message Reader.word32 pos n (pos + 4) := by
  have hvalue : UInt32.ofNat ((UInt16.ofNat (n.toNat / 65536)).toNat * 65536 +
      (UInt16.ofNat n.toNat).toNat) = n := by
    rw [← UInt32.toNat_inj]
    have hn : n.toNat < 4294967296 := n.toNat_lt
    simp only [UInt16.toNat_ofNat', UInt32.toNat_ofNat']
    omega
  have hread : Reads message Reader.word32 pos _ (pos + 4) :=
    Reads.bind (Reads.word16 h.left) (Reads.bind (Reads.word16 h.right) (Reads.pure _))
  rwa [hvalue] at hread

end Reads

@[simp]
theorem length_word16Bytes (n : UInt16) : (word16Bytes n).length = 2 := rfl

end Wire
end SplitHorizon
