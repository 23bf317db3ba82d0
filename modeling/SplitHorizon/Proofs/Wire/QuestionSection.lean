/-
The question section of a received message.

A received message keeps the bytes of its question section, which begins right behind
the header.  If they are the bytes that a question was written as, this question is the
first one of the message: what was written reads back wherever it stands.
-/
import SplitHorizon.Proofs.Wire.RoundTrip

namespace SplitHorizon
namespace Wire

variable {α β : Type}

theorem Reader.bind_eq_some_iff {read : Reader α} {next : α → Reader β} {here there : Cursor}
    {b : β} : (read >>= next) here = some (b, there) ↔
      ∃ a middle, read here = some (a, middle) ∧ next a middle = some (b, there) := by
  show (read here).bind (fun p => next p.1 p.2) = some (b, there) ↔ _
  simp only [Option.bind_eq_some_iff, Prod.exists]

/-! ## How much a reader takes -/

/-- Wherever the reader succeeds, it goes on by so many bytes. -/
def Takes (read : Reader α) (size : Nat) : Prop :=
  ∀ {message : List UInt8} {pos : Nat} {a : α} {here : Cursor},
    read (Cursor.within message pos) = some (a, here) → here = Cursor.within message (pos + size)

theorem Takes.pure (a : α) : Takes (Pure.pure a) 0 := by
  intro message pos b here h
  exact (Prod.mk.inj (Option.some.inj h)).2.symm

theorem Takes.bind {read : Reader α} {next : α → Reader β} {size rest : Nat}
    (hread : Takes read size) (hnext : ∀ a, Takes (next a) rest) :
    Takes (read >>= next) (size + rest) := by
  intro message pos b here h
  obtain ⟨a, middle, hfirst, hsecond⟩ := Reader.bind_eq_some_iff.1 h
  obtain rfl := hread hfirst
  rw [hnext a hsecond, Nat.add_assoc]

theorem takes_byte : Takes Reader.byte 1 := by
  intro message pos b here h
  unfold Reader.byte Cursor.within at h
  split at h
  · cases h
  · next first rest hrest =>
    obtain ⟨-, rfl⟩ := Prod.mk.inj (Option.some.inj h)
    have hdrop : message.drop (pos + 1) = (message.drop pos).tail := List.tail_drop.symm
    rw [Cursor.within, hdrop, show message.drop pos = first :: rest from hrest]
    rfl

theorem takes_word16 : Takes Reader.word16 2 :=
  takes_byte.bind fun _ => takes_byte.bind fun _ => Takes.pure _

theorem takes_header : Takes Header.read Header.size :=
  takes_word16.bind fun _ => takes_byte.bind fun _ => takes_byte.bind fun _ =>
    takes_word16.bind fun _ => takes_word16.bind fun _ => takes_word16.bind fun _ =>
      takes_word16.bind fun _ => Takes.pure _

/-! ## Questions -/

/-- The questions are read from behind the header on, and their bytes are those in
between. -/
theorem questions_of_receive? {bytes : List UInt8} {received : Received}
    (h : receive? bytes = some received) :
    ∃ count here,
      Reader.times (readQuestion bytes) count (Cursor.within bytes Header.size) =
          some (received.message.questions, here) ∧
        received.questionBytes = (bytes.drop Header.size).take (here.pos - Header.size) := by
  obtain ⟨⟨received, stop⟩, hread, rfl⟩ := Option.map_eq_some_iff.1 h
  obtain ⟨⟨header, counts⟩, first, hheader, hrest⟩ := Reader.bind_eq_some_iff.1 hread
  have hfirst : first = Cursor.within bytes Header.size := by
    have htakes : first = Cursor.within bytes (0 + Header.size) := takes_header hheader
    rw [htakes, Nat.zero_add]
  subst hfirst
  obtain ⟨_, _, hposition, hrest⟩ := Reader.bind_eq_some_iff.1 hrest
  obtain ⟨rfl, rfl⟩ := Prod.mk.inj (Option.some.inj hposition)
  obtain ⟨questions, here, hquestions, hrest⟩ := Reader.bind_eq_some_iff.1 hrest
  obtain ⟨_, _, hposition, hrest⟩ := Reader.bind_eq_some_iff.1 hrest
  obtain ⟨rfl, rfl⟩ := Prod.mk.inj (Option.some.inj hposition)
  obtain ⟨answers, _, -, hrest⟩ := Reader.bind_eq_some_iff.1 hrest
  obtain ⟨_, _, -, hrest⟩ := Reader.bind_eq_some_iff.1 hrest
  obtain ⟨high, _, -, hrest⟩ := Reader.bind_eq_some_iff.1 hrest
  obtain ⟨rfl, -⟩ := Prod.mk.inj (Option.some.inj hrest)
  exact ⟨counts.questions, here, hquestions, rfl⟩

/-- A message whose question section is that of a written question asks it first. -/
theorem head?_questions {bytes : List UInt8} {received : Received} {q : Question}
    {written : Written} (hreceive : receive? bytes = some received)
    (hwrite : writeQuestion [] Header.size q = some written)
    (hbytes : received.questionBytes = written.bytes) :
    received.message.questions.head? = some q := by
  obtain ⟨count, here, hread, hsection⟩ := questions_of_receive? hreceive
  have hnonempty : written.bytes ≠ [] := by
    obtain ⟨name, -, rfl, -⟩ := writeQuestion_eq_some hwrite
    simp [word16Bytes]
  rw [hbytes] at hsection
  cases count with
  | zero =>
    obtain ⟨-, rfl⟩ := Prod.mk.inj (Option.some.inj hread)
    have hempty : written.bytes = [] := by
      rw [hsection, Cursor.within, Nat.sub_self, List.take_zero]
    exact absurd hempty hnonempty
  | succ count =>
    have hstands : StandsAt bytes Header.size written.bytes :=
      hsection ▸ List.take_prefix _ _
    have hfirst : Reads bytes (readQuestion bytes) Header.size q
        (Header.size + written.bytes.length) :=
      (readQuestion_writeQuestion (fun _ hmem => absurd hmem List.not_mem_nil) hwrite hstands).1
    obtain ⟨first, middle, hone, hrest⟩ := Reader.bind_eq_some_iff.1 hread
    obtain ⟨others, last, -, hlist⟩ := Reader.bind_eq_some_iff.1 hrest
    obtain ⟨hquestions, -⟩ := Prod.mk.inj (Option.some.inj hlist)
    have hsame : first = q := by
      rw [hfirst] at hone
      exact (Prod.mk.inj (Option.some.inj hone)).1.symm
    rw [← hquestions, hsame]
    rfl

end Wire
end SplitHorizon
