/-
Streams of framed messages.

A message that fits into a frame is put on a stream behind its length, and whoever takes it
off again finds behind it what stood there before.  So a stream reads as the messages that
were put on it, and any other stream as the longest row of frames it starts with.

The theorem this file exists for is `framing_exact`.  `Cut` says of what is left that it is no
frame, and which part of one is missing.
-/
import SplitHorizon.Proofs.Wire.Reading
import SplitHorizon.Wire.Frame

namespace SplitHorizon
namespace Wire

variable {message stream rest : List UInt8} {messages : List (List UInt8)} {fault : MessageFault}

/-! ## Putting messages on a stream -/

/-- A message behind its length. -/
def framed (message : List UInt8) : List UInt8 :=
  word16Bytes (UInt16.ofNat message.length) ++ message

theorem frame_of_fits (h : message.length ≤ maxFrame) : frame message = .ok (framed message) := by
  rw [frame, if_pos h]
  rfl

theorem appendFrame_of_fits (h : message.length ≤ maxFrame) :
    appendFrame stream message = (stream ++ framed message, none) := by
  rw [appendFrame, frame_of_fits h]

/-- A message that is too long is refused, and the stream stays as it is. -/
theorem appendFrame_of_tooLong (h : maxFrame < message.length) :
    appendFrame stream message = (stream, some (.tooLarge message.length)) := by
  rw [appendFrame, frame, if_neg (Nat.not_le.2 h)]

/-- Puts messages on a stream one after another.  Besides the stream there are the faults of
the messages that were refused. -/
def appendFrames : List UInt8 → List (List UInt8) → List UInt8 × List MessageFault
  | stream, [] => (stream, [])
  | stream, message :: rest =>
    let (longer, fault) := appendFrame stream message
    let (whole, faults) := appendFrames longer rest
    (whole, fault.toList ++ faults)

theorem appendFrames_of_fits (h : ∀ message ∈ messages, message.length ≤ maxFrame) :
    appendFrames stream messages = (stream ++ messages.flatMap framed, []) := by
  induction messages generalizing stream with
  | nil => rw [List.flatMap_nil, List.append_nil, appendFrames]
  | cons message later ih =>
    obtain ⟨hfits, hlater⟩ := List.forall_mem_cons.1 h
    rw [appendFrames, appendFrame_of_fits hfits]
    simp only [ih hlater, List.flatMap_cons, List.append_assoc, Option.toList_none,
      List.nil_append]

/-! ## Taking one message off -/

/-- No frame starts the stream: there is not even a length, or less stands behind the length
than it announces. -/
inductive Cut : List UInt8 → MessageFault → Prop
  | length {stream : List UInt8} (h : stream.length ≤ 1) : Cut stream .lengthCut
  | body {high low : UInt8} {body : List UInt8}
    (h : body.length < high.toNat * 256 + low.toNat) : Cut (high :: low :: body) .bodyCut

/-- The two bytes of a length say the length. -/
theorem length_of_word16Bytes {n : Nat} (h : n ≤ maxFrame) :
    (UInt8.ofNat ((UInt16.ofNat n).toNat / 256)).toNat * 256 +
      (UInt8.ofNat (UInt16.ofNat n).toNat).toNat = n := by
  have hn : n ≤ 65535 := h
  simp only [UInt8.toNat_ofNat', UInt16.toNat_ofNat']
  omega

theorem word16Bytes_of_bytes (high low : UInt8) :
    word16Bytes (UInt16.ofNat (high.toNat * 256 + low.toNat)) = [high, low] := by
  have hhigh := high.toNat_lt
  have hlow := low.toNat_lt
  have hfirst : UInt8.ofNat ((UInt16.ofNat (high.toNat * 256 + low.toNat)).toNat / 256) = high := by
    rw [← UInt8.toNat_inj]
    simp only [UInt8.toNat_ofNat', UInt16.toNat_ofNat']
    omega
  have hsecond : UInt8.ofNat (UInt16.ofNat (high.toNat * 256 + low.toNat)).toNat = low := by
    rw [← UInt8.toNat_inj]
    simp only [UInt8.toNat_ofNat', UInt16.toNat_ofNat']
    omega
  rw [word16Bytes, hfirst, hsecond]

theorem unframe_framed (h : message.length ≤ maxFrame) (rest : List UInt8) :
    unframe (framed message ++ rest) = .ok (message, rest) := by
  have hfront : (message ++ rest).take message.length = message := List.take_left
  have hback : (message ++ rest).drop message.length = rest := List.drop_left
  rw [framed, word16Bytes, List.append_assoc, List.cons_append, List.cons_append,
    List.nil_append, unframe]
  simp only [length_of_word16Bytes h, hfront, hback, if_true]

/-- What is taken off a stream is the message of the frame in front. -/
theorem unframe_eq_ok_iff :
    unframe stream = .ok (message, rest) ↔
      message.length ≤ maxFrame ∧ stream = framed message ++ rest := by
  refine ⟨fun h => ?_, fun ⟨hfits, hstream⟩ => hstream ▸ unframe_framed hfits rest⟩
  unfold unframe at h
  split at h
  · next high low body =>
    simp only at h
    split at h
    · next hlength =>
      obtain ⟨rfl, rfl⟩ := Prod.mk.inj (Except.ok.inj h)
      have hhigh := high.toNat_lt
      have hlow := low.toNat_lt
      refine ⟨?_, ?_⟩
      · rw [hlength]
        show _ ≤ 65535
        omega
      · rw [framed, hlength, word16Bytes_of_bytes, List.append_assoc,
          List.take_append_drop]
        rfl
    · cases h
  · cases h

/-- A stream that no message can be taken off is cut, and the fault says where. -/
theorem cut_of_unframe (h : unframe stream = .error fault) : Cut stream fault := by
  unfold unframe at h
  split at h
  · simp only at h
    split at h
    · cases h
    · next hlength =>
      obtain rfl := Except.error.inj h
      rw [List.length_take] at hlength
      exact Cut.body (by omega)
  · next hshort =>
    obtain rfl := Except.error.inj h
    refine Cut.length ?_
    match stream, hshort with
    | [], _ => exact Nat.zero_le 1
    | [_], _ => exact Nat.le_refl 1
    | high :: low :: body, hshort => exact absurd rfl (hshort high low body)

theorem unframe_nil : unframe [] = .error .lengthCut := rfl

/-! ## Taking all messages off -/

theorem unframeAll_of_ok (h : unframe stream = .ok (message, rest)) :
    unframeAll stream = (message :: (unframeAll rest).1, (unframeAll rest).2) := by
  rw [unframeAll]
  split
  · next hfault => exact absurd (h.symm.trans hfault) (by simp)
  · next found left hfound =>
    obtain ⟨rfl, rfl⟩ := Prod.mk.inj (Except.ok.inj (h.symm.trans hfound))
    rfl

theorem unframeAll_of_error (h : unframe stream = .error fault) :
    unframeAll stream = ([], fault) := by
  rw [unframeAll]
  split
  · next hfault =>
    obtain rfl := Except.error.inj (h.symm.trans hfault)
    rfl
  · next hfound => exact absurd (h.symm.trans hfound) (by simp)

/-- Frames in front of a stream are read first, and the stream after them. -/
theorem unframeAll_framed (h : ∀ message ∈ messages, message.length ≤ maxFrame)
    (stream : List UInt8) :
    unframeAll (messages.flatMap framed ++ stream) =
      (messages ++ (unframeAll stream).1, (unframeAll stream).2) := by
  induction messages with
  | nil => rfl
  | cons message later ih =>
    obtain ⟨hfits, hlater⟩ := List.forall_mem_cons.1 h
    have hfirst := unframe_framed hfits (later.flatMap framed ++ stream)
    rw [List.flatMap_cons, List.append_assoc, unframeAll_of_ok hfirst, ih hlater,
      List.cons_append]

/-- A stream is the frames of the messages that are taken off it, and a rest that is cut. -/
theorem split_of_unframeAll (stream : List UInt8) :
    (∀ message ∈ (unframeAll stream).1, message.length ≤ maxFrame) ∧
      ∃ rest, stream = (unframeAll stream).1.flatMap framed ++ rest ∧
        Cut rest (unframeAll stream).2 := by
  -- Along the stream, since each message leaves a shorter one.
  induction hlength : stream.length using Nat.strongRecOn generalizing stream with
  | ind n ih =>
    cases hread : unframe stream with
    | error fault =>
      rw [unframeAll_of_error hread]
      exact ⟨fun _ h => absurd h List.not_mem_nil, stream, rfl, cut_of_unframe hread⟩
    | ok found =>
      obtain ⟨message, left⟩ := found
      have hshorter : left.length < n := hlength ▸ length_of_unframe hread
      obtain ⟨hfit, rest, hleft, hcut⟩ := ih left.length hshorter left rfl
      obtain ⟨hfits, hstream⟩ := unframe_eq_ok_iff.1 hread
      rw [unframeAll_of_ok hread]
      refine ⟨List.forall_mem_cons.2 ⟨hfits, hfit⟩, rest, ?_, hcut⟩
      rw [hstream, List.flatMap_cons, List.append_assoc, ← hleft]

/-- Messages that fit are all taken off again, and then the stream ends in front of a length.
Any stream starts with the frames of the messages that are taken off it, and behind them stands
no frame.  A message that does not fit is refused and leaves the stream as it is. -/
theorem framing_exact :
    (∀ messages, (∀ message ∈ messages, message.length ≤ maxFrame) →
      (appendFrames [] messages).2 = [] ∧
        unframeAll (appendFrames [] messages).1 = (messages, .lengthCut)) ∧
    (∀ stream, ∃ front rest, appendFrames [] (unframeAll stream).1 = (front, []) ∧
      stream = front ++ rest ∧ Cut rest (unframeAll stream).2) ∧
    ∀ stream message, maxFrame < message.length →
      appendFrame stream message = (stream, some (.tooLarge message.length)) := by
  refine ⟨fun messages hfit => ?_, fun stream => ?_, fun _ _ => appendFrame_of_tooLong⟩
  · have hall := unframeAll_framed hfit []
    rw [unframeAll_of_error unframe_nil, List.append_nil, List.append_nil] at hall
    rw [appendFrames_of_fits hfit]
    exact ⟨rfl, hall⟩
  · obtain ⟨hfit, rest, hstream, hcut⟩ := split_of_unframeAll stream
    exact ⟨_, rest, appendFrames_of_fits hfit, hstream, hcut⟩

/-- A message without bytes and one whose length takes both bytes of the prefix. -/
def sampleMessages : List (List UInt8) :=
  [[], List.replicate 256 0x5A]

/-- The samples are read back; a message of 65536 bytes is refused. -/
theorem samples_read_back :
    (∀ message ∈ sampleMessages, message.length ≤ maxFrame) ∧
      (appendFrames [] sampleMessages).2 = [] ∧
      unframeAll (appendFrames [] sampleMessages).1 = (sampleMessages, .lengthCut) ∧
      maxFrame < (List.replicate 65536 (0 : UInt8)).length ∧
      appendFrame [1, 2] (List.replicate 65536 0) = ([1, 2], some (.tooLarge 65536)) := by
  have hfit : ∀ message ∈ sampleMessages, message.length ≤ maxFrame := by
    refine List.forall_mem_cons.2 ⟨Nat.zero_le _, List.forall_mem_singleton.2 ?_⟩
    rw [List.length_replicate, maxFrame]
    omega
  have hlength : (List.replicate 65536 (0 : UInt8)).length = 65536 := List.length_replicate
  have hlong : maxFrame < (List.replicate 65536 (0 : UInt8)).length := by
    rw [hlength, maxFrame]
    omega
  obtain ⟨hfaults, hmessages⟩ := framing_exact.1 _ hfit
  have hrefused := framing_exact.2.2 [1, 2] _ hlong
  rw [hlength] at hrefused
  exact ⟨hfit, hfaults, hmessages, hlong, hrefused⟩

end Wire
end SplitHorizon
