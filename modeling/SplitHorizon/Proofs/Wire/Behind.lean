/-
Messages behind a question section that is given.

Such a message repeats question bytes as they are.  It is read back if the question
is spelled out in them; a name that is shortened there points into another message.
Nothing that follows is shortened by the question, so the message is longer than one
that was written as a whole, and it may have fewer answers.  It has all of them
wherever a datagram has.
-/
import SplitHorizon.Proofs.Wire.RoundTrip

namespace SplitHorizon
namespace Wire

variable {message : List UInt8} {pos : Nat}

theorem decode?_of_receive? {bytes : List UInt8} {received : Received}
    (h : receive? bytes = some received) : decode? bytes = some received.message := by
  rw [decode?, h]
  rfl

/-! ## Questions that are spelled out -/

/-- The bytes of a question whose name is not shortened. -/
def Question.spelled (q : Question) : List UInt8 :=
  q.name.labels.flatMap Label.spelled ++ [0] ++ word16Bytes q.kind ++ word16Bytes q.cls

theorem writeLabels_spelled (labels : List Label) :
    (writeLabels false [] pos labels).bytes = labels.flatMap Label.spelled ++ [0] := by
  induction labels generalizing pos with
  | nil => rfl
  | cons label rest ih =>
    rw [writeLabels_of_new List.lookup_nil, List.flatMap_cons, List.append_assoc,
      ← @ih (pos + label.size)]
    rfl

theorem length_flatMap_spelled (labels : List Label) :
    (labels.flatMap Label.spelled).length = labelsSize labels := by
  induction labels with
  | nil => rfl
  | cons label rest ih =>
    rw [List.flatMap_cons, List.length_append, Label.length_spelled, ih, labelsSize_cons]

theorem Question.length_spelled (q : Question) : q.spelled.length = q.name.size + 4 := by
  simp only [Question.spelled, List.length_append, length_flatMap_spelled, length_word16Bytes,
    List.length_singleton, Name.size]

theorem Reads.spelled {q : Question} (hstands : StandsAt message pos q.spelled) :
    Reads message (readQuestion message) pos q (pos + q.spelled.length) := by
  have hname := hstands.left.left
  rw [← @writeLabels_spelled pos] at hname
  have hread := readName_writeLabels (fun ending hmem => absurd hmem List.not_mem_nil) hname
  rw [writeLabels_spelled] at hread
  exact hread.question hstands

/-! ## Messages -/

/-- How much of the answers a message behind a question has: those in front, as many as
there is room for, with the mark of truncation if that is not all. -/
structure Behind (header : Header) (q : Question) (answers : List Answer) (bytes : List UInt8)
    (count : Nat) : Prop where
  decode : decode? bytes = some
    { header := { header with
        truncated := header.truncated || count < answers.length
        code := header.code.inHeader }
      questions := [q]
      answers := answers.take count }
  room : bytes.length ≤ maxMessageSize
  full : ∀ a, answers[count]? = some a → maxMessageSize < bytes.length + a.size
  complete : Header.size + q.spelled.length + answersSize answers ≤ maxMessageSize →
    count = answers.length

theorem answersSize_take_add {answers : List Answer} {count : Nat} {a : Answer}
    (h : answers[count]? = some a) :
    answersSize (answers.take count) + a.size ≤ answersSize answers := by
  induction answers generalizing count with
  | nil => cases h
  | cons first rest ih =>
    cases count with
    | zero =>
      obtain rfl := Option.some.inj h
      simp only [List.take_zero, answersSize, List.foldr_cons, List.foldr_nil]
      omega
    | succ count =>
      have hrest := ih (List.getElem?_cons_succ ▸ h)
      simp only [List.take_succ_cons, answersSize, List.foldr_cons] at hrest ⊢
      omega

theorem decode?_of_spelled {header : Header} {q : Question} {answers : List Answer}
    {answerBytes bytes : List UInt8} {count : Nat}
    (hanswers : writeAnswers [] (Header.size + q.spelled.length) answers = (answerBytes, count))
    (hcount : count < 65536)
    (hbytes : bytes = header.bytes
        { questions := 1, answers := count, authorities := 0, additionals := 0 } ++
      q.spelled ++ answerBytes) :
    decode? bytes = some
      { header := { header with code := header.code.inHeader }
        questions := [q]
        answers := answers.take count } := by
  have hstands := (StandsAt.of_eq hbytes).left.right
  rw [Header.length_bytes, Nat.zero_add] at hstands
  have hread : Reads bytes (Reader.times (readQuestion bytes) 1) Header.size [q]
      (Header.size + q.spelled.length) :=
    Reads.times_succ (Reads.spelled hstands) Reads.times_zero
  have hone : [q].length < 65536 := Nat.lt_of_lt_of_le Nat.one_lt_two (by decide)
  exact decode?_of_standing hread (fun ending hmem => absurd hmem List.not_mem_nil) hanswers hone
    hcount hbytes

/-- Behind a question that is spelled out, the message is read back up to the answers
that had no room. -/
theorem behind_encodeBehind? (header : Header) (q : Question) (answers : List Answer) :
    ∃ encoded, encodeBehind? header 1 q.spelled answers = some encoded ∧
      Behind header q answers encoded.bytes encoded.answerCount := by
  have hsize := q.name.size_le_max
  have hroom : Header.size + q.spelled.length ≤ maxMessageSize := by
    rw [q.length_spelled]
    simp only [Header.size, maxNameSize, maxMessageSize] at hsize ⊢
    omega
  have hfills := fillsRoom_writeAnswers [] answers hroom
  refine ⟨_, if_pos hroom, ?_⟩
  cases hanswers : writeAnswers [] (Header.size + q.spelled.length) answers with
  | mk answerBytes count =>
    rw [hanswers] at hfills
    simp only [assemble, hanswers]
    have hleast := hfills.least
    have hmost := hfills.most
    have hroom' := hfills.room
    have hmax : maxMessageSize = 65535 := rfl
    dsimp only at hleast hmost hroom'
    constructor
    · exact decode?_of_spelled hanswers (by omega) rfl
    · simp only [List.length_append, Header.length_bytes]
      exact hroom'
    · intro a ha
      have hfull := hfills.full a ha
      simp only [List.length_append, Header.length_bytes]
      exact hfull
    · intro hfits
      refine Nat.le_antisymm hfills.count_le (Nat.le_of_not_lt fun hlt => ?_)
      have hnext := List.getElem?_eq_getElem hlt
      have hfull := hfills.full _ hnext
      have htotal := answersSize_take_add hnext
      dsimp only at hfull htotal
      omega

/-! ## Room for what a datagram has -/

theorem answersSize_le (answers : List Answer) :
    answersSize answers ≤ answers.length * maxAnswerSize := by
  induction answers with
  | nil => exact Nat.le_refl 0
  | cons a rest ih =>
    have hsize := a.size_le_max
    simp only [answersSize, List.foldr_cons, List.length_cons, Nat.add_mul, Nat.one_mul] at ih ⊢
    omega

/-- A message that has all of its answers takes bytes for each of them. -/
theorem least_of_encode? {m : Message} {bytes : List UInt8} (h : encode? m = some bytes)
    (hroom : bytes.length + maxAnswerSize ≤ maxMessageSize) :
    12 * m.answers.length ≤ bytes.length := by
  obtain ⟨questions, hquestions, rfl⟩ := encode?_eq_some h
  have hpos := (room_of_writeQuestions (by decide) hquestions).2
  have hfills := fillsRoom_writeAnswers questions.known m.answers hpos
  simp only [assemble, List.length_append, Header.length_bytes] at hroom ⊢
  have hcount : ¬ (writeAnswers questions.known (Header.size + questions.bytes.length)
      m.answers).2 < m.answers.length := fun hlt => by
    have hfull := hfills.count_lt hlt
    omega
  have hleast := hfills.least
  omega

/-- What fits into a datagram fits behind a question, however it is spelled. -/
theorem fits_of_short {m : Message} {bytes : List UInt8} (q : Question)
    (h : encode? m = some bytes) (hshort : bytes.length ≤ 512) :
    Header.size + q.spelled.length + answersSize m.answers ≤ maxMessageSize := by
  have hspare : 512 + maxAnswerSize ≤ maxMessageSize := by decide
  have hleast := least_of_encode? h (by omega)
  have hsize := answersSize_le m.answers
  have hname := q.name.size_le_max
  rw [q.length_spelled]
  simp only [Header.size, maxNameSize, maxAnswerSize, maxMessageSize] at hsize hname ⊢
  omega

end Wire
end SplitHorizon
