/-
Written messages read back.

Every writer comes with the reader that undoes it: where its bytes stand, the
reader ends behind them with what was written, and the endings that are known then
are good for what follows.  From names this carries over to questions, to answers,
to lists of both, and to whole messages.
-/
import SplitHorizon.Proofs.Wire.Header
import SplitHorizon.Proofs.Wire.Names
import SplitHorizon.Wire.Decoder
import SplitHorizon.Wire.Encoder

namespace SplitHorizon
namespace Wire

variable {message : List UInt8} {known : Endings} {pos : Nat}

/-! ## Questions -/

theorem writeQuestion_eq_some {q : Question} {written : Written}
    (h : writeQuestion known pos q = some written) :
    ∃ name, writeName known pos q.name = some name ∧
      written = { bytes := name.bytes ++ word16Bytes q.kind ++ word16Bytes q.cls,
                  known := name.known } ∧
      pos + written.bytes.length ≤ maxMessageSize := by
  simp only [writeQuestion, Option.bind_eq_bind, Option.bind_eq_some_iff,
    Option.guard_eq_some'] at h
  obtain ⟨name, hname, -, hfits, hwritten⟩ := h
  obtain rfl := Option.some.inj hwritten
  exact ⟨name, hname, rfl, hfits⟩

theorem Reads.question {q : Question} {nameBytes : List UInt8}
    (hname : Reads message (readName message) pos q.name (pos + nameBytes.length))
    (hstands : StandsAt message pos (nameBytes ++ word16Bytes q.kind ++ word16Bytes q.cls)) :
    Reads message (readQuestion message) pos q
      (pos + (nameBytes ++ word16Bytes q.kind ++ word16Bytes q.cls).length) := by
  have hcls := hstands.right
  simp only [List.length_append, length_word16Bytes, ← Nat.add_assoc] at hcls ⊢
  exact Reads.bind hname (Reads.bind (Reads.word16 hstands.left.right)
    (Reads.bind (Reads.word16 hcls) (Reads.pure _)))

theorem readQuestion_writeQuestion {q : Question} {written : Written}
    (hknown : ∀ ending ∈ known, Legible message pos ending)
    (hwrite : writeQuestion known pos q = some written)
    (hstands : StandsAt message pos written.bytes) :
    Reads message (readQuestion message) pos q (pos + written.bytes.length) ∧
      ∀ ending ∈ written.known, Legible message (pos + written.bytes.length) ending := by
  obtain ⟨name, hname, rfl, -⟩ := writeQuestion_eq_some hwrite
  obtain ⟨hread, hlater⟩ := readName_writeName hknown hname hstands.left.left
  refine ⟨hread.question hstands, fun ending hmem => (hlater ending hmem).mono ?_⟩
  simp only [List.length_append]
  omega

theorem writeQuestions_cons_eq_some {q : Question} {rest : List Question} {written : Written}
    (h : writeQuestions known pos (q :: rest) = some written) :
    ∃ first others, writeQuestion known pos q = some first ∧
      writeQuestions first.known (pos + first.bytes.length) rest = some others ∧
      written = { bytes := first.bytes ++ others.bytes, known := others.known } := by
  simp only [writeQuestions, Option.bind_eq_bind, Option.bind_eq_some_iff] at h
  obtain ⟨first, hfirst, others, hothers, hwritten⟩ := h
  exact ⟨first, others, hfirst, hothers, (Option.some.inj hwritten).symm⟩

theorem readQuestions_writeQuestions {questions : List Question} {written : Written}
    (hknown : ∀ ending ∈ known, Legible message pos ending)
    (hwrite : writeQuestions known pos questions = some written)
    (hstands : StandsAt message pos written.bytes) :
    Reads message (Reader.times (readQuestion message) questions.length) pos questions
        (pos + written.bytes.length) ∧
      ∀ ending ∈ written.known, Legible message (pos + written.bytes.length) ending := by
  induction questions generalizing known pos written with
  | nil =>
    obtain rfl := Option.some.inj hwrite
    exact ⟨Reads.times_zero, hknown⟩
  | cons q rest ih =>
    obtain ⟨first, others, hfirst, hothers, rfl⟩ := writeQuestions_cons_eq_some hwrite
    obtain ⟨hread, hlater⟩ := readQuestion_writeQuestion hknown hfirst hstands.left
    obtain ⟨hrest, hlast⟩ := ih hlater hothers hstands.right
    rw [List.length_append, ← Nat.add_assoc]
    exact ⟨Reads.times_succ hread hrest, hlast⟩

/-- Questions take bytes, and all of them have room. -/
theorem room_of_writeQuestions {questions : List Question} {written : Written}
    (hpos : pos ≤ maxMessageSize) (h : writeQuestions known pos questions = some written) :
    questions.length ≤ written.bytes.length ∧ pos + written.bytes.length ≤ maxMessageSize := by
  induction questions generalizing known pos written with
  | nil =>
    obtain rfl := Option.some.inj h
    exact ⟨Nat.le_refl 0, hpos⟩
  | cons q rest ih =>
    obtain ⟨first, others, hfirst, hothers, rfl⟩ := writeQuestions_cons_eq_some h
    obtain ⟨name, -, rfl, hfits⟩ := writeQuestion_eq_some hfirst
    obtain ⟨hcount, hroom⟩ := ih hfits hothers
    simp only [List.length_append, List.length_cons, length_word16Bytes] at hcount hroom ⊢
    omega

/-- No question takes more bytes: a name, a kind and a class. -/
def maxQuestionSize : Nat := maxNameSize + 4

theorem length_le_of_writeQuestions {questions : List Question} {written : Written}
    (h : writeQuestions known pos questions = some written) :
    written.bytes.length ≤ questions.length * maxQuestionSize := by
  induction questions generalizing known pos written with
  | nil =>
    obtain rfl := Option.some.inj h
    exact Nat.le_refl 0
  | cons q rest ih =>
    obtain ⟨first, others, hfirst, hothers, rfl⟩ := writeQuestions_cons_eq_some h
    obtain ⟨name, hname, rfl, -⟩ := writeQuestion_eq_some hfirst
    have hnameLength := Nat.le_trans (length_le_of_writeName hname) q.name.size_le_max
    have hrest := ih hothers
    simp only [maxQuestionSize, List.length_append, List.length_cons, length_word16Bytes,
      Nat.add_mul] at hrest ⊢
    omega

theorem writeQuestions_of_room {questions : List Question}
    (hroom : pos + questions.length * maxQuestionSize ≤ maxMessageSize) :
    ∃ written, writeQuestions known pos questions = some written := by
  induction questions generalizing known pos with
  | nil => exact ⟨_, rfl⟩
  | cons q rest ih =>
    simp only [maxQuestionSize, List.length_cons, Nat.add_mul] at hroom
    cases hname : writeName known pos q.name with
    | none =>
      have hfull := room_of_writeName_eq_none hname
      have hsize := q.name.size_le_max
      omega
    | some name =>
      have hnameLength := Nat.le_trans (length_le_of_writeName hname) q.name.size_le_max
      have hfits : pos + (name.bytes ++ word16Bytes q.kind ++ word16Bytes q.cls).length ≤
          maxMessageSize := by
        simp only [List.length_append, length_word16Bytes]
        omega
      have hguard : (guard _ : Option Unit) = some () := (Option.guard_eq_some' _).2 hfits
      have hfirst : writeQuestion known pos q = some
          { bytes := name.bytes ++ word16Bytes q.kind ++ word16Bytes q.cls,
            known := name.known } := by
        simp only [writeQuestion, hname, Option.bind_eq_bind, Option.bind_some, hguard]
        rfl
      have hrest : pos + (name.bytes ++ word16Bytes q.kind ++ word16Bytes q.cls).length +
          rest.length * maxQuestionSize ≤ maxMessageSize := by
        simp only [maxQuestionSize, List.length_append, length_word16Bytes]
        omega
      obtain ⟨others, hothers⟩ := @ih name.known _ hrest
      rw [writeQuestions, hfirst, Option.bind_eq_bind, Option.bind_some, hothers]
      exact ⟨_, rfl⟩

/-! ## Answers -/

/-- What is read where an answer was written. -/
def Answer.asRead (a : Answer) : ReadRecord :=
  { name := a.name, kind := a.data.kind.code, ttl := a.ttl, data := some a.data }

theorem isTrailing_asRead (a : Answer) : isTrailing a.asRead.kind = false := by
  obtain ⟨name, ttl, data⟩ := a
  cases data with
  | address ip => rfl
  | canonical target => rfl

theorem readAddress_bytes {ip : Ipv4} (hstands : StandsAt message pos ip.bytes) :
    Reads message readAddress pos ip (pos + 4) :=
  Reads.bind (Reads.byte hstands.head) <|
    Reads.bind (Reads.byte hstands.tail.head) <|
    Reads.bind (Reads.byte hstands.tail.tail.head) <|
    Reads.bind (Reads.byte hstands.tail.tail.tail.head) (Reads.pure ip)

/-- Data that is read as a form of its kind, and ends where it is announced to end. -/
theorem Reads.data {kind : UInt16} {length : Nat} {data : Option AnswerData} (hlength : length ≠ 0)
    (hform : Reads message (readForm message length (DataForm.ofCode kind)) pos data
      (pos + length)) :
    Reads message (readData message kind length) pos data (pos + length) := by
  unfold readData
  rw [if_neg hlength]
  exact Reads.bind Reads.position <| Reads.bind hform <| Reads.bind Reads.position <|
    Reads.bind (Reads.guard rfl) (Reads.pure data)

theorem readData_write {data : AnswerData} {written : Written}
    (hknown : ∀ ending ∈ known, Legible message pos ending)
    (hwrite : data.write known pos = some written)
    (hstands : StandsAt message pos written.bytes) :
    Reads message (readData message data.kind.code written.bytes.length) pos (some data)
        (pos + written.bytes.length) ∧
      ∀ ending ∈ written.known, Legible message (pos + written.bytes.length) ending := by
  cases data with
  | address ip =>
    obtain rfl := Option.some.inj hwrite
    refine ⟨Reads.data (Nat.succ_ne_zero 3) ?_, ?_⟩
    · exact Reads.bind (readAddress_bytes hstands) (Reads.pure _)
    · exact fun ending hmem => (hknown ending hmem).mono (Nat.le_add_right pos _)
  | canonical target =>
    obtain ⟨hread, hlater⟩ := readName_writeName hknown hwrite hstands
    obtain ⟨rfl, -⟩ := writeName_eq_some hwrite
    refine ⟨Reads.data ?_ (Reads.bind hread (Reads.pure _)), hlater⟩
    exact Nat.ne_of_gt (List.length_pos_iff.2 writeLabels_bytes_ne_nil)

theorem writeAnswer_eq_some {a : Answer} {written : Written}
    (h : writeAnswer known pos a = some written) :
    ∃ owner data, writeName known pos a.name = some owner ∧
      a.data.write owner.known (pos + (owner.bytes ++ answerMiddle a).length + 2) = some data ∧
      written = { bytes := owner.bytes ++ answerMiddle a ++
                    word16Bytes (UInt16.ofNat data.bytes.length) ++ data.bytes,
                  known := data.known } ∧
      pos + written.bytes.length ≤ maxMessageSize := by
  simp only [writeAnswer, Option.bind_eq_bind, Option.bind_eq_some_iff, Option.guard_eq_some'] at h
  obtain ⟨owner, howner, data, hdata, -, hfits, hwritten⟩ := h
  obtain rfl := Option.some.inj hwritten
  exact ⟨owner, data, howner, hdata, rfl, hfits⟩

theorem readRecord_writeAnswer {a : Answer} {written : Written}
    (hknown : ∀ ending ∈ known, Legible message pos ending)
    (hwrite : writeAnswer known pos a = some written)
    (hstands : StandsAt message pos written.bytes) :
    Reads message (readRecord message) pos a.asRead (pos + written.bytes.length) ∧
      ∀ ending ∈ written.known, Legible message (pos + written.bytes.length) ending := by
  obtain ⟨owner, data, howner, hdata, rfl, hfits⟩ := writeAnswer_eq_some hwrite
  obtain ⟨hread, hlater⟩ := readName_writeName hknown howner hstands.left.left.left
  have hlength : (UInt16.ofNat data.bytes.length).toNat = data.bytes.length := by
    rw [UInt16.toNat_ofNat']
    refine Nat.mod_eq_of_lt ?_
    simp only [List.length_append, maxMessageSize] at hfits
    omega
  have hmiddle : (answerMiddle a).length = 8 := rfl
  have hplace : pos + (owner.bytes ++ answerMiddle a).length + 2 =
      pos + owner.bytes.length + 2 + 2 + 4 + 2 := by
    rw [List.length_append, hmiddle]
    omega
  have hstandsMiddle : StandsAt message (pos + owner.bytes.length) (answerMiddle a) :=
    hstands.left.left.right
  have hstandsLength : StandsAt message (pos + owner.bytes.length + 2 + 2 + 4)
      (word16Bytes (UInt16.ofNat data.bytes.length)) := by
    have hright := hstands.left.right
    rwa [List.length_append, hmiddle] at hright
  have hstandsData : StandsAt message (pos + owner.bytes.length + 2 + 2 + 4 + 2) data.bytes := by
    have hright := hstands.right
    rwa [List.length_append, length_word16Bytes, ← Nat.add_assoc, hplace] at hright
  have hstop : pos + (owner.bytes ++ answerMiddle a ++
      word16Bytes (UInt16.ofNat data.bytes.length) ++ data.bytes).length =
        pos + owner.bytes.length + 2 + 2 + 4 + 2 + data.bytes.length := by
    rw [List.length_append, List.length_append, length_word16Bytes, ← Nat.add_assoc,
      ← Nat.add_assoc, hplace]
  have hkind : a.data.kind.code ≠ kindExtension := by
    cases a.data.kind with
    | a => decide
    | cname => decide
  rw [hplace] at hdata
  obtain ⟨hreadData, hlast⟩ := readData_write
    (fun ending hmem => (hlater ending hmem).mono (by omega)) hdata hstandsData
  rw [hstop]
  refine ⟨?_, hlast⟩
  refine Reads.bind hread (Reads.bind (Reads.word16 hstandsMiddle.left.left) ?_)
  refine Reads.bind (Reads.guard fun h => absurd h hkind) ?_
  refine Reads.bind (Reads.word16 hstandsMiddle.left.right) ?_
  refine Reads.bind (Reads.word32 hstandsMiddle.right) (Reads.bind (Reads.word16 hstandsLength) ?_)
  rw [hlength]
  exact Reads.bind hreadData (Reads.pure a.asRead)

theorem writeAnswers_cons_of_none {a : Answer} {rest : List Answer}
    (h : writeAnswer known pos a = none) : writeAnswers known pos (a :: rest) = ([], 0) := by
  rw [writeAnswers, h]

theorem writeAnswers_cons_of_some {a : Answer} {rest : List Answer} {first : Written}
    (h : writeAnswer known pos a = some first) :
    writeAnswers known pos (a :: rest) =
      (first.bytes ++ (writeAnswers first.known (pos + first.bytes.length) rest).1,
        (writeAnswers first.known (pos + first.bytes.length) rest).2 + 1) := by
  rw [writeAnswers, h]

theorem readRecords_writeAnswers {answers : List Answer}
    (hknown : ∀ ending ∈ known, Legible message pos ending)
    (hstands : StandsAt message pos (writeAnswers known pos answers).1) :
    Reads message (Reader.times (readRecord message) (writeAnswers known pos answers).2) pos
      ((answers.take (writeAnswers known pos answers).2).map Answer.asRead)
      (pos + (writeAnswers known pos answers).1.length) := by
  induction answers generalizing known pos with
  | nil => exact Reads.times_zero
  | cons a rest ih =>
    cases hfirst : writeAnswer known pos a with
    | none =>
      rw [writeAnswers_cons_of_none hfirst]
      exact Reads.times_zero
    | some first =>
      rw [writeAnswers_cons_of_some hfirst] at hstands ⊢
      obtain ⟨hread, hlater⟩ := readRecord_writeAnswer hknown hfirst hstands.left
      have hrest := ih hlater hstands.right
      rw [List.length_append, ← Nat.add_assoc, List.take_succ_cons, List.map_cons]
      exact Reads.times_succ hread hrest

/-- The bytes of the data, its name spelled out. -/
def AnswerData.size : AnswerData → Nat
  | .address _ => 4
  | .canonical target => target.size

/-- The bytes of an answer, its names spelled out. -/
def Answer.size (a : Answer) : Nat :=
  a.name.size + 10 + a.data.size

/-- No answer takes more bytes: two names, and ten bytes between them. -/
def maxAnswerSize : Nat := 2 * maxNameSize + 10

theorem Answer.size_le_max (a : Answer) : a.size ≤ maxAnswerSize := by
  have howner := a.name.size_le_max
  have hdata : a.data.size ≤ maxNameSize := by
    cases a.data with
    | address ip => exact Nat.le_trans (by decide : 4 ≤ 255) (Nat.le_refl 255)
    | canonical target => exact target.size_le_max
  simp only [Answer.size, maxAnswerSize]
  omega

theorem length_of_writeData {data : AnswerData} {written : Written}
    (h : data.write known pos = some written) :
    0 < written.bytes.length ∧ written.bytes.length ≤ data.size := by
  cases data with
  | address ip =>
    obtain rfl := Option.some.inj h
    exact ⟨Nat.succ_pos 3, Nat.le_refl 4⟩
  | canonical target =>
    refine ⟨?_, length_le_of_writeName h⟩
    obtain ⟨rfl, -⟩ := writeName_eq_some h
    exact List.length_pos_iff.2 writeLabels_bytes_ne_nil

theorem room_of_writeData_eq_none {data : AnswerData} (h : data.write known pos = none) :
    maxMessageSize < pos + data.size := by
  cases data with
  | address ip => cases h
  | canonical target => exact room_of_writeName_eq_none h

/-- An answer takes at least two bytes for names, and ten between them. -/
theorem length_of_writeAnswer {a : Answer} {written : Written}
    (h : writeAnswer known pos a = some written) :
    12 ≤ written.bytes.length ∧ written.bytes.length ≤ a.size := by
  obtain ⟨owner, data, howner, hdata, rfl, -⟩ := writeAnswer_eq_some h
  have hmiddle : (answerMiddle a).length = 8 := rfl
  have hownerLength := length_le_of_writeName howner
  obtain ⟨hpositive, hdataLength⟩ := length_of_writeData hdata
  have hownerPositive : 0 < owner.bytes.length := by
    obtain ⟨rfl, -⟩ := writeName_eq_some howner
    exact List.length_pos_iff.2 writeLabels_bytes_ne_nil
  simp only [List.length_append, hmiddle, length_word16Bytes, Answer.size]
  omega

theorem room_of_writeAnswer_eq_none {a : Answer} (h : writeAnswer known pos a = none) :
    maxMessageSize < pos + a.size := by
  have hmiddle : (answerMiddle a).length = 8 := rfl
  simp only [Answer.size]
  cases howner : writeName known pos a.name with
  | none =>
    have hroom := room_of_writeName_eq_none howner
    omega
  | some owner =>
    have hownerLength := length_le_of_writeName howner
    cases hdata : a.data.write owner.known (pos + (owner.bytes ++ answerMiddle a).length + 2) with
    | none =>
      have hroom := room_of_writeData_eq_none hdata
      rw [List.length_append, hmiddle] at hroom
      omega
    | some data =>
      have hdataLength := (length_of_writeData hdata).2
      refine Nat.lt_of_not_le fun hfits => ?_
      have hroom : pos + (owner.bytes ++ answerMiddle a ++
          word16Bytes (UInt16.ofNat data.bytes.length) ++ data.bytes).length ≤ maxMessageSize := by
        simp only [List.length_append, hmiddle, length_word16Bytes]
        omega
      have hguard : (guard _ : Option Unit) = some () := (Option.guard_eq_some' _).2 hroom
      simp only [writeAnswer, howner, hdata, Option.bind_eq_bind, Option.bind_some, hguard] at h
      cases h

/-- The bytes of answers, all names spelled out. -/
def answersSize (answers : List Answer) : Nat :=
  answers.foldr (fun a size => a.size + size) 0

/-- The written bytes and count are those of answers in front: as many as have room,
so that the next one, spelled out, has none. -/
structure FillsRoom (pos : Nat) (answers : List Answer) (written : List UInt8 × Nat) : Prop where
  count_le : written.2 ≤ answers.length
  least : 12 * written.2 ≤ written.1.length
  most : written.1.length ≤ answersSize (answers.take written.2)
  room : pos + written.1.length ≤ maxMessageSize
  full : ∀ a, answers[written.2]? = some a → maxMessageSize < pos + written.1.length + a.size

theorem fillsRoom_writeAnswers (known : Endings) (answers : List Answer)
    (hpos : pos ≤ maxMessageSize) : FillsRoom pos answers (writeAnswers known pos answers) := by
  induction answers generalizing known pos with
  | nil => exact ⟨Nat.le_refl 0, Nat.le_refl 0, Nat.le_refl 0, hpos, fun a h => nomatch h⟩
  | cons a rest ih =>
    cases hfirst : writeAnswer known pos a with
    | none =>
      rw [writeAnswers_cons_of_none hfirst]
      refine ⟨Nat.zero_le _, Nat.le_refl 0, Nat.le_refl 0, hpos, fun next hnext => ?_⟩
      obtain rfl := Option.some.inj hnext
      exact room_of_writeAnswer_eq_none hfirst
    | some first =>
      obtain ⟨owner, data, -, -, -, hfits⟩ := writeAnswer_eq_some hfirst
      obtain ⟨hleast, hmost⟩ := length_of_writeAnswer hfirst
      have hrest := ih first.known hfits
      have hcount := hrest.count_le
      have hleastRest := hrest.least
      have hmostRest := hrest.most
      have hroom := hrest.room
      rw [writeAnswers_cons_of_some hfirst]
      constructor
      · simp only [List.length_cons]
        omega
      · simp only [List.length_append]
        omega
      · simp only [List.length_append, List.take_succ_cons, answersSize, List.foldr_cons]
          at hmostRest ⊢
        omega
      · simp only [List.length_append]
        omega
      · intro next hnext
        have hfull := hrest.full next hnext
        simp only [List.length_append]
        omega

theorem FillsRoom.count_lt {answers : List Answer} {written : List UInt8 × Nat}
    (h : FillsRoom pos answers written) (hlt : written.2 < answers.length) :
    maxMessageSize < pos + written.1.length + maxAnswerSize := by
  have hfull := h.full _ (List.getElem?_eq_getElem hlt)
  have hsize := Answer.size_le_max answers[written.2]
  omega

/-! ## Messages -/

theorem encode?_eq_some {m : Message} {bytes : List UInt8} (h : encode? m = some bytes) :
    ∃ questions, writeQuestions [] Header.size m.questions = some questions ∧
      bytes = (assemble m.header m.questions.length questions m.answers).bytes := by
  simp only [encode?, Option.bind_eq_bind, Option.bind_eq_some_iff] at h
  obtain ⟨questions, hquestions, hbytes⟩ := h
  exact ⟨questions, hquestions, (Option.some.inj hbytes).symm⟩

/-- The message that arrives when only the answers in front were written. -/
def Message.arrived (m : Message) (count : Nat) : Message :=
  { m with
    header := { m.header with
      truncated := m.header.truncated || count < m.answers.length
      code := m.header.code.inHeader }
    answers := m.answers.take count }

theorem readSection_writeAnswers {answers : List Answer}
    (hknown : ∀ ending ∈ known, Legible message pos ending)
    (hstands : StandsAt message pos (writeAnswers known pos answers).1) :
    Reads message (readSection message (writeAnswers known pos answers).2) pos
      ((answers.take (writeAnswers known pos answers).2).map Answer.asRead)
      (pos + (writeAnswers known pos answers).1.length) := by
  refine Reads.bind (readRecords_writeAnswers hknown hstands) (Reads.bind (Reads.guard ?_) ?_)
  · rw [List.all_eq_true]
    intro record hrecord
    obtain ⟨a, -, rfl⟩ := List.mem_map.1 hrecord
    rw [isTrailing_asRead]
    rfl
  · exact Reads.pure _

theorem Reads.noRecords : Reads message (readSection message 0) pos [] pos :=
  Reads.bind Reads.times_zero (Reads.bind (Reads.guard rfl) (Reads.pure []))

theorem Reads.noAdditional : Reads message (readAdditional message 0) pos 0 pos :=
  Reads.bind Reads.times_zero (Reads.pure 0)

/-- A header, a question section and the answers in front are read back from where
they stand, if the questions are. -/
theorem decode?_of_standing {header : Header} {questions : List Question}
    {questionBytes answerBytes bytes : List UInt8} {answers : List Answer} {count : Nat}
    (hquestions : Reads bytes (Reader.times (readQuestion bytes) questions.length) Header.size
      questions (Header.size + questionBytes.length))
    (hknown : ∀ ending ∈ known, Legible bytes (Header.size + questionBytes.length) ending)
    (hanswers : writeAnswers known (Header.size + questionBytes.length) answers =
      (answerBytes, count))
    (hquestionCount : questions.length < 65536) (hcount : count < 65536)
    (hbytes : bytes = header.bytes
        { questions := questions.length, answers := count, authorities := 0, additionals := 0 } ++
      questionBytes ++ answerBytes) :
    decode? bytes = some
      { header := { header with code := header.code.inHeader }
        questions := questions
        answers := answers.take count } := by
  have hstands := StandsAt.of_eq hbytes
  have hnone : 0 < 65536 := by decide
  have hreadHeader := Header.reads_bytes hquestionCount hcount hnone hnone hstands.left.left
  have hstandsAnswers := hstands.right
  rw [List.length_append, Header.length_bytes, Nat.zero_add] at hstandsAnswers
  have hreadAnswers := readSection_writeAnswers hknown (by rw [hanswers]; exact hstandsAnswers)
  rw [hanswers] at hreadAnswers
  have hread : Reads bytes (readMessage bytes) 0 _ _ :=
    Reads.bind hreadHeader <| Reads.bind Reads.position <| Reads.bind hquestions <|
      Reads.bind Reads.position <| Reads.bind hreadAnswers <| Reads.bind Reads.noRecords <|
      Reads.bind Reads.noAdditional (Reads.pure _)
  have hkept : ((answers.take count).map Answer.asRead).filterMap ReadRecord.answer? =
      answers.take count := by
    rw [List.filterMap_map]
    exact List.filterMap_some
  have hcode : ResponseCode.ofParts 0 header.code.inHeader.low = header.code.inHeader :=
    ResponseCode.inHeader_inHeader header.code
  have hstart : Cursor.start bytes = Cursor.within bytes 0 := rfl
  rw [decode?, receive?, hstart, show readMessage bytes (Cursor.within bytes 0) = _ from hread]
  simp only [Option.map_some, hkept, hcode]

/-- A header, the questions and the answers in front are read back from where they
stand. -/
theorem decode?_of_sections {header : Header} {questions : List Question} {written : Written}
    {answers : List Answer} {answerBytes bytes : List UInt8} {count : Nat}
    (hquestions : writeQuestions [] Header.size questions = some written)
    (hanswers : writeAnswers written.known (Header.size + written.bytes.length) answers =
      (answerBytes, count))
    (hquestionCount : questions.length < 65536) (hcount : count < 65536)
    (hbytes : bytes = header.bytes
        { questions := questions.length, answers := count, authorities := 0, additionals := 0 } ++
      written.bytes ++ answerBytes) :
    decode? bytes = some
      { header := { header with code := header.code.inHeader }
        questions := questions
        answers := answers.take count } := by
  have hstands := (StandsAt.of_eq hbytes).left.right
  rw [Header.length_bytes, Nat.zero_add] at hstands
  obtain ⟨hreadQuestions, hknown⟩ := readQuestions_writeQuestions
    (fun ending hmem => absurd hmem List.not_mem_nil) hquestions hstands
  exact decode?_of_standing hreadQuestions hknown hanswers hquestionCount hcount hbytes

theorem length_assemble (header : Header) (questionCount : Nat) (questions : Written)
    (answers : List Answer) :
    (assemble header questionCount questions answers).bytes.length =
      Header.size + questions.bytes.length +
        (writeAnswers questions.known (Header.size + questions.bytes.length) answers).1.length := by
  simp only [assemble, List.length_append, Header.length_bytes]

theorem length_of_encode? {m : Message} {bytes : List UInt8} (h : encode? m = some bytes) :
    ∃ questions, writeQuestions [] Header.size m.questions = some questions ∧
      bytes.length = Header.size + questions.bytes.length + (writeAnswers questions.known
        (Header.size + questions.bytes.length) m.answers).1.length := by
  obtain ⟨questions, hquestions, rfl⟩ := encode?_eq_some h
  exact ⟨questions, hquestions, length_assemble _ _ _ _⟩

/-- The bytes of a message and the number of the answers in them, if its questions fit. -/
def encoded? (m : Message) : Option Encoded := do
  let questions ← writeQuestions [] Header.size m.questions
  return assemble m.header m.questions.length questions m.answers

theorem encode?_eq_map (m : Message) : encode? m = (encoded? m).map Encoded.bytes := by
  unfold encode? encoded?
  cases writeQuestions [] Header.size m.questions with
  | none => rfl
  | some questions => rfl

/-- A written message is read back, up to the answers that had no room.  There are
such answers only if the message is nearly as long as one can be. -/
theorem decode?_encoded? {m : Message} {encoded : Encoded} (h : encoded? m = some encoded) :
    decode? encoded.bytes = some (m.arrived encoded.answerCount) ∧
      encoded.bytes.length ≤ maxMessageSize ∧ encoded.answerCount ≤ m.answers.length ∧
      (encoded.answerCount < m.answers.length →
        maxMessageSize < encoded.bytes.length + maxAnswerSize) := by
  simp only [encoded?, Option.bind_eq_bind, Option.bind_eq_some_iff] at h
  obtain ⟨questions, hquestions, hencoded⟩ := h
  obtain rfl := Option.some.inj hencoded
  obtain ⟨hquestionCount, hquestionRoom⟩ := room_of_writeQuestions (by decide) hquestions
  have hfills := fillsRoom_writeAnswers questions.known m.answers hquestionRoom
  have hcount := hfills.least
  have hroom := hfills.room
  have hmax : maxMessageSize = 65535 := rfl
  rw [length_assemble]
  exact ⟨decode?_of_sections hquestions rfl (by omega) (by omega) rfl, hroom, hfills.count_le,
    hfills.count_lt⟩

theorem decode?_encode? {m : Message} {bytes : List UInt8} (h : encode? m = some bytes) :
    ∃ count, decode? bytes = some (m.arrived count) ∧ bytes.length ≤ maxMessageSize ∧
      count ≤ m.answers.length ∧
      (count < m.answers.length → maxMessageSize < bytes.length + maxAnswerSize) := by
  rw [encode?_eq_map, Option.map_eq_some_iff] at h
  obtain ⟨encoded, hencoded, rfl⟩ := h
  exact ⟨encoded.answerCount, decode?_encoded? hencoded⟩

/-- A message that was written as a whole is read back whole. -/
theorem arrives_of_complete {m : Message} {bytes : List UInt8} (h : encode? m = some bytes)
    (hcomplete : m.answers = [] ∨ bytes.length + maxAnswerSize ≤ maxMessageSize) :
    decode? bytes = some { m with header := { m.header with code := m.header.code.inHeader } } := by
  obtain ⟨count, hdecode, -, hle, hfull⟩ := decode?_encode? h
  have hcount : count = m.answers.length := by
    refine Nat.le_antisymm hle (Nat.le_of_not_lt fun hlt => ?_)
    rcases hcomplete with hnil | hroom
    · rw [hnil] at hlt
      exact Nat.not_lt_zero count hlt
    · exact absurd (hfull hlt) (Nat.not_lt.2 hroom)
  rw [hdecode, Message.arrived, hcount, List.take_length]
  simp

/-- Its code is the same if it has room in a header. -/
theorem decode?_of_complete {m : Message} {bytes : List UInt8} (h : encode? m = some bytes)
    (hcode : m.header.code.val < 16)
    (hcomplete : m.answers = [] ∨ bytes.length + maxAnswerSize ≤ maxMessageSize) :
    decode? bytes = some m := by
  rw [arrives_of_complete h hcomplete, ResponseCode.inHeader_of_lt hcode]

theorem encode?_of_room {m : Message}
    (hroom : Header.size + m.questions.length * maxQuestionSize ≤ maxMessageSize) :
    ∃ bytes, encode? m = some bytes := by
  obtain ⟨questions, hquestions⟩ := writeQuestions_of_room hroom
  rw [encode?, hquestions]
  exact ⟨_, rfl⟩

end Wire
end SplitHorizon
