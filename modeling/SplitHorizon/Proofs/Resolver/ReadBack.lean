/-
Answers of one server as another one reads them.

A server of this kind may ask another one for the rest of an alias.  The one puts records
into its reply and the other takes records out of it, with texts for names.  Between them
lies a message, which has labels for names and points back for what it spelled out before.

Records arrive with the texts that the labels print as, in order, the ones in front if the
message has no room for all.  A text that prints as it is may still change on the way, since
messages have absolute names only: a relative one arrives with a dot behind it
(`relative_shed_closed`).  `parse_of_answerReply` says that this is all that changes, so
records of absolute names arrive as they were.
-/
import SplitHorizon.Proofs.Server.Agreement
import SplitHorizon.Resolver.Reply

namespace SplitHorizon

/-! ## Texts of names -/

namespace Wire

/-- The text is read as a name that prints as the text. -/
def PrintsBack (text : String) : Prop :=
  (WrittenName.parse? text).map WrittenName.text = some text

instance (text : String) : Decidable (PrintsBack text) :=
  inferInstanceAs (Decidable (_ = _))

/-- The text is read as an absolute name. -/
def IsAbsolute (text : String) : Prop :=
  (WrittenName.parse? text).map WrittenName.isAbsolute = some true

instance (text : String) : Decidable (IsAbsolute text) :=
  inferInstanceAs (Decidable (_ = _))

/-- The text, with a dot behind it if it is read as a relative name. -/
def closedText (text : String) : String :=
  if (WrittenName.parse? text).map WrittenName.isAbsolute = some false then text ++ "." else text

theorem closedText_of_isAbsolute {text : String} (h : IsAbsolute text) :
    closedText text = text := by
  rw [closedText, h, if_neg (by decide)]

/-- What is relative prints without the dot that it has in a message. -/
theorem WrittenName.text_name (written : WrittenName) :
    written.name.text = if written.isAbsolute then written.text else written.text ++ "." := by
  obtain ⟨name, isAbsolute⟩ := written
  cases isAbsolute with
  | true => rfl
  | false =>
    rw [← String.toList_inj]
    simp [Name.text, Name.absolute, WrittenName.text]

theorem PrintsBack.exists_name {text : String} (h : PrintsBack text) :
    ∃ name, Name.parse? text = some name ∧ name.text = closedText text := by
  obtain ⟨written, hread, hprints⟩ := Option.map_eq_some_iff.1 h
  refine ⟨written.name, by rw [Name.parse?, hread, Option.map_some], ?_⟩
  rw [written.text_name, hprints, closedText, hread, Option.map_some]
  cases written.isAbsolute with
  | true => rfl
  | false => rfl

end Wire

/-! ## Records as they print -/

/-- The same data, the text in it printed from the name that it reads as. -/
inductive RecordData.PrintsAs : RecordData → RecordData → Prop
  | address (ip : Ipv4) : PrintsAs (.address ip) (.address ip)
  | canonical {target : String} {name : Wire.Name} (h : Wire.Name.parse? target = some name) :
    PrintsAs (.canonical target) (.canonical name.text)

/-- The same record, its texts printed from the names that they read as. -/
structure Record.PrintsAs (r printed : Record) : Prop where
  name : ∃ name, Wire.Name.parse? r.name = some name ∧ printed.name = name.text
  ttl : printed.ttl = r.ttl
  data : r.data.PrintsAs printed.data

theorem RecordData.PrintsAs.unique {data printed other : RecordData}
    (h : data.PrintsAs printed) (hother : data.PrintsAs other) : printed = other := by
  cases h with
  | address ip =>
    cases hother
    rfl
  | canonical h =>
    cases hother with
    | canonical hother =>
      obtain rfl := Option.some.inj (h.symm.trans hother)
      rfl

theorem Record.PrintsAs.unique {r printed other : Record} (h : r.PrintsAs printed)
    (hother : r.PrintsAs other) : printed = other := by
  obtain ⟨name, hname, hprinted⟩ := h.name
  obtain ⟨same, hsame, hotherPrinted⟩ := hother.name
  obtain rfl := Option.some.inj (hname.symm.trans hsame)
  obtain ⟨printedName, printedTtl, printedData⟩ := printed
  obtain ⟨otherName, otherTtl, otherData⟩ := other
  obtain rfl : printedName = otherName := hprinted.trans hotherPrinted.symm
  obtain rfl : printedTtl = otherTtl := h.ttl.trans hother.ttl.symm
  obtain rfl : printedData = otherData := h.data.unique hother.data
  rfl

theorem Wire.Answer.Carries.printsAs {a : Wire.Answer} {r : Record} (h : a.Carries r) :
    r.PrintsAs a.toRecord := by
  refine ⟨⟨a.name, h.name, rfl⟩, h.ttl, ?_⟩
  have hdata := h.data
  obtain ⟨owner, ttl, carried⟩ := a
  obtain ⟨name, _, data⟩ := r
  cases hdata with
  | address ip => exact RecordData.PrintsAs.address ip
  | canonical htarget => exact RecordData.PrintsAs.canonical htarget

theorem Record.PrintsAs.writable {r printed : Record} (h : r.PrintsAs printed) : r.Writable := by
  refine ⟨h.name.imp fun _ hname => hname.1, fun target htarget => ?_⟩
  have hdata := h.data
  obtain ⟨name, ttl, data⟩ := r
  obtain ⟨_, _, printedData⟩ := printed
  cases data with
  | address ip => cases htarget
  | canonical written =>
    obtain rfl := Option.some.inj htarget
    cases hdata with
    | canonical hname => exact ⟨_, hname⟩

namespace Record

/-- The texts in the record that are read as names. -/
def texts (r : Record) : List String :=
  r.name :: r.target?.toList

/-- The record with all of its names closed. -/
def closed (r : Record) : Record where
  name := Wire.closedText r.name
  ttl := r.ttl
  data := match r.data with
    | .address ip => .address ip
    | .canonical target => .canonical (Wire.closedText target)

theorem closed_of_isAbsolute {r : Record} (h : ∀ text ∈ r.texts, Wire.IsAbsolute text) :
    r.closed = r := by
  obtain ⟨name, ttl, data⟩ := r
  have hname : Wire.closedText name = name :=
    Wire.closedText_of_isAbsolute (h name List.mem_cons_self)
  cases data with
  | address ip => rw [closed, hname]
  | canonical target =>
    have htarget : Wire.closedText target = target :=
      Wire.closedText_of_isAbsolute (h target (List.mem_cons_of_mem _ List.mem_cons_self))
    simp only [closed, hname, htarget]

theorem printsAs_closed {r : Record} (h : ∀ text ∈ r.texts, Wire.PrintsBack text) :
    r.PrintsAs r.closed := by
  obtain ⟨name, ttl, data⟩ := r
  obtain ⟨owner, howner, hname⟩ := (h name List.mem_cons_self).exists_name
  refine ⟨⟨owner, howner, hname.symm⟩, rfl, ?_⟩
  cases data with
  | address ip => exact RecordData.PrintsAs.address ip
  | canonical target =>
    obtain ⟨other, hother, htarget⟩ :=
      (h target (List.mem_cons_of_mem _ List.mem_cons_self)).exists_name
    have hdata := RecordData.PrintsAs.canonical hother
    rwa [htarget] at hdata

end Record

namespace Resolver

variable {request : Wire.Message} {q : Wire.Question} {records : List Record}

/-! ## Replies as they are read -/

/-- The reply with records as whoever asked the question reads it. -/
def answered (request : Wire.Message) (q : Wire.Question) (truncated : Bool)
    (records : List Record) : Reply where
  id := request.header.id
  code := Wire.ResponseCode.noError
  truncated := truncated
  isResponse := true
  question := some q.name.text
  records := records

theorem ofMessage_arrived (hquestion : request.questions = [q]) (answers : List Wire.Answer)
    (count : Nat) :
    Reply.ofMessage ((Server.fullReply request Wire.ResponseCode.noError answers).arrived count) =
      answered request q (count < answers.length)
        ((answers.map Wire.Answer.toRecord).take count) := by
  have hhead : request.questions.head? = some q := by rw [hquestion, List.head?_cons]
  have hcode : Wire.ResponseCode.inHeader Wire.ResponseCode.noError = Wire.ResponseCode.noError :=
    Wire.ResponseCode.inHeader_of_lt Wire.ResponseCode.noError_lt
  simp only [Reply.ofMessage, Wire.Message.arrived, Server.fullReply, Server.errorReply,
    Server.replyHeader, hhead, hcode, Option.map_some, Bool.false_or, List.map_take]
  rfl

theorem parse_of_encoded? {answers : List Wire.Answer} {encoded : Wire.Encoded}
    (hquestion : request.questions = [q])
    (h : Wire.encoded? (Server.fullReply request Wire.ResponseCode.noError answers) =
      some encoded) :
    Reply.parse encoded.bytes = .ok (answered request q (encoded.answerCount < answers.length)
      ((answers.map Wire.Answer.toRecord).take encoded.answerCount)) := by
  rw [Reply.parse, (Wire.decode?_encoded? h).1]
  exact congrArg Except.ok (ofMessage_arrived hquestion answers encoded.answerCount)

/-- A reply with records is read back with the records as they print, as many as there was
room for.  Of records whose texts print as they are, nothing changes but that their names
are closed, and records of absolute names come back as they were. -/
theorem parse_of_answerReply (hquestion : request.questions = [q])
    (hwritable : ∀ r ∈ records, r.Writable) :
    ∃ m encoded printed, Server.answerReply request records = .ok m ∧
      Wire.encoded? m = some encoded ∧ Wire.encode? m = some encoded.bytes ∧
      encoded.bytes.length ≤ 65535 ∧
      (encoded.answerCount < records.length → 65535 < encoded.bytes.length + 520) ∧
      List.Forall₂ Record.PrintsAs records printed ∧
      Reply.parse encoded.bytes = .ok (answered request q (encoded.answerCount < records.length)
        (printed.take encoded.answerCount)) ∧
      (encoded.answerCount = records.length →
        (∀ r ∈ records, ∀ text ∈ r.texts, Wire.PrintsBack text) →
        Reply.parse encoded.bytes =
            .ok (answered request q false (records.map Record.closed)) ∧
          ((∀ r ∈ records, ∀ text ∈ r.texts, Wire.IsAbsolute text) →
            Reply.parse encoded.bytes = .ok (answered request q false records))) := by
  obtain ⟨answers, hanswers⟩ := Wire.exists_answersOf_iff.2 hwritable
  have hcarried := Wire.answersOf_eq_ok_iff.1 hanswers
  have hlength : answers.length = records.length := hcarried.length_eq.symm
  have hprinted : List.Forall₂ Record.PrintsAs records (answers.map Wire.Answer.toRecord) := by
    rw [List.forall₂_map_right_iff]
    exact hcarried.imp fun _ _ h => h.printsAs
  obtain ⟨bytes, hencode⟩ := (Server.rewritable_of_single hquestion).encode?
    (m := Server.fullReply request Wire.ResponseCode.noError answers) rfl
  obtain ⟨encoded, hencoded, rfl⟩ :=
    Option.map_eq_some_iff.1 ((Wire.encode?_eq_map _).symm.trans hencode)
  obtain ⟨-, hroom, -, hfull⟩ := Wire.decode?_encoded? hencoded
  have hparse := parse_of_encoded? hquestion hencoded
  rw [hlength] at hparse
  refine ⟨_, encoded, _, Server.answerReply_eq_ok_iff.2 ⟨answers, hcarried, rfl⟩, hencoded,
    hencode, hroom, fun hlt => hfull (hlength ▸ hlt), hprinted, hparse, fun hall hback => ?_⟩
  have hclosed : List.Forall₂ Record.PrintsAs records (records.map Record.closed) := by
    rw [List.forall₂_map_right_iff, List.forall₂_same]
    exact fun r hr => Record.printsAs_closed (hback r hr)
  have hsame : answers.map Wire.Answer.toRecord = records.map Record.closed :=
    (Relator.RightUnique.forall₂ fun _ _ _ h hother => h.unique hother) hprinted hclosed
  have hread : Reply.parse encoded.bytes =
      .ok (answered request q false (records.map Record.closed)) := by
    have htake : (records.map Record.closed).take records.length = records.map Record.closed :=
      List.take_of_length_le (Nat.le_of_eq (List.length_map _))
    rw [hparse, hsame, hall, htake, decide_eq_false (Nat.lt_irrefl _)]
  refine ⟨hread, fun habsolute => ?_⟩
  have hkept : records.map Record.closed = records.map fun r => r :=
    List.map_congr_left fun r hr => Record.closed_of_isAbsolute (habsolute r hr)
  rw [hread, hkept, List.map_id']

/-! ## An alias and its address -/

def shedRecords : List Record :=
  [Record.canonical "a." 600 "shed.a.", Record.address "shed.a." 60 ⟨10, 0, 0, 7⟩]

theorem shed_read_back :
    ∃ m encoded, Server.answerReply (Server.lampRequest 7 true []).message shedRecords = .ok m ∧
      Wire.encode? m = some encoded ∧
      Reply.parse encoded = .ok
        { id := 7
          code := Wire.ResponseCode.noError
          truncated := false
          isResponse := true
          question := some "a."
          records := shedRecords } := by
  have hback : ∀ r ∈ shedRecords, ∀ text ∈ r.texts, Wire.PrintsBack text := by decide +kernel
  have habsolute : ∀ r ∈ shedRecords, ∀ text ∈ r.texts, Wire.IsAbsolute text := by
    decide +kernel
  obtain ⟨m, encoded, printed, hm, hencoded, hencode, -, -, -, -, hall⟩ :=
    @parse_of_answerReply (Server.lampRequest 7 true []).message Server.lampQuestion shedRecords
      rfl fun r hr => (Record.printsAs_closed (hback r hr)).writable
  have hcount : ((Server.answerReply (Server.lampRequest 7 true []).message
      shedRecords).toOption.bind Wire.encoded?).map Wire.Encoded.answerCount = some 2 := by
    decide +kernel
  rw [hm] at hcount
  simp only [Except.toOption, Option.bind_some, hencoded, Option.map_some,
    Option.some.injEq] at hcount
  have hname : Server.lampQuestion.name.text = "a." := by decide +kernel
  refine ⟨m, encoded.bytes, hm, hencode, ?_⟩
  rw [(hall hcount hback).2 habsolute, answered, hname]
  rfl

def relativeShed : Record :=
  Record.address "shed.a" 60 ⟨10, 0, 0, 7⟩

def shedAnswer : Wire.Answer where
  name := ⟨⟨[115, 104, 101, 100], by decide, by decide⟩ :: Server.lampName.labels, by decide⟩
  ttl := 60
  data := .address ⟨10, 0, 0, 7⟩

def relativeShedReply : List UInt8 :=
  [0, 7, 133, 128, 0, 1, 0, 1, 0, 0, 0, 0, 1, 97, 0, 0, 1, 0, 1,
    4, 115, 104, 101, 100, 192, 12, 0, 1, 0, 1, 0, 0, 0, 60, 0, 4, 10, 0, 0, 7]

/-- A relative name prints as it is, and yet it is read back with a dot behind it. -/
theorem relative_shed_closed :
    Wire.decode? Server.spelledBytes = some (Server.lampRequest 7 true []).message ∧
      (∀ text ∈ relativeShed.texts, Wire.PrintsBack text) ∧
      (Server.answerReply (Server.lampRequest 7 true []).message
          [relativeShed]).toOption.bind Wire.encoded? =
        some { bytes := relativeShedReply, answerCount := 1 } ∧
      Reply.parse relativeShedReply =
        .ok (answered (Server.lampRequest 7 true []).message Server.lampQuestion false
          [Record.address "shed.a." 60 ⟨10, 0, 0, 7⟩]) ∧
      Reply.parse relativeShedReply ≠
        .ok (answered (Server.lampRequest 7 true []).message Server.lampQuestion false
          [relativeShed]) := by
  have hread : Reply.parse relativeShedReply =
      .ok (answered (Server.lampRequest 7 true []).message Server.lampQuestion false
        [Record.address "shed.a." 60 ⟨10, 0, 0, 7⟩]) := by
    have hencoded : Wire.encoded? (Server.fullReply (Server.lampRequest 7 true []).message
        Wire.ResponseCode.noError [shedAnswer]) =
          some { bytes := relativeShedReply, answerCount := 1 } := by
      decide +kernel
    have htext : shedAnswer.name.text = "shed.a." := by decide +kernel
    rw [← htext]
    exact parse_of_encoded? rfl hencoded
  have hencode :
      Wire.encode? (Server.lampRequest 7 true []).message = some Server.spelledBytes := by
    decide +kernel
  have hdecode := Wire.decode?_of_complete hencode Wire.ResponseCode.noError_lt (Or.inl rfl)
  refine ⟨hdecode, by decide +kernel, by decide +kernel, hread, fun hsame => ?_⟩
  have hrecords := congrArg Reply.records (Except.ok.inj (hread.symm.trans hsame))
  exact absurd hrecords (by decide)

end Resolver
end SplitHorizon
