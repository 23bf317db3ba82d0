/-
Every datagram and its reply.

`Outcome` is what a request comes to, before anything is written: a response code and
the records that go with it.  It leaves out how the reply is put together.  The reply
is then compared with it as it is read by whoever receives it, so that the encoder
with its shortened names is covered.

A reply is all or nothing.  If the full one has no room in a datagram, an empty one
with the mark of truncation takes its place, whatever the code was.
-/
import SplitHorizon.Proofs.Server.Serving

namespace SplitHorizon

/-- The texts of the record are names that a message can carry. -/
structure Record.Writable (r : Record) : Prop where
  name : ∃ name, Wire.Name.parse? r.name = some name
  target : ∀ target, r.target? = some target → ∃ name, Wire.Name.parse? target = some name

namespace Wire

/-! ## Answers of records -/

/-- The data of a record with its text read as a name. -/
inductive AnswerData.Carries : AnswerData → RecordData → Prop
  | address (ip : Ipv4) : Carries (.address ip) (.address ip)
  | canonical {name : Name} {target : String} (h : Name.parse? target = some name) :
    Carries (.canonical name) (.canonical target)

/-- The answer is the record with its texts read as names. -/
structure Answer.Carries (a : Answer) (r : Record) : Prop where
  name : Name.parse? r.name = some a.name
  ttl : a.ttl = r.ttl
  data : a.data.Carries r.data

theorem nameOf_eq_ok_iff {text : String} {name : Name} :
    nameOf text = .ok name ↔ Name.parse? text = some name := by
  unfold nameOf
  cases Name.parse? text with
  | none => simp
  | some found => simp

theorem ofRecordData_eq_ok_iff {written : RecordData} {data : AnswerData} :
    AnswerData.ofRecord written = .ok data ↔ data.Carries written := by
  constructor
  · intro h
    cases written with
    | address ip => exact Except.ok.inj h ▸ AnswerData.Carries.address ip
    | canonical target =>
      cases hname : nameOf target with
      | error fault => simp [AnswerData.ofRecord, hname, Except.map] at h
      | ok name =>
        simp only [AnswerData.ofRecord, hname, Except.map, Except.ok.injEq] at h
        exact h ▸ AnswerData.Carries.canonical (nameOf_eq_ok_iff.1 hname)
  · rintro (ip | hname)
    · rfl
    · rw [AnswerData.ofRecord, nameOf_eq_ok_iff.2 hname]
      rfl

theorem ofRecord_eq_ok_iff {r : Record} {a : Answer} :
    Answer.ofRecord r = .ok a ↔ a.Carries r := by
  simp only [Answer.ofRecord, bind_eq_ok_iff, nameOf_eq_ok_iff, ofRecordData_eq_ok_iff]
  constructor
  · rintro ⟨name, hname, data, hdata, ha⟩
    obtain rfl := Except.ok.inj ha
    exact ⟨hname, rfl, hdata⟩
  · rintro ⟨hname, httl, hdata⟩
    exact ⟨a.name, hname, a.data, hdata, by rw [← httl]; rfl⟩

theorem answersOf_eq_ok_iff {records : List Record} {answers : List Answer} :
    answersOf records = .ok answers ↔ List.Forall₂ (fun r a => a.Carries r) records answers := by
  simp only [answersOf, mapM_eq_ok_iff, ofRecord_eq_ok_iff]

theorem exists_carries_iff {r : Record} : (∃ a : Answer, a.Carries r) ↔ r.Writable := by
  obtain ⟨name, ttl, data⟩ := r
  constructor
  · rintro ⟨⟨owner, _, carried⟩, hname, -, hdata⟩
    refine ⟨⟨owner, hname⟩, fun target htarget => ?_⟩
    cases data with
    | address ip => cases htarget
    | canonical written =>
      obtain rfl := Option.some.inj htarget
      cases hdata with
      | canonical h => exact ⟨_, h⟩
  · rintro ⟨⟨owner, hname⟩, htarget⟩
    cases data with
    | address ip => exact ⟨⟨owner, ttl, .address ip⟩, hname, rfl, AnswerData.Carries.address ip⟩
    | canonical written =>
      obtain ⟨target, h⟩ := htarget written rfl
      exact ⟨⟨owner, ttl, .canonical target⟩, hname, rfl, AnswerData.Carries.canonical h⟩

/-- All records have answers, or one of them has a text that is no name. -/
theorem exists_answersOf_iff {records : List Record} :
    (∃ answers, answersOf records = .ok answers) ↔ ∀ r ∈ records, r.Writable := by
  simp only [answersOf_eq_ok_iff, exists_forall₂_iff, exists_carries_iff]

end Wire

namespace Server

variable {ρ δ : Type} {service : Service ρ δ} {client : Ip} {request m : Wire.Message}
  {outside after : Resolution.Outside ρ δ}

/-! ## Outcomes -/

/-- What a request comes to: the response code, the records that go with it, and what is
outside afterwards. -/
inductive Outcome (service : Service ρ δ) (client : Ip) (request : Wire.Message)
    (outside : Resolution.Outside ρ δ) :
    Wire.ResponseCode → List Record → Resolution.Outside ρ δ → Prop
  | otherOperation (hop : request.header.opcode ≠ Wire.Opcode.query) :
    Outcome service client request outside Wire.ResponseCode.notImplemented [] outside
  | noQuestion (hop : request.header.opcode = Wire.Opcode.query)
    (hnone : request.questions = []) :
    Outcome service client request outside Wire.ResponseCode.formatError [] outside
  | otherKind {question : Wire.Question} {rest : List Wire.Question}
    (hop : request.header.opcode = Wire.Opcode.query)
    (hquestions : request.questions = question :: rest)
    (haddress : question.kind ≠ RecordKind.a.code)
    (halias : question.kind ≠ RecordKind.cname.code) :
    Outcome service client request outside Wire.ResponseCode.notImplemented [] outside
  | unresolved {question : Wire.Question} {rest : List Wire.Question} {fault : Fault}
    {after : Resolution.Outside ρ δ}
    (hop : request.header.opcode = Wire.Opcode.query)
    (hquestions : request.questions = question :: rest)
    (hkind : question.kind = RecordKind.a.code ∨ question.kind = RecordKind.cname.code)
    (hquery : service.query client question.name.text outside = (.error fault, after)) :
    Outcome service client request outside Wire.ResponseCode.serverFailure [] after
  | unwritable {question : Wire.Question} {rest : List Wire.Question} {records : List Record}
    {r : Record} {after : Resolution.Outside ρ δ}
    (hop : request.header.opcode = Wire.Opcode.query)
    (hquestions : request.questions = question :: rest)
    (hkind : question.kind = RecordKind.a.code ∨ question.kind = RecordKind.cname.code)
    (hquery : service.query client question.name.text outside = (.ok records, after))
    (hmem : r ∈ records) (hfails : ¬ r.Writable) :
    Outcome service client request outside Wire.ResponseCode.serverFailure [] after
  | answered {question : Wire.Question} {rest : List Wire.Question} {records : List Record}
    {after : Resolution.Outside ρ δ}
    (hop : request.header.opcode = Wire.Opcode.query)
    (hquestions : request.questions = question :: rest)
    (hkind : question.kind = RecordKind.a.code ∨ question.kind = RecordKind.cname.code)
    (hquery : service.query client question.name.text outside = (.ok records, after))
    (hall : ∀ r ∈ records, r.Writable) :
    Outcome service client request outside Wire.ResponseCode.noError records after

theorem Outcome.code_lt {code : Wire.ResponseCode} {records : List Record}
    (h : Outcome service client request outside code records after) : code.val < 16 := by
  cases h <;> decide

theorem ofCode?_eq_none_iff {kind : UInt16} :
    RecordKind.ofCode? kind = none ↔ kind ≠ RecordKind.a.code ∧ kind ≠ RecordKind.cname.code := by
  unfold RecordKind.ofCode?
  by_cases ha : kind = 1
  · simp [ha, RecordKind.code]
  · by_cases hc : kind = 5
    · simp [hc, RecordKind.code]
    · simp [ha, hc, RecordKind.code]

theorem exists_kind {kind : UInt16}
    (h : kind = RecordKind.a.code ∨ kind = RecordKind.cname.code) :
    ∃ served : RecordKind, kind = served.code :=
  h.elim (fun h => ⟨.a, h⟩) (fun h => ⟨.cname, h⟩)

/-- A question of a kind that is served comes to its records, or to a failure. -/
theorem outcome_of_question {question : Wire.Question} {rest : List Wire.Question}
    (hop : request.header.opcode = Wire.Opcode.query)
    (hquestions : request.questions = question :: rest)
    (hkind : question.kind = RecordKind.a.code ∨ question.kind = RecordKind.cname.code) :
    ∃ code records after answers, Outcome service client request outside code records after ∧
      List.Forall₂ (fun r a => Wire.Answer.Carries a r) records answers ∧
      respond service client request outside =
        ({ errorReply request code with answers := answers }, after) := by
  obtain ⟨kind, hserved⟩ := exists_kind hkind
  cases hquery : service.query client question.name.text outside with
  | mk result after =>
    have hanswer : answerQuestion service client question.name question.kind outside =
        (result.mapError fun _ => Wire.ResponseCode.serverFailure, after) := by
      rw [hserved]
      exact answerQuestion_of_query hquery
    have hrespond := respond_of_question hop hquestions hanswer
    cases result with
    | error fault =>
      exact ⟨_, _, _, [], Outcome.unresolved hop hquestions hkind hquery, List.Forall₂.nil,
        hrespond⟩
    | ok records =>
      cases hanswers : Wire.answersOf records with
      | ok answers =>
        have hall := Wire.exists_answersOf_iff.1 ⟨answers, hanswers⟩
        refine ⟨_, _, _, answers, Outcome.answered hop hquestions hkind hquery hall,
          Wire.answersOf_eq_ok_iff.1 hanswers, ?_⟩
        rw [hrespond]
        simp only [Except.mapError, questionReply_of_answers hanswers]
      | error fault =>
        have hsome : ¬ ∀ r ∈ records, r.Writable := by
          intro hall
          obtain ⟨answers, hok⟩ := Wire.exists_answersOf_iff.2 hall
          rw [hanswers] at hok
          cases hok
        obtain ⟨r, hr⟩ := not_forall.1 hsome
        obtain ⟨hmem, hfails⟩ := Classical.not_imp.1 hr
        refine ⟨_, _, _, [], Outcome.unwritable hop hquestions hkind hquery hmem hfails,
          List.Forall₂.nil, ?_⟩
        rw [hrespond]
        simp only [Except.mapError, questionReply, answerReply, hanswers]
        rfl

/-- The reply to a request is that of its outcome, with every record in its place. -/
theorem outcome_of_respond (service : Service ρ δ) (client : Ip) (request : Wire.Message)
    (outside : Resolution.Outside ρ δ) :
    ∃ code records after answers, Outcome service client request outside code records after ∧
      List.Forall₂ (fun r a => Wire.Answer.Carries a r) records answers ∧
      respond service client request outside =
        ({ errorReply request code with answers := answers }, after) := by
  by_cases hop : request.header.opcode = Wire.Opcode.query
  · cases hquestions : request.questions with
    | nil =>
      refine ⟨_, _, _, [], Outcome.noQuestion hop hquestions, List.Forall₂.nil, ?_⟩
      rw [respond, if_neg (not_not_intro hop), hquestions]
      rfl
    | cons question rest =>
      by_cases hkind : question.kind = RecordKind.a.code ∨ question.kind = RecordKind.cname.code
      · exact outcome_of_question hop hquestions hkind
      · obtain ⟨haddress, halias⟩ := not_or.1 hkind
        have hanswer : answerQuestion service client question.name question.kind outside =
            (.error Wire.ResponseCode.notImplemented, outside) := by
          rw [answerQuestion, ofCode?_eq_none_iff.2 ⟨haddress, halias⟩]
          rfl
        exact ⟨_, _, _, [], Outcome.otherKind hop hquestions haddress halias, List.Forall₂.nil,
          respond_of_question hop hquestions hanswer⟩
  · refine ⟨_, _, _, [], Outcome.otherOperation hop, List.Forall₂.nil, ?_⟩
    rw [respond, if_pos hop]
    rfl

/-! ## Replies -/

/-- What every reply has in common: it repeats the request as far as it tells requests
apart, and speaks with authority for a server that looks further. -/
structure RepliesTo (m request : Wire.Message) : Prop where
  id : m.header.id = request.header.id
  opcode : m.header.opcode = request.header.opcode
  recursionDesired : m.header.recursionDesired = request.header.recursionDesired
  questions : m.questions = request.questions
  isResponse : m.header.isResponse = true
  authoritative : m.header.authoritative = true
  recursionAvailable : m.header.recursionAvailable = true

/-- The reply to a request with a code and answers, whatever room it takes. -/
def fullReply (request : Wire.Message) (code : Wire.ResponseCode) (answers : List Wire.Answer) :
    Wire.Message :=
  { errorReply request code with answers := answers }

theorem answerReply_eq_ok_iff {records : List Record} :
    answerReply request records = .ok m ↔
      ∃ answers, List.Forall₂ (fun r a => Wire.Answer.Carries a r) records answers ∧
        m = fullReply request Wire.ResponseCode.noError answers := by
  simp only [answerReply, bind_eq_ok_iff, Wire.answersOf_eq_ok_iff]
  constructor
  · rintro ⟨answers, hcarried, hm⟩
    exact ⟨answers, hcarried, (Except.ok.inj hm).symm⟩
  · rintro ⟨answers, hcarried, rfl⟩
    exact ⟨answers, hcarried, rfl⟩

theorem repliesTo_fullReply (request : Wire.Message) (code : Wire.ResponseCode)
    (answers : List Wire.Answer) : RepliesTo (fullReply request code answers) request :=
  ⟨rfl, rfl, rfl, rfl, rfl, rfl, rfl⟩

theorem repliesTo_truncatedReply (request : Wire.Message) :
    RepliesTo (truncatedReply request) request :=
  ⟨rfl, rfl, rfl, rfl, rfl, rfl, rfl⟩

theorem replyBytes?_of_not_rewritable (h : ¬ Rewritable request)
    (hquestions : m.questions = request.questions) : replyBytes? request m = none := by
  have hnone : ∀ reply : Wire.Message, reply.questions = request.questions →
      Wire.encode? reply = none := by
    intro reply hreply
    refine Option.eq_none_iff_forall_ne_some.2 fun full hfull => ?_
    exact h (Rewritable.of_encode? hfull hreply)
  rw [replyBytes?, datagramBytes?, hnone m hquestions]
  exact hnone _ rfl

theorem handleDatagram_of_request {bytes : List UInt8}
    (hdecode : Wire.decode? bytes = some request) (hrequest : request.header.isResponse = false) :
    handleDatagram service client bytes outside =
      (replyBytes? request (respond service client request outside).1,
        (respond service client request outside).2) := by
  rw [handleDatagram, hdecode]
  simp only [hrequest, Bool.false_eq_true, if_false]
  rfl

theorem handleDatagram_of_no_request {bytes : List UInt8}
    (h : ∀ request, Wire.decode? bytes = some request → request.header.isResponse = true) :
    handleDatagram service client bytes outside = (none, outside) := by
  rw [handleDatagram]
  cases hdecode : Wire.decode? bytes with
  | none => rfl
  | some request =>
    simp only [h request hdecode, if_true]
    rfl

/-- A request is replied to with its outcome. -/
theorem datagram_of_request {bytes : List UInt8} (hdecode : Wire.decode? bytes = some request)
    (hrequest : request.header.isResponse = false) (hwritten : Rewritable request) :
    ∃ code records after answers reply,
      Outcome service client request outside code records after ∧
      List.Forall₂ (fun r a => Wire.Answer.Carries a r) records answers ∧
      handleDatagram service client bytes outside = (some reply, after) ∧
      Delivers reply request (fullReply request code answers) := by
  obtain ⟨code, records, after, answers, houtcome, hcarried, hrespond⟩ :=
    outcome_of_respond service client request outside
  obtain ⟨reply, hreply, hdelivers⟩ :=
    @Rewritable.delivers _ (fullReply request code answers) hwritten rfl houtcome.code_lt
  refine ⟨code, records, after, answers, reply, houtcome, hcarried, ?_, hdelivers⟩
  rw [handleDatagram_of_request hdecode hrequest, hrespond]
  exact Prod.ext hreply rfl

/-- Only what is no request, or could not be written once more, is left without a reply. -/
theorem handleDatagram_eq_none_iff {bytes : List UInt8} :
    (handleDatagram service client bytes outside).1 = none ↔
      ∀ request, Wire.decode? bytes = some request →
        request.header.isResponse = true ∨ ¬ Rewritable request := by
  constructor
  · intro hnone request hdecode
    by_contra hboth
    obtain ⟨hrequest, hwritten⟩ := not_or.1 hboth
    obtain ⟨code, records, after, answers, reply, -, -, hreply, -⟩ :=
      @datagram_of_request _ _ service client request outside _ hdecode
        (Bool.eq_false_iff.2 hrequest) (not_not.1 hwritten)
    rw [hreply] at hnone
    cases hnone
  · intro hall
    by_cases hrequest : ∀ request, Wire.decode? bytes = some request →
        request.header.isResponse = true
    · rw [handleDatagram_of_no_request hrequest]
    · obtain ⟨request, hboth⟩ := not_forall.1 hrequest
      obtain ⟨hdecode, hrequest⟩ := Classical.not_imp.1 hboth
      have hlost : ¬ Rewritable request := (hall request hdecode).resolve_left hrequest
      obtain ⟨code, records, after, answers, -, -, hrespond⟩ :=
        outcome_of_respond service client request outside
      rw [handleDatagram_of_request hdecode (Bool.eq_false_iff.2 hrequest), hrespond]
      exact replyBytes?_of_not_rewritable hlost rfl

/-- Only what is no request is left without a reply.  A reply is the outcome of its
request with all of its records, or marks that the outcome has no room. -/
theorem datagram_answered (service : Service ρ δ) (client : Ip) (bytes : List UInt8)
    (outside : Resolution.Outside ρ δ) :
    ((handleDatagram service client bytes outside).1 = none ↔
      ∀ request, Wire.decode? bytes = some request →
        request.header.isResponse = true ∨ ¬ Rewritable request) ∧
    ∀ request, Wire.decode? bytes = some request → request.header.isResponse = false →
      Rewritable request →
      ∃ code records after answers full reply m,
        Outcome service client request outside code records after ∧
        List.Forall₂ (fun r a => Wire.Answer.Carries a r) records answers ∧
        Wire.encode? (fullReply request code answers) = some full ∧
        handleDatagram service client bytes outside = (some reply, after) ∧
        Wire.decode? reply = some m ∧ RepliesTo m request ∧
        (full.length ≤ 512 → m.header.code = code ∧ m.header.truncated = false ∧
          m.answers = answers) ∧
        (512 < full.length → m.header.code = Wire.ResponseCode.noError ∧
          m.header.truncated = true ∧ m.answers = []) := by
  refine ⟨handleDatagram_eq_none_iff, ?_⟩
  intro request hdecode hrequest hwritten
  obtain ⟨code, records, after, answers, reply, houtcome, hcarried, hreply, full, hfull, hread⟩ :=
    @datagram_of_request _ _ service client request outside _ hdecode hrequest hwritten
  refine ⟨code, records, after, answers, full, reply, _, houtcome, hcarried, hfull, hreply,
    hread, ?_⟩
  by_cases hfits : full.length ≤ maxDatagram
  · rw [if_pos hfits]
    exact ⟨repliesTo_fullReply request code answers, fun _ => ⟨rfl, rfl, rfl⟩,
      fun hlong => absurd hfits (Nat.not_le.2 hlong)⟩
  · rw [if_neg hfits]
    exact ⟨repliesTo_truncatedReply request, fun hshort => absurd hshort hfits,
      fun _ => ⟨rfl, rfl, rfl⟩⟩

end Server
end SplitHorizon
