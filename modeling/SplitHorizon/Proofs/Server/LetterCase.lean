/-
Questions in other letters.

Resolvers write the names they ask for in any mix of small letters and capitals, and
expect the reply in the letters they wrote.  Two requests that differ in nothing else are
looked up as one: the same is drawn, the same is asked, and the replies differ in the
letters of the repeated questions alone.

The mark of Punycode is the exception.  It counts in small letters only: behind a capital
in its mark a label is not read as Punycode, and prints as other characters
(`capital_mark_found`).  `ReadAlike` rules that out for the first question of a request,
which alone is looked up.

An answer is shortened by the letters of a question only if it is spelled in them, so the
lengths of the two replies may differ.  One of them may then have no room where the
other has, and questions by the hundred may come to more than a message holds in one
spelling alone.
-/
import SplitHorizon.Proofs.Server.Agreement

namespace SplitHorizon

namespace Wire

/-- The questions differ in the case of letters of their name at most. -/
structure Question.CaseVariant (q other : Question) : Prop where
  name : q.name.lower = other.name.lower
  kind : q.kind = other.kind
  cls : q.cls = other.cls

/-- The messages differ in the case of letters in their questions at most, as far as
headers and questions go. -/
structure Message.CaseVariant (m other : Message) : Prop where
  header : m.header = other.header
  questions : List.Forall₂ Question.CaseVariant m.questions other.questions

/-- Of the names that the messages ask for first, the same labels are read as Punycode. -/
def Message.ReadAlike (m other : Message) : Prop :=
  ∀ q ∈ m.questions.head?, ∀ r ∈ other.questions.head?, q.name.ReadAlike r.name

end Wire

namespace Server

variable {ρ δ : Type} {service : Service ρ δ} {client : Ip} {request other : Wire.Message}
  {bytes otherBytes : List UInt8} {outside : Resolution.Outside ρ δ}

/-! ## One decision -/

/-- The reply to a case variant is the same reply with the questions of the variant. -/
theorem respond_of_caseVariant (hcase : request.CaseVariant other)
    (hnames : request.ReadAlike other) :
    respond service client other outside =
      ({ (respond service client request outside).1 with questions := other.questions },
        (respond service client request outside).2) := by
  obtain ⟨header, questions, answers⟩ := request
  obtain ⟨_, others, others'⟩ := other
  obtain ⟨rfl, hquestions⟩ := hcase
  unfold respond
  by_cases hop : header.opcode = Wire.Opcode.query
  · rw [if_neg (not_not_intro hop), if_neg (not_not_intro hop)]
    cases hquestions with
    | nil => rfl
    | @cons q r rest more hfirst hrest =>
      have hlooked : Fqdn.normalize r.name.text = Fqdn.normalize q.name.text :=
        (Wire.normalize_text_of_lower_eq hfirst.name (hnames q rfl r rfl)).symm
      have hsame : answerQuestion service client r.name r.kind =
          answerQuestion service client q.name q.kind := by
        rw [← hfirst.kind]
        exact answerQuestion_congr hlooked q.kind
      simp only [Resolution.bind_apply, hsame]
      cases (answerQuestion service client q.name q.kind outside).1 with
      | error code => rfl
      | ok records =>
        simp only [answerReply]
        cases Wire.answersOf records with
        | error fault => rfl
        | ok answers => rfl
  · rw [if_pos hop, if_pos hop]
    rfl

theorem handleDatagram_of_caseVariant (hdecode : Wire.decode? bytes = some request)
    (hother : Wire.decode? otherBytes = some other)
    (hrequest : request.header.isResponse = false) (hcase : request.CaseVariant other)
    (hnames : request.ReadAlike other) :
    (handleDatagram service client bytes outside).2 =
      (handleDatagram service client otherBytes outside).2 := by
  have hotherRequest : other.header.isResponse = false := hcase.header ▸ hrequest
  rw [handleDatagram_of_request hdecode hrequest, handleDatagram_of_request hother hotherRequest,
    respond_of_caseVariant hcase hnames]

/-- The same service, whose source and delegate also write down what they are asked. -/
def Service.observed (service : Service ρ δ) : Service (ρ × List Nat) (δ × List DelegateCall) where
  answers := service.answers
  defaultTtl := service.defaultTtl
  source := service.source.recorded
  delegate := service.delegate.recorded

/-! ## Two replies -/

theorem respond_keeps (service : Service ρ δ) (client : Ip) (request : Wire.Message)
    (outside : Resolution.Outside ρ δ) :
    (respond service client request outside).1.questions = request.questions ∧
      (respond service client request outside).1.header.code.val < 16 := by
  obtain ⟨code, records, after, answers, houtcome, -, hrespond⟩ :=
    outcome_of_respond service client request outside
  rw [hrespond]
  exact ⟨rfl, houtcome.code_lt⟩

theorem handleDatagram_eq_none_iff_of_request (hdecode : Wire.decode? bytes = some request)
    (hrequest : request.header.isResponse = false) :
    (handleDatagram service client bytes outside).1 = none ↔ ¬ Rewritable request := by
  rw [handleDatagram_eq_none_iff]
  constructor
  · intro hall
    refine (hall request hdecode).resolve_left ?_
    rw [hrequest]
    exact Bool.false_ne_true
  · intro hlost found hfound
    obtain rfl := Option.some.inj (hdecode.symm.trans hfound)
    exact Or.inr hlost

/-- Whichever reply is sent, it repeats the questions. -/
theorem questions_of_delivered {m : Wire.Message} {full : List UInt8}
    (h : m.questions = request.questions) :
    (if full.length ≤ maxDatagram then m else truncatedReply request).questions =
      request.questions := by
  split
  · exact h
  · rfl

/-- What is read from the replies to two case variants differs in the letters of the
questions only, if both full replies have room in a datagram or neither has. -/
theorem replies_of_caseVariant (hdecode : Wire.decode? bytes = some request)
    (hother : Wire.decode? otherBytes = some other)
    (hrequest : request.header.isResponse = false) (hcase : request.CaseVariant other)
    (hnames : request.ReadAlike other) (hwritten : Rewritable request)
    (hotherWritten : Rewritable other) (service : Service ρ δ) (client : Ip)
    (outside : Resolution.Outside ρ δ) :
    ∃ full otherFull reply otherReply m otherM,
      Wire.encode? (respond service client request outside).1 = some full ∧
      Wire.encode? (respond service client other outside).1 = some otherFull ∧
      (handleDatagram service client bytes outside).1 = some reply ∧
      (handleDatagram service client otherBytes outside).1 = some otherReply ∧
      Wire.decode? reply = some m ∧ Wire.decode? otherReply = some otherM ∧
      List.Forall₂ Wire.Question.CaseVariant m.questions otherM.questions ∧
      ((full.length ≤ 512 ↔ otherFull.length ≤ 512) →
        m.header = otherM.header ∧ m.answers = otherM.answers) := by
  have hotherRequest : other.header.isResponse = false := hcase.header ▸ hrequest
  obtain ⟨hquestions, hcode⟩ := respond_keeps service client request outside
  obtain ⟨hotherQuestions, hotherCode⟩ := respond_keeps service client other outside
  obtain ⟨reply, hreply, full, hfull, hread⟩ := hwritten.delivers hquestions hcode
  obtain ⟨otherReply, hotherReply, otherFull, hotherFull, hotherRead⟩ :=
    hotherWritten.delivers hotherQuestions hotherCode
  refine ⟨full, otherFull, reply, otherReply, _, _, hfull, hotherFull, ?_, ?_, hread, hotherRead,
    ?_, fun hroom => ?_⟩
  · rw [handleDatagram_of_request hdecode hrequest, hreply]
  · rw [handleDatagram_of_request hother hotherRequest, hotherReply]
  · rw [questions_of_delivered hquestions, questions_of_delivered hotherQuestions]
    exact hcase.questions
  · have hlimit : maxDatagram = 512 := rfl
    rw [hlimit]
    by_cases hshort : full.length ≤ 512
    · rw [if_pos hshort, if_pos (hroom.1 hshort), respond_of_caseVariant hcase hnames]
      exact ⟨rfl, rfl⟩
    · rw [if_neg hshort, if_neg (mt hroom.2 hshort)]
      exact ⟨by rw [truncatedReply, truncatedReply, errorReply, errorReply, hcase.header], rfl⟩

/-- Letter case in the questions makes no difference to what is drawn and asked, nor to the
reply, the letters of its questions aside.  Either request is replied to exactly if it can
be written again, as every request of up to 252 questions can. -/
theorem letter_case_ignored (hdecode : Wire.decode? bytes = some request)
    (hother : Wire.decode? otherBytes = some other)
    (hrequest : request.header.isResponse = false) (hcase : request.CaseVariant other)
    (hnames : request.ReadAlike other) (service : Service ρ δ) (client : Ip) :
    (∀ seen, (handleDatagram service.observed client bytes seen).2 =
        (handleDatagram service.observed client otherBytes seen).2) ∧
      (request.questions.length ≤ 252 → Rewritable request ∧ Rewritable other) ∧
      ∀ outside,
        ((handleDatagram service client bytes outside).1 = none ↔ ¬ Rewritable request) ∧
        ((handleDatagram service client otherBytes outside).1 = none ↔ ¬ Rewritable other) ∧
        (Rewritable request → Rewritable other →
          ∃ full otherFull reply otherReply m otherM,
            Wire.encode? (respond service client request outside).1 = some full ∧
            Wire.encode? (respond service client other outside).1 = some otherFull ∧
            (handleDatagram service client bytes outside).1 = some reply ∧
            (handleDatagram service client otherBytes outside).1 = some otherReply ∧
            Wire.decode? reply = some m ∧ Wire.decode? otherReply = some otherM ∧
            List.Forall₂ Wire.Question.CaseVariant m.questions otherM.questions ∧
            ((full.length ≤ 512 ↔ otherFull.length ≤ 512) →
              m.header = otherM.header ∧ m.answers = otherM.answers)) := by
  have hotherRequest : other.header.isResponse = false := hcase.header ▸ hrequest
  refine ⟨fun seen => ?_, fun hfew => ?_, fun outside => ⟨?_, ?_, ?_⟩⟩
  · exact handleDatagram_of_caseVariant hdecode hother hrequest hcase hnames
  · have hlength : request.questions.length = other.questions.length := hcase.questions.length_eq
    exact ⟨rewritable_of_length_le hfew, rewritable_of_length_le (hlength ▸ hfew)⟩
  · exact handleDatagram_eq_none_iff_of_request hdecode hrequest
  · exact handleDatagram_eq_none_iff_of_request hother hotherRequest
  · intro hwritten hotherWritten
    exact replies_of_caseVariant hdecode hother hrequest hcase hnames hwritten hotherWritten
      service client outside

/-! ## A lamp in capitals -/

def capitalQuestion : Wire.Question where
  name := ⟨[⟨[65], by decide, by decide⟩], by decide⟩
  kind := RecordKind.a.code
  cls := Wire.classInternet

/-- The request for the lamp, with its name in capitals. -/
def capitalBytes : List UInt8 :=
  [0, 7, 1, 0, 0, 1, 0, 0, 0, 0, 0, 0, 1, 65, 0, 0, 1, 0, 1]

def smallRequest : Wire.Message :=
  (lampRequest 7 true lampQuestion.spelled).message

def capitalRequest : Wire.Message :=
  { smallRequest with questions := [capitalQuestion] }

/-- Both replies have the address of the lamp, though the one to the capital spells the
name of its answer out and is longer by a byte. -/
theorem capital_lamp_served :
    Wire.decode? spelledBytes = some smallRequest ∧
      Wire.decode? capitalBytes = some capitalRequest ∧
      smallRequest.CaseVariant capitalRequest ∧ smallRequest.ReadAlike capitalRequest ∧
      ∃ reply otherReply m otherM,
        (handleDatagram lamps (.v4 ⟨10, 0, 0, 1⟩) spelledBytes
          { random := (), delegate := () }).1 = some reply ∧
        (handleDatagram lamps (.v4 ⟨10, 0, 0, 1⟩) capitalBytes
          { random := (), delegate := () }).1 = some otherReply ∧
        Wire.decode? reply = some m ∧ Wire.decode? otherReply = some otherM ∧
        m.header = otherM.header ∧ m.answers = otherM.answers := by
  have hdecode : Wire.decode? spelledBytes = some smallRequest := by cbv
  have hother : Wire.decode? capitalBytes = some capitalRequest := by cbv
  have hcase : smallRequest.CaseVariant capitalRequest :=
    ⟨rfl, List.Forall₂.cons ⟨by decide, rfl, rfl⟩ List.Forall₂.nil⟩
  have hread : smallRequest.ReadAlike capitalRequest := by
    rintro q hq r hr
    obtain rfl := Option.some.inj hq
    obtain rfl := Option.some.inj hr
    exact Wire.Name.ReadAlike.of_not_isPunycode (by decide) plain_lampQuestion
  obtain ⟨-, hfew, hreplies⟩ :=
    letter_case_ignored hdecode hother rfl hcase hread lamps (.v4 ⟨10, 0, 0, 1⟩)
  obtain ⟨hwritten, hotherWritten⟩ := hfew (by decide)
  obtain ⟨-, -, hboth⟩ := hreplies { random := (), delegate := () }
  obtain ⟨full, otherFull, reply, otherReply, m, otherM, hfull, hotherFull, hreply, hotherReply,
    hm, hotherM, -, hsame⟩ := hboth hwritten hotherWritten
  have hlengths : ((Wire.encode? (respond lamps (.v4 ⟨10, 0, 0, 1⟩) smallRequest
        { random := (), delegate := () }).1).map List.length,
      (Wire.encode? (respond lamps (.v4 ⟨10, 0, 0, 1⟩) capitalRequest
        { random := (), delegate := () }).1).map List.length) = (some 35, some 36) := by
    decide +kernel
  rw [hfull, hotherFull] at hlengths
  simp only [Option.map_some, Prod.mk.injEq, Option.some.injEq] at hlengths
  obtain ⟨hheader, hanswers⟩ := hsame (by omega)
  exact ⟨hdecode, hother, hcase, hread, reply, otherReply, m, otherM, hreply, hotherReply, hm,
    hotherM, hheader, hanswers⟩

/-! ## Capitals in the mark of Punycode -/

/-- The name of Munich with its mark of Punycode in capitals. -/
def capitalMunich : Wire.Name where
  labels :=
    [⟨[88, 78, 45, 45, 109, 110, 99, 104, 101, 110, 45, 51, 121, 97], by decide, by decide⟩,
      Wire.exampleLabel]
  size_le := by decide

def capitalMunichBytes : List UInt8 :=
  [0, 7, 1, 0, 0, 1, 0, 0, 0, 0, 0, 0,
    14, 88, 78, 45, 45, 109, 110, 99, 104, 101, 110, 45, 51, 121, 97,
    7, 101, 120, 97, 109, 112, 108, 101, 0, 0, 1, 0, 1]

theorem decode?_capitalMunichBytes :
    Wire.decode? capitalMunichBytes = some (questionFor capitalMunich) := by
  cbv

def munichAnswer : Wire.Answer :=
  { name := Wire.munich, ttl := 60, data := .address ⟨10, 0, 0, 7⟩ }

theorem respond_capitalMunich :
    respond munichService (.v4 ⟨10, 0, 0, 1⟩) (questionFor capitalMunich)
        { random := (), delegate := () } =
      ({ errorReply (questionFor capitalMunich) Wire.ResponseCode.noError with
          answers := [munichAnswer] }, { random := (), delegate := () }) := by
  have htext : capitalMunich.text = "XN--mnchen-3ya.example." := by decide +kernel
  have hquery : munichService.query (.v4 ⟨10, 0, 0, 1⟩) "XN--mnchen-3ya.example."
        { random := (), delegate := () } =
      (.ok [Record.address "xn--mnchen-3ya.example." 60 ⟨10, 0, 0, 7⟩],
        { random := (), delegate := () }) := by
    rfl
  have hanswers :
      Wire.answersOf [Record.address "xn--mnchen-3ya.example." 60 ⟨10, 0, 0, 7⟩] =
        .ok [munichAnswer] := by
    decide +kernel
  rw [← htext] at hquery
  exact respond_of_found (asksFor_questionFor capitalMunich) hquery hanswers

/-- A name in Punycode is found if its mark is in capitals, and not if it is in small
letters. -/
theorem capital_mark_found :
    Answers.ofText munichText = .ok munichService.answers ∧
      Wire.decode? munichBytes = some (questionFor Wire.munich) ∧
      Wire.decode? capitalMunichBytes = some (questionFor capitalMunich) ∧
      (questionFor Wire.munich).CaseVariant (questionFor capitalMunich) ∧
      ∃ full otherFull reply otherReply m otherM,
        Wire.encode? (respond munichService (.v4 ⟨10, 0, 0, 1⟩) (questionFor Wire.munich)
          { random := (), delegate := () }).1 = some full ∧
        Wire.encode? (respond munichService (.v4 ⟨10, 0, 0, 1⟩) (questionFor capitalMunich)
          { random := (), delegate := () }).1 = some otherFull ∧
        full.length ≤ 512 ∧ otherFull.length ≤ 512 ∧
        (handleDatagram munichService (.v4 ⟨10, 0, 0, 1⟩) munichBytes
          { random := (), delegate := () }).1 = some reply ∧
        (handleDatagram munichService (.v4 ⟨10, 0, 0, 1⟩) capitalMunichBytes
          { random := (), delegate := () }).1 = some otherReply ∧
        Wire.decode? reply = some m ∧ Wire.decode? otherReply = some otherM ∧
        m.header.code = Wire.ResponseCode.serverFailure ∧ m.answers = [] ∧
        otherM.header.code = Wire.ResponseCode.noError ∧ otherM.answers = [munichAnswer] := by
  have hcase : (questionFor Wire.munich).CaseVariant (questionFor capitalMunich) :=
    ⟨rfl, List.Forall₂.cons ⟨by decide, rfl, rfl⟩ List.Forall₂.nil⟩
  have hsmall : respond munichService (.v4 ⟨10, 0, 0, 1⟩) (questionFor Wire.munich)
        { random := (), delegate := () } =
      (errorReply (questionFor Wire.munich) Wire.ResponseCode.serverFailure,
        { random := (), delegate := () }) :=
    respond_of_fault (asksFor_questionFor Wire.munich)
      (query_of_silent (Tier.silent_empty _) munich_silent)
  obtain ⟨reply, hreply, full, hfull, hread⟩ :=
    delivers_of_respond decode?_munichBytes (asksFor_questionFor Wire.munich) hsmall rfl
      Wire.ResponseCode.serverFailure_lt
  obtain ⟨otherReply, hotherReply, otherFull, hotherFull, hotherRead⟩ :=
    delivers_of_respond decode?_capitalMunichBytes (asksFor_questionFor capitalMunich)
      respond_capitalMunich rfl Wire.ResponseCode.noError_lt
  have hlength : full.length ≤ maxDatagram :=
    Wire.length_le_of_few_questions rfl (by decide) hfull
  have hotherLength : some otherFull.length = some 71 := by
    rw [← Option.map_some, ← hotherFull]
    decide +kernel
  have hotherShort : otherFull.length ≤ maxDatagram := by
    rw [Option.some.inj hotherLength]
    decide
  rw [if_pos hlength] at hread
  rw [if_pos hotherShort] at hotherRead
  refine ⟨munichText_loads, decode?_munichBytes, decode?_capitalMunichBytes, hcase, full,
    otherFull, reply, otherReply, _, _, ?_, ?_, hlength, hotherShort, congrArg Prod.fst hreply,
    congrArg Prod.fst hotherReply, hread, hotherRead, rfl, rfl, rfl, rfl⟩
  · rw [hsmall, hfull]
  · rw [respond_capitalMunich, hotherFull]

end Server
end SplitHorizon
