/-
Datagrams and streams compared.

A request may come either way, and is put together and written by different code on
each.  What is decided is the same: both look up one name, since lowering its letters
changes nothing about it unless a label is in Punycode, and both ask the delegate the
same questions.

What is sent is the same where the datagram has all of it.  A stream repeats the
question section as it came, though.  A name that is shortened there by pointing into
the header of the request points into the header of the reply afterwards, and the
reply may be unreadable.
-/
import SplitHorizon.Proofs.Server.Datagrams
import SplitHorizon.Proofs.Resolution.Unwinding
import SplitHorizon.Proofs.Wire.Behind
import SplitHorizon.Proofs.Wire.CaseVariants
import SplitHorizon.Server.Stream

namespace SplitHorizon

theorem Resolution.resolve_congr {ρ δ : Type} (r : Resolution ρ δ) {name other : String}
    (h : Fqdn.normalize name = Fqdn.normalize other) (chain : AliasChain) :
    r.resolve name chain = r.resolve other chain := by
  rw [resolve, resolve, h]

namespace Server

variable {ρ δ : Type} {service : Service ρ δ} {client : Ip} {request : Wire.Message}
  {q : Wire.Question} {bytes : List UInt8} {received : Wire.Received}
  {outside after : Resolution.Outside ρ δ}

/-! ## One question -/

/-- A question is answered by the normal form of its name. -/
theorem answerQuestion_congr {name other : Wire.Name}
    (h : Fqdn.normalize name.text = Fqdn.normalize other.text) (kind : UInt16) :
    answerQuestion service client name kind = answerQuestion service client other kind := by
  have hresolve := Resolution.resolve_congr (service.resolution (ClientKey.ofIp client)) h
    AliasChain.empty
  funext outside
  rw [answerQuestion, answerQuestion]
  cases RecordKind.ofCode? kind with
  | none => rfl
  | some _ =>
    simp only [Resolution.bind_apply, Service.query, hresolve]
    -- The fault holds the name as it was asked for, but it ends in the same code.
    cases ((service.resolution (ClientKey.ofIp client)).resolve other.text
      AliasChain.empty outside).1 with
    | none => rfl
    | some records =>
      cases records with
      | nil => rfl
      | cons first rest => rfl

/-- The name of the question has no label in Punycode. -/
def Plain (q : Wire.Question) : Prop :=
  ∀ label ∈ q.name.labels, ¬ label.IsPunycode

/-- What is decided about a request with one plain question does not depend on the way
it came. -/
theorem respond_eq_fullReply (hquestion : request.questions = [q]) (hplain : Plain q) :
    respond service client request outside =
      (fullReply request (streamAnswers service client request outside).1.1
          (streamAnswers service client request outside).1.2,
        (streamAnswers service client request outside).2) := by
  have hsame : answerQuestion service client q.name.lower q.kind =
      answerQuestion service client q.name q.kind :=
    answerQuestion_congr (Wire.normalize_text_lower hplain) q.kind
  unfold respond streamAnswers
  by_cases hop : request.header.opcode = Wire.Opcode.query
  · rw [if_neg (not_not_intro hop), if_neg (not_not_intro hop), hquestion]
    simp only [Resolution.bind_apply, hsame]
    cases (answerQuestion service client q.name q.kind outside).1 with
    | error code => rfl
    | ok records =>
      simp only [answerReply]
      cases Wire.answersOf records with
      | error fault => rfl
      | ok answers => rfl
  · rw [if_pos hop, if_pos hop]
    rfl

theorem streamAnswers_of_respond {code : Wire.ResponseCode} {answers : List Wire.Answer}
    (hquestion : request.questions = [q]) (hplain : Plain q)
    (hrespond : respond service client request outside = (fullReply request code answers, after)) :
    streamAnswers service client request outside = ((code, answers), after) := by
  rw [respond_eq_fullReply hquestion hplain] at hrespond
  obtain ⟨hreply, hafter⟩ := Prod.mk.inj hrespond
  have hcode : (streamAnswers service client request outside).1.1 = code :=
    congrArg (fun m : Wire.Message => m.header.code) hreply
  have hanswers : (streamAnswers service client request outside).1.2 = answers :=
    congrArg Wire.Message.answers hreply
  exact Prod.ext (Prod.ext hcode hanswers) hafter

theorem handleStream_of_receive (sendFails : Bool)
    (hreceive : Wire.receive? bytes = some received) :
    handleStream service client sendFails bytes outside =
      (some (streamOutcome received sendFails
          (streamAnswers service client received.message outside).1.1
          (streamAnswers service client received.message outside).1.2),
        (streamAnswers service client received.message outside).2) := by
  rw [handleStream, hreceive]
  rfl

/-- What is outside after a request does not depend on the way it came. -/
theorem outside_eq (hreceive : Wire.receive? bytes = some received)
    (hrequest : received.message.header.isResponse = false)
    (hquestion : received.message.questions = [q]) (hplain : Plain q) :
    (handleDatagram service client bytes outside).2 =
      (handleStream service client false bytes outside).2 := by
  rw [handleDatagram_of_request (Wire.decode?_of_receive? hreceive) hrequest,
    respond_eq_fullReply hquestion hplain, handleStream_of_receive false hreceive]

/-- The same service, whose delegate also writes down what it was asked. -/
def Service.recorded (service : Service ρ δ) : Service ρ (δ × List DelegateCall) where
  answers := service.answers
  defaultTtl := service.defaultTtl
  source := service.source
  delegate := service.delegate.recorded

/-! ## Replies -/

/-- The two replies say the same to whoever asked. -/
structure SameReply (m other : Wire.Message) : Prop where
  id : m.header.id = other.header.id
  opcode : m.header.opcode = other.header.opcode
  recursionDesired : m.header.recursionDesired = other.header.recursionDesired
  authoritative : m.header.authoritative = other.header.authoritative
  recursionAvailable : m.header.recursionAvailable = other.header.recursionAvailable
  code : m.header.code = other.header.code
  questions : m.questions = other.questions
  answers : m.answers = other.answers

/-- The reply over a stream: the answers in front, as many as it has room for. -/
structure StreamsTo (request : Wire.Message) (q : Wire.Question) (code : Wire.ResponseCode)
    (answers : List Wire.Answer) (bytes : List UInt8) (m : Wire.Message) : Prop where
  decode : Wire.decode? bytes = some m
  repliesTo : RepliesTo m request
  code : m.header.code = code
  inFront : ∃ count, m.answers = answers.take count ∧
    m.header.truncated = decide (count < answers.length) ∧
    ∀ a, answers[count]? = some a → 65535 < bytes.length + a.size
  complete : Wire.Header.size + q.spelled.length + Wire.answersSize answers ≤ 65535 →
    m.answers = answers ∧ m.header.truncated = false

theorem streamsTo_streamOutcome {code : Wire.ResponseCode} {answers : List Wire.Answer}
    (hquestion : received.message.questions = [q]) (hspelled : received.questionBytes = q.spelled)
    (hcode : code.val < 16) :
    ∃ reply m, (streamOutcome received false code answers).reply = some reply ∧
      StreamsTo received.message q code answers reply m := by
  obtain ⟨encoded, hencoded, hbehind⟩ :=
    Wire.behind_encodeBehind? (streamHeader received.message.header code) q answers
  refine ⟨encoded.bytes, _, ?_, ⟨hbehind.decode, ?_, ?_, ?_, ?_⟩⟩
  · simp only [streamOutcome, hquestion, hspelled, List.length_singleton, hencoded]
    rfl
  · exact ⟨rfl, rfl, rfl, hquestion.symm, rfl, rfl, rfl⟩
  · exact Wire.ResponseCode.inHeader_of_lt hcode
  · exact ⟨encoded.answerCount, rfl, Bool.false_or _, hbehind.full⟩
  · intro hfits
    have hcount := hbehind.complete hfits
    simp [hcount, streamHeader, replyHeader]

theorem Outcome.code_of_records {code : Wire.ResponseCode} {records : List Record}
    (h : Outcome service client request outside code records after) (hne : records ≠ []) :
    code = Wire.ResponseCode.noError := by
  cases h with
  | answered => rfl
  | _ => exact absurd rfl hne

/-- A reply that does not fit into a datagram has answers. -/
theorem answers_ne_nil_of_long {code : Wire.ResponseCode} {answers : List Wire.Answer}
    {full : List UInt8} (hquestion : request.questions = [q])
    (hfull : Wire.encode? (fullReply request code answers) = some full)
    (hlong : ¬ full.length ≤ maxDatagram) : answers ≠ [] := by
  intro hnil
  have hfew : (fullReply request code answers).questions.length ≤ 1 :=
    Nat.le_of_eq (congrArg List.length hquestion)
  exact hlong (Wire.length_le_of_few_questions hnil hfew hfull)

/-- A plain request comes to the same over either way.  If its question is spelled out,
the stream sends what the datagram sends, or as much as it can of what the datagram had
no room for. -/
theorem stream_agrees_with_datagram (hreceive : Wire.receive? bytes = some received)
    (hrequest : received.message.header.isResponse = false)
    (hquestion : received.message.questions = [q]) (hplain : Plain q)
    (service : Service ρ δ) (client : Ip) (outside : Resolution.Outside ρ δ) :
    Resolution.callsOf (handleDatagram service.recorded client bytes) outside =
        Resolution.callsOf (handleStream service.recorded client false bytes) outside ∧
      ∃ code records after answers udp m outcome,
        Outcome service client received.message outside code records after ∧
        List.Forall₂ (fun r a => Wire.Answer.Carries a r) records answers ∧
        handleDatagram service client bytes outside = (some udp, after) ∧
        handleStream service client false bytes outside = (some outcome, after) ∧
        Wire.decode? udp = some m ∧
        (received.questionBytes = q.spelled →
          ∃ tcp other, outcome.reply = some tcp ∧
            StreamsTo received.message q code answers tcp other ∧
            (m.header.truncated = false → SameReply m other ∧ other.header.truncated = false) ∧
            (m.header.truncated = true → other.header.code = Wire.ResponseCode.noError)) := by
  have hcalls : Resolution.callsOf (handleDatagram service.recorded client bytes) outside =
      Resolution.callsOf (handleStream service.recorded client false bytes) outside := by
    unfold Resolution.callsOf
    rw [outside_eq hreceive hrequest hquestion hplain]
  refine ⟨hcalls, ?_⟩
  obtain ⟨code, records, after, answers, houtcome, hcarried, hrespond⟩ :=
    outcome_of_respond service client received.message outside
  obtain ⟨udp, hudp, full, hfull, hread⟩ :=
    @Rewritable.delivers _ (fullReply received.message code answers)
      (rewritable_of_single hquestion) rfl houtcome.code_lt
  have hdecided := streamAnswers_of_respond hquestion hplain hrespond
  refine ⟨code, records, after, answers, udp, _, streamOutcome received false code answers,
    houtcome, hcarried, ?_, ?_, hread, fun hspelled => ?_⟩
  · rw [handleDatagram_of_request (Wire.decode?_of_receive? hreceive) hrequest, hrespond]
    exact Prod.ext hudp rfl
  · rw [handleStream_of_receive false hreceive, hdecided]
  · obtain ⟨tcp, other, htcp, hstreams⟩ :=
      @streamsTo_streamOutcome _ _ code answers hquestion hspelled houtcome.code_lt
    refine ⟨tcp, other, htcp, hstreams, ?_⟩
    by_cases hshort : full.length ≤ maxDatagram
    · rw [if_pos hshort]
      obtain ⟨hall, htruncated⟩ := hstreams.complete (Wire.fits_of_short q hfull hshort)
      refine ⟨fun _ => ⟨?_, htruncated⟩, fun h => Bool.noConfusion h⟩
      have hreplies := hstreams.repliesTo
      exact ⟨hreplies.id.symm, hreplies.opcode.symm, hreplies.recursionDesired.symm,
        hreplies.authoritative.symm, hreplies.recursionAvailable.symm, hstreams.code.symm,
        hreplies.questions.symm, hall.symm⟩
    · rw [if_neg hshort]
      refine ⟨fun h => Bool.noConfusion h, fun _ => ?_⟩
      have hanswers := answers_ne_nil_of_long hquestion hfull hshort
      have hrecords : records ≠ [] := by
        rintro rfl
        exact hanswers (List.forall₂_nil_left_iff.1 hcarried)
      rw [hstreams.code, houtcome.code_of_records hrecords]

/-! ## A lamp -/

def lampName : Wire.Name :=
  ⟨[⟨[97], by decide, by decide⟩], by decide⟩

def lampQuestion : Wire.Question :=
  { name := lampName, kind := RecordKind.a.code, cls := Wire.classInternet }

def lamps : Service Unit Unit where
  answers :=
    { clients := []
      default := some
        { resolvers := []
          addresses := [("a.", { ttl := some 60, addresses := [⟨10, 0, 0, 7⟩] })]
          aliases := [] } }
  defaultTtl := 300
  source := IndexSource.still
  delegate := Delegate.canned []

/-- A request for the addresses of the lamp, its question section left open. -/
def lampRequest (id : UInt16) (recursionDesired : Bool) (questionBytes : List UInt8) :
    Wire.Received where
  message :=
    { header :=
        { id := id, isResponse := false, opcode := Wire.Opcode.query, authoritative := false
          truncated := false, recursionDesired := recursionDesired, recursionAvailable := false
          checkingDisabled := false, code := Wire.ResponseCode.noError }
      questions := [lampQuestion]
      answers := [] }
  questionBytes := questionBytes
  announcedAnswers := 0

/-- The name of the question is spelled out. -/
def spelledBytes : List UInt8 :=
  [0, 7, 1, 0, 0, 1, 0, 0, 0, 0, 0, 0, 1, 97, 0, 0, 1, 0, 1]

/-- The name of the question points to the front of the header, where the number of the
request and its first flags read as a name. -/
def pointedBytes : List UInt8 :=
  [1, 97, 0, 0, 0, 1, 0, 0, 0, 0, 0, 0, 192, 0, 0, 1, 0, 1]

theorem plain_lampQuestion : Plain lampQuestion := by
  intro label hlabel
  obtain rfl := List.mem_singleton.1 hlabel
  unfold Wire.Label.IsPunycode
  decide

/-- The lamp's reply as a datagram, behind the number and the flags of the request. -/
def lampDatagram (number : List UInt8) (flags : UInt8) : List UInt8 :=
  number ++ [flags, 128, 0, 1, 0, 1, 0, 0, 0, 0, 1, 97, 0, 0, 1, 0, 1,
    192, 12, 0, 1, 0, 1, 0, 0, 0, 60, 0, 4, 10, 0, 0, 7]

def lampAnswer : Wire.Answer :=
  { name := lampName, ttl := 60, data := .address ⟨10, 0, 0, 7⟩ }

theorem lamp_agrees :
    Wire.receive? spelledBytes = some (lampRequest 7 true lampQuestion.spelled) ∧
      Plain lampQuestion ∧
      ∃ udp m outcome tcp other,
        (handleDatagram lamps (.v4 ⟨10, 0, 0, 1⟩) spelledBytes
          { random := (), delegate := () }).1 = some udp ∧
        Wire.decode? udp = some m ∧ m.header.truncated = false ∧ m.answers = [lampAnswer] ∧
        (handleStream lamps (.v4 ⟨10, 0, 0, 1⟩) false spelledBytes
          { random := (), delegate := () }).1 = some outcome ∧
        outcome.reply = some tcp ∧ Wire.decode? tcp = some other ∧ SameReply m other := by
  have hreceive : Wire.receive? spelledBytes = some (lampRequest 7 true lampQuestion.spelled) := by
    cbv
  have hreply : replyBytes? (lampRequest 7 true lampQuestion.spelled).message
      (respond lamps (.v4 ⟨10, 0, 0, 1⟩) (lampRequest 7 true lampQuestion.spelled).message
        { random := (), delegate := () }).1 = some (lampDatagram [0, 7] 133) := by
    decide +kernel
  have hread : (Wire.decode? (lampDatagram [0, 7] 133)).map
      (fun m => (m.header.truncated, m.answers)) = some (false, [lampAnswer]) := by
    cbv
  obtain ⟨-, code, records, after, answers, udp, m, outcome, -, -, hudp, houtcome, hm, hstream⟩ :=
    stream_agrees_with_datagram hreceive rfl rfl plain_lampQuestion lamps (.v4 ⟨10, 0, 0, 1⟩)
      { random := (), delegate := () }
  obtain ⟨tcp, other, htcp, hother, hsame, -⟩ := hstream rfl
  have hudp' := congrArg Prod.fst hudp
  rw [handleDatagram_of_request (Wire.decode?_of_receive? hreceive) rfl, hreply] at hudp'
  obtain rfl := Option.some.inj hudp'
  rw [hm] at hread
  obtain ⟨hwhole, hanswers⟩ := Prod.mk.inj (Option.some.inj hread)
  exact ⟨hreceive, plain_lampQuestion, _, m, outcome, tcp, other, congrArg Prod.fst hudp, hm,
    hwhole, hanswers, congrArg Prod.fst houtcome, htcp, hother.decode, (hsame hwhole).1⟩

/-- Over a datagram the pointed name is spelled out again; over a stream it points to the
flags of the reply, which are no name. -/
theorem pointed_question_unreadable :
    Wire.receive? pointedBytes = some (lampRequest 0x0161 false [192, 0, 0, 1, 0, 1]) ∧
      Plain lampQuestion ∧
      ∃ udp m outcome tcp,
        (handleDatagram lamps (.v4 ⟨10, 0, 0, 1⟩) pointedBytes
          { random := (), delegate := () }).1 = some udp ∧
        Wire.decode? udp = some m ∧ m.header.truncated = false ∧ m.answers = [lampAnswer] ∧
        (handleStream lamps (.v4 ⟨10, 0, 0, 1⟩) false pointedBytes
          { random := (), delegate := () }).1 = some outcome ∧
        outcome.reply = some tcp ∧ Wire.decode? tcp = none := by
  have hreceive : Wire.receive? pointedBytes =
      some (lampRequest 0x0161 false [192, 0, 0, 1, 0, 1]) := by
    cbv
  have hreply : replyBytes? (lampRequest 0x0161 false [192, 0, 0, 1, 0, 1]).message
      (respond lamps (.v4 ⟨10, 0, 0, 1⟩) (lampRequest 0x0161 false [192, 0, 0, 1, 0, 1]).message
        { random := (), delegate := () }).1 = some (lampDatagram [1, 97] 132) := by
    decide +kernel
  have hread : (Wire.decode? (lampDatagram [1, 97] 132)).map
      (fun m => (m.header.truncated, m.answers)) = some (false, [lampAnswer]) := by
    cbv
  have hanswers : (streamAnswers lamps (.v4 ⟨10, 0, 0, 1⟩)
      (lampRequest 0x0161 false [192, 0, 0, 1, 0, 1]).message
      { random := (), delegate := () }).1 = (Wire.ResponseCode.noError, [lampAnswer]) := by
    decide +kernel
  have hstream : (streamOutcome (lampRequest 0x0161 false [192, 0, 0, 1, 0, 1]) false
      Wire.ResponseCode.noError [lampAnswer]).reply =
        some [1, 97, 132, 128, 0, 1, 0, 1, 0, 0, 0, 0, 192, 0, 0, 1, 0, 1,
          1, 97, 0, 0, 1, 0, 1, 0, 0, 0, 60, 0, 4, 10, 0, 0, 7] := by
    decide +kernel
  have hlost : Wire.decode? [1, 97, 132, 128, 0, 1, 0, 1, 0, 0, 0, 0, 192, 0, 0, 1, 0, 1,
      1, 97, 0, 0, 1, 0, 1, 0, 0, 0, 60, 0, 4, 10, 0, 0, 7] = none := by
    cbv
  obtain ⟨m, hm, hsame⟩ := Option.map_eq_some_iff.1 hread
  obtain ⟨htruncated, hcarried⟩ := Prod.mk.inj hsame
  refine ⟨hreceive, plain_lampQuestion, _, m, _, _, ?_, hm, htruncated, hcarried, ?_, hstream,
    hlost⟩
  · rw [handleDatagram_of_request (Wire.decode?_of_receive? hreceive) rfl]
    exact hreply
  · rw [handleStream_of_receive false hreceive, hanswers]

end Server
end SplitHorizon
