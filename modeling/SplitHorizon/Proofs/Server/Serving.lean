/-
Configured addresses over datagrams.

A question for a configured name passes the reader of messages, the text of the
name, the normal form of that text, the tiers, the shuffle and the writer of
messages before it becomes a reply.  Here the ways of the name and of the record are
put together.

Names are stored under the normal form of their spelling, and looked up under the
normal form of the text that the labels on the wire have.  Where these two agree,
the record is served.  Where they do not, as for a label in Punycode, which the text
spells in other characters, the question goes astray (`punycode_name_fails`).
-/
import Mathlib.Data.List.Perm.Basic
import SplitHorizon.Proofs.Answers.Loading
import SplitHorizon.Proofs.Resolution.Direct
import SplitHorizon.Proofs.Wire.PlainNames
import SplitHorizon.Proofs.Wire.RoundTrip
import SplitHorizon.Server.Datagram

namespace SplitHorizon

/-! ## Answers of records -/

namespace Wire

/-- Records in another order have the same answers in another order. -/
theorem answersOf_of_perm {records found : List Record} {answers : List Answer}
    (hperm : found.Perm records) (h : answersOf records = .ok answers) :
    ∃ arranged, answersOf found = .ok arranged ∧ arranged.Perm answers := by
  obtain ⟨arranged, hfound, harranged⟩ := List.perm_comp_forall₂ hperm (mapM_eq_ok_iff.1 h)
  exact ⟨arranged, mapM_eq_ok_iff.2 hfound, harranged⟩

theorem answersOf_records {entry : AddressEntry} {name : String} {owner : Name}
    (h : Name.parse? name = some owner) (defaultTtl : UInt32) :
    answersOf (entry.records name defaultTtl) =
      .ok (entry.addresses.map fun ip =>
        { name := owner, ttl := entry.ttlOr defaultTtl, data := .address ip }) := by
  refine mapM_eq_ok_iff.2 ?_
  rw [AddressEntry.records, List.forall₂_map_left_iff, List.forall₂_map_right_iff,
    List.forall₂_same]
  intro ip _
  simp only [Answer.ofRecord, Record.address, nameOf, h]
  rfl

/-- A message without answers is no longer than its header and questions may be. -/
theorem length_le_of_encode? {m : Message} {bytes : List UInt8} (hanswers : m.answers = [])
    (h : encode? m = some bytes) :
    bytes.length ≤ Header.size + m.questions.length * maxQuestionSize := by
  obtain ⟨questions, hquestions, hbytes⟩ := length_of_encode? h
  have hlength := length_le_of_writeQuestions hquestions
  rw [hanswers, writeAnswers, List.length_nil, Nat.add_zero] at hbytes
  omega

/-- A message without answers and with up to one question fits into a datagram. -/
theorem length_le_of_few_questions {m : Message} {bytes : List UInt8} (hanswers : m.answers = [])
    (hfew : m.questions.length ≤ 1) (h : encode? m = some bytes) : bytes.length ≤ 512 := by
  have hlength := length_le_of_encode? hanswers h
  have hquestions := Nat.mul_le_mul_right maxQuestionSize hfew
  have hone : Header.size + 1 * maxQuestionSize ≤ 512 := by decide
  omega

end Wire

namespace Server

variable {ρ δ : Type} {service : Service ρ δ} {client : Ip} {request m : Wire.Message}
  {name : Wire.Name} {bytes : List UInt8} {outside after : Resolution.Outside ρ δ}

/-! ## Replies -/

/-- The reply is the message as a whole, or the mark of truncation if the message
is too long for a datagram. -/
def Delivers (reply : List UInt8) (request m : Wire.Message) : Prop :=
  ∃ full, Wire.encode? m = some full ∧
    Wire.decode? reply = some (if full.length ≤ maxDatagram then m else truncatedReply request)

/-- Header and questions of the request fit into a message. -/
def Rewritable (request : Wire.Message) : Prop :=
  ∃ bytes, Wire.encode? { request with answers := [] } = some bytes

theorem Rewritable.of_encode? {full : List UInt8} (h : Wire.encode? m = some full)
    (hquestions : m.questions = request.questions) : Rewritable request := by
  obtain ⟨written, hwritten, -⟩ := Wire.encode?_eq_some h
  rw [hquestions] at hwritten
  rw [Rewritable, Wire.encode?, hwritten]
  exact ⟨_, rfl⟩

/-- Whatever has the questions of the request can be written. -/
theorem Rewritable.encode? (h : Rewritable request) (hquestions : m.questions = request.questions) :
    ∃ full, Wire.encode? m = some full := by
  obtain ⟨bytes, hbytes⟩ := h
  obtain ⟨written, hwritten, -⟩ := Wire.encode?_eq_some hbytes
  rw [Wire.encode?, hquestions, hwritten]
  exact ⟨_, rfl⟩

theorem datagramBytes?_eq_some_iff :
    datagramBytes? request m = some bytes ↔
      ∃ full, Wire.encode? m = some full ∧
        (full.length ≤ 512 ∧ bytes = full ∨
          512 < full.length ∧ Wire.encode? (truncatedReply request) = some bytes) := by
  rw [datagramBytes?, Option.bind_eq_bind, Option.bind_eq_some_iff]
  refine exists_congr fun full => and_congr_right fun _ => ?_
  have hlimit : maxDatagram = 512 := rfl
  rw [hlimit]
  by_cases hfits : full.length ≤ 512
  · rw [if_pos hfits]
    constructor
    · exact fun h => Or.inl ⟨hfits, (Option.some.inj h).symm⟩
    · rintro (⟨-, rfl⟩ | ⟨hlong, -⟩)
      · rfl
      · exact absurd hfits (Nat.not_le.2 hlong)
  · rw [if_neg hfits]
    constructor
    · exact fun h => Or.inr ⟨Nat.not_le.1 hfits, h⟩
    · rintro (⟨hshort, -⟩ | ⟨-, h⟩)
      · exact absurd hshort hfits
      · exact h

/-- Every reply to a request that can be written again is delivered. -/
theorem Rewritable.delivers (h : Rewritable request) (hquestions : m.questions = request.questions)
    (hcode : m.header.code.val < 16) :
    ∃ reply, replyBytes? request m = some reply ∧ Delivers reply request m := by
  obtain ⟨full, hfull⟩ := h.encode? hquestions
  obtain ⟨short, hshort⟩ := @Rewritable.encode? _ (truncatedReply request) h rfl
  by_cases hfits : full.length ≤ maxDatagram
  · have hdatagram : datagramBytes? request m = some full :=
      datagramBytes?_eq_some_iff.2 ⟨full, hfull, Or.inl ⟨hfits, rfl⟩⟩
    refine ⟨full, by rw [replyBytes?, hdatagram], full, hfull, ?_⟩
    rw [if_pos hfits]
    refine Wire.decode?_of_complete hfull hcode (Or.inr ?_)
    have hspare : maxDatagram + Wire.maxAnswerSize ≤ Wire.maxMessageSize := by decide
    omega
  · have hdatagram : datagramBytes? request m = some short :=
      datagramBytes?_eq_some_iff.2 ⟨full, hfull, Or.inr ⟨Nat.not_le.1 hfits, hshort⟩⟩
    refine ⟨short, by rw [replyBytes?, hdatagram], full, hfull, ?_⟩
    rw [if_neg hfits]
    exact Wire.decode?_of_complete hshort Wire.ResponseCode.noError_lt (Or.inl rfl)

/-- So many questions always fit, however long their names are. -/
theorem rewritable_of_length_le (h : request.questions.length ≤ 252) : Rewritable request := by
  refine Wire.encode?_of_room (Nat.le_trans ?_ (by decide : 12 + 252 * 259 ≤ 65535))
  exact Nat.add_le_add_left (Nat.mul_le_mul_right Wire.maxQuestionSize h) Wire.Header.size

theorem rewritable_of_single {q : Wire.Question} (h : request.questions = [q]) :
    Rewritable request := by
  refine rewritable_of_length_le ?_
  rw [h, List.length_singleton]
  decide

/-- Every reply to a single question is delivered. -/
theorem delivers_replyBytes? {q : Wire.Question} (hquestion : request.questions = [q])
    (hquestions : m.questions = request.questions) (hcode : m.header.code.val < 16) :
    ∃ reply, replyBytes? request m = some reply ∧ Delivers reply request m :=
  (rewritable_of_single hquestion).delivers hquestions hcode

/-- A reply without answers to a single question is never too long. -/
theorem Delivers.decode {reply : List UInt8} {q : Wire.Question} (h : Delivers reply request m)
    (hquestion : m.questions = [q]) (hanswers : m.answers = []) :
    Wire.decode? reply = some m := by
  obtain ⟨full, hfull, hreply⟩ := h
  have hfew : m.questions.length ≤ 1 := Nat.le_of_eq (congrArg List.length hquestion)
  have hfits : full.length ≤ maxDatagram := Wire.length_le_of_few_questions hanswers hfew hfull
  rwa [if_pos hfits] at hreply

/-! ## Questions -/

/-- The message asks for the addresses of a name: it is no reply, its operation is
the query, and it has one question. -/
structure AsksFor (request : Wire.Message) (name : Wire.Name) : Prop where
  isRequest : request.header.isResponse = false
  isQuery : request.header.opcode = Wire.Opcode.query
  question : ∃ cls, request.questions = [{ name := name, kind := RecordKind.a.code, cls := cls }]

/-- What a question comes to is the result of its query, a fault being a failure of the
server. -/
theorem answerQuestion_of_query {kind : RecordKind} {result : Except Fault (List Record)}
    (hquery : service.query client name.text outside = (result, after)) :
    answerQuestion service client name kind.code outside =
      (result.mapError fun _ => Wire.ResponseCode.serverFailure, after) := by
  rw [answerQuestion, RecordKind.ofCode?_code]
  simp only [Resolution.bind_apply, hquery]
  cases result with
  | error fault => rfl
  | ok records => rfl

/-- The reply to what a question came to. -/
def questionReply (request : Wire.Message) :
    Except Wire.ResponseCode (List Record) → Wire.Message
  | .error code => errorReply request code
  | .ok records =>
    match answerReply request records with
    | .ok reply => reply
    | .error _ => errorReply request Wire.ResponseCode.serverFailure

theorem questionReply_of_answers {records : List Record} {answers : List Wire.Answer}
    (h : Wire.answersOf records = .ok answers) :
    questionReply request (.ok records) =
      { errorReply request Wire.ResponseCode.noError with answers := answers } := by
  simp only [questionReply, answerReply, h]
  rfl

theorem respond_of_question {question : Wire.Question} {rest : List Wire.Question}
    {result : Except Wire.ResponseCode (List Record)}
    (hop : request.header.opcode = Wire.Opcode.query)
    (hquestions : request.questions = question :: rest)
    (hanswer : answerQuestion service client question.name question.kind outside =
      (result, after)) :
    respond service client request outside = (questionReply request result, after) := by
  rw [respond, if_neg (not_not_intro hop), hquestions]
  simp only [Resolution.bind_apply, hanswer]
  cases result with
  | error code => rfl
  | ok records =>
    simp only [questionReply]
    cases answerReply request records with
    | error fault => rfl
    | ok reply => rfl

theorem respond_of_found {records : List Record} {answers : List Wire.Answer}
    (h : AsksFor request name)
    (hquery : service.query client name.text outside = (.ok records, after))
    (hanswers : Wire.answersOf records = .ok answers) :
    respond service client request outside =
      ({ errorReply request Wire.ResponseCode.noError with answers := answers }, after) := by
  obtain ⟨cls, hquestion⟩ := h.question
  have hanswer : answerQuestion service client name RecordKind.a.code outside =
      (.ok records, after) := answerQuestion_of_query hquery
  rw [respond_of_question h.isQuery hquestion hanswer, questionReply_of_answers hanswers]

theorem respond_of_fault {fault : Fault} (h : AsksFor request name)
    (hquery : service.query client name.text outside = (.error fault, after)) :
    respond service client request outside =
      (errorReply request Wire.ResponseCode.serverFailure, after) := by
  obtain ⟨cls, hquestion⟩ := h.question
  have hanswer : answerQuestion service client name RecordKind.a.code outside =
      (.error Wire.ResponseCode.serverFailure, after) := answerQuestion_of_query hquery
  exact respond_of_question h.isQuery hquestion hanswer

theorem handleDatagram_of_respond (hdecode : Wire.decode? bytes = some request)
    (h : AsksFor request name)
    (hrespond : respond service client request outside = (m, after)) :
    handleDatagram service client bytes outside = (replyBytes? request m, after) := by
  rw [handleDatagram, hdecode]
  simp only [h.isRequest, Bool.false_eq_true, if_false, Resolution.bind_apply, hrespond]
  rfl

theorem delivers_of_respond (hdecode : Wire.decode? bytes = some request)
    (h : AsksFor request name) (hrespond : respond service client request outside = (m, after))
    (hquestions : m.questions = request.questions) (hcode : m.header.code.val < 16) :
    ∃ reply, handleDatagram service client bytes outside = (some reply, after) ∧
      Delivers reply request m := by
  obtain ⟨cls, hquestion⟩ := h.question
  obtain ⟨reply, hreply, hdelivers⟩ := delivers_replyBytes? hquestion hquestions hcode
  refine ⟨reply, ?_, hdelivers⟩
  rw [handleDatagram_of_respond hdecode h hrespond, hreply]

/-! ## Configured names -/

theorem query_of_found {name : String} {found : List Record} (hne : found ≠ [])
    (h : (service.resolution (ClientKey.ofIp client)).resolve name AliasChain.empty outside =
      (some found, after)) :
    service.query client name outside = (.ok found, after) := by
  cases found with
  | nil => exact absurd rfl hne
  | cons first rest =>
    rw [Service.query, Resolution.bind_apply, h]
    rfl

theorem query_of_silent {name : String}
    (hown : (service.answers.tier (ClientKey.ofIp client)).Silent (Fqdn.normalize name))
    (hdefault : (service.answers.tier .default).Silent (Fqdn.normalize name)) :
    service.query client name outside = (.error (.unresolved name), outside) := by
  have hnone : (service.resolution (ClientKey.ofIp client)).resolve name AliasChain.empty =
      pure none := Resolution.resolve_of_silent hown hdefault
  rw [Service.query, hnone]
  rfl

/-- The reply serves the record of a name: there is no error, and each address comes
under the name, its letter case aside, with the TTL of the record. -/
def Serves (request : Wire.Message) (name : Wire.Name) (record : AddressRecord)
    (defaultTtl : UInt32) (reply : List UInt8) : Prop :=
  ∃ owner addresses answers, Wire.Name.lower owner = name.lower ∧
    List.Forall₂ (fun text ip => Ipv4.parse? (Text.trim text) = some ip)
      (record.answer.getD []) addresses ∧
    answers.Perm (addresses.map fun ip =>
      { name := owner, ttl := record.ttl.getD defaultTtl, data := .address ip }) ∧
    Delivers reply request
      { errorReply request Wire.ResponseCode.noError with answers := answers }

/-- Under its own normal form, an entry is served. -/
theorem serves_of_entry {key : ClientKey} {spelling : String} {record : AddressRecord}
    {entry : AddressEntry} {written : String}
    (hfirst : service.answers.LooksFirst (ClientKey.ofIp client) key)
    (halias : (service.answers.tier key).aliasOf? (Fqdn.normalize spelling) = none)
    (hentry : (service.answers.tier key).addressesOf? (Fqdn.normalize spelling) = some entry)
    (hrecord : Answers.loadAddressRecord written (Fqdn.normalize spelling) record = .ok entry)
    (hname : Wire.Name.parse? spelling = some name)
    (hsame : Fqdn.normalize name.text = Fqdn.normalize spelling)
    (hdecode : Wire.decode? bytes = some request) (hasks : AsksFor request name) :
    ∃ reply, (handleDatagram service client bytes outside).1 = some reply ∧
      Serves request name record service.defaultTtl reply := by
  obtain ⟨htexts, httl, haddresses⟩ := Answers.loadAddressRecord_eq_ok_iff.1 hrecord
  have hne : entry.addresses ≠ [] := by
    intro hnil
    rw [hnil, List.forall₂_nil_right_iff] at haddresses
    exact htexts haddresses
  obtain ⟨owner, howner, hlower⟩ := Wire.parse?_normalize hname hsame
  rw [← hsame] at halias hentry howner
  obtain ⟨found, after, hresolve, hperm⟩ := Resolution.resolve_of_addresses
    (r := service.resolution (ClientKey.ofIp client)) hfirst halias hentry hne outside
  have hfound : found ≠ [] := by
    rintro rfl
    have hrecords := hperm.symm.eq_nil
    rw [AddressEntry.records, List.map_eq_nil_iff] at hrecords
    exact hne hrecords
  obtain ⟨answers, hanswers, harranged⟩ :=
    Wire.answersOf_of_perm hperm (Wire.answersOf_records howner service.defaultTtl)
  have hrespond := respond_of_found hasks (query_of_found hfound hresolve) hanswers
  obtain ⟨reply, hreply, hdelivers⟩ :=
    delivers_of_respond hdecode hasks hrespond rfl Wire.ResponseCode.noError_lt
  refine ⟨reply, congrArg Prod.fst hreply, owner, entry.addresses, answers, hlower, haddresses, ?_,
    hdelivers⟩
  rw [← httl]
  exact harranged

/-- A name that both tiers are silent about is a failure of the server. -/
theorem fails_of_silent
    (hown : (service.answers.tier (ClientKey.ofIp client)).Silent (Fqdn.normalize name.text))
    (hdefault : (service.answers.tier .default).Silent (Fqdn.normalize name.text))
    (hdecode : Wire.decode? bytes = some request) (hasks : AsksFor request name) :
    ∃ reply, handleDatagram service client bytes outside = (some reply, outside) ∧
      Wire.decode? reply = some (errorReply request Wire.ResponseCode.serverFailure) := by
  have hquery : service.query client name.text outside =
      (.error (.unresolved name.text), outside) := query_of_silent hown hdefault
  have hrespond := respond_of_fault hasks hquery
  obtain ⟨cls, hquestion⟩ := hasks.question
  obtain ⟨reply, hreply, hdelivers⟩ :=
    delivers_of_respond hdecode hasks hrespond rfl Wire.ResponseCode.serverFailure_lt
  exact ⟨reply, hreply, hdelivers.decode hquestion rfl⟩

theorem not_serves_of_failure {record : AddressRecord} {defaultTtl : UInt32} {reply : List UInt8}
    (h : Wire.decode? reply = some (errorReply request Wire.ResponseCode.serverFailure)) :
    ¬ Serves request name record defaultTtl reply := by
  rintro ⟨owner, addresses, answers, -, -, -, full, -, hreply⟩
  have hsame := Option.some.inj (h.symm.trans hreply)
  have hcode : Wire.ResponseCode.serverFailure ≠ Wire.ResponseCode.noError := by decide
  split at hsame
  · exact hcode (congrArg (fun m : Wire.Message => m.header.code) hsame)
  · exact hcode (congrArg (fun m : Wire.Message => m.header.code) hsame)

/-- A configured name is served where the text of its labels and its spelling have
one normal form.  Where nothing is configured under the normal form of the text,
the question for the name fails. -/
theorem configured_name_served {text spelling : String} {key : ClientKey}
    {record : AddressRecord} (hload : Answers.ofText text = .ok service.answers)
    (hwrites : Answers.WritesAddresses text key spelling record)
    (halias : (service.answers.tier key).aliasOf? (Fqdn.normalize spelling) = none)
    (hfirst : service.answers.LooksFirst (ClientKey.ofIp client) key)
    (hname : Wire.Name.parse? spelling = some name)
    (hdecode : Wire.decode? bytes = some request) (hasks : AsksFor request name) :
    (Fqdn.normalize name.text = Fqdn.normalize spelling →
      ∃ reply, (handleDatagram service client bytes outside).1 = some reply ∧
        Serves request name record service.defaultTtl reply) ∧
    ((service.answers.tier (ClientKey.ofIp client)).Silent (Fqdn.normalize name.text) →
      (service.answers.tier .default).Silent (Fqdn.normalize name.text) →
      ∃ reply, handleDatagram service client bytes outside = (some reply, outside) ∧
        Wire.decode? reply = some (errorReply request Wire.ResponseCode.serverFailure) ∧
        ¬ Serves request name record service.defaultTtl reply) := by
  obtain ⟨written, entry, hentry, hrecord⟩ := Answers.addressesOf?_of_ofText hload hwrites
  constructor
  · intro hsame
    exact serves_of_entry hfirst halias hentry hrecord hname hsame hdecode hasks
  · intro hown hdefault
    obtain ⟨reply, hreply, hfails⟩ :=
      @fails_of_silent _ _ service client _ _ _ outside hown hdefault hdecode hasks
    exact ⟨reply, hreply, hfails, not_serves_of_failure hfails⟩

/-- A record under a plain spelling without Punycode is served. -/
theorem plain_name_served {text spelling : String} {key : ClientKey}
    {record : AddressRecord} (hload : Answers.ofText text = .ok service.answers)
    (hwrites : Answers.WritesAddresses text key spelling record)
    (halias : (service.answers.tier key).aliasOf? (Fqdn.normalize spelling) = none)
    (hfirst : service.answers.LooksFirst (ClientKey.ofIp client) key)
    (hname : Wire.Name.parse? spelling = some name) (hplain : Wire.PlainSpelling spelling)
    (hace : ∀ label ∈ name.labels, Wire.acePrefixBytes.isPrefixOf label.bytes = false)
    (hdecode : Wire.decode? bytes = some request) (hasks : AsksFor request name) :
    ∃ reply, (handleDatagram service client bytes outside).1 = some reply ∧
      Serves request name record service.defaultTtl reply := by
  obtain ⟨written, entry, hentry, hrecord⟩ := Answers.addressesOf?_of_ofText hload hwrites
  have hsame := Wire.normalize_text_of_plain hname hplain hace
  exact serves_of_entry hfirst halias hentry hrecord hname hsame hdecode hasks

/-! ## Two printers -/

/-- The question for the addresses of a name. -/
def questionFor (name : Wire.Name) : Wire.Message where
  header :=
    { id := 7, isResponse := false, opcode := Wire.Opcode.query, authoritative := false
      truncated := false, recursionDesired := true, recursionAvailable := false
      checkingDisabled := false, code := Wire.ResponseCode.noError }
  questions := [{ name := name, kind := RecordKind.a.code, cls := Wire.classInternet }]
  answers := []

theorem asksFor_questionFor (name : Wire.Name) : AsksFor (questionFor name) name where
  isRequest := rfl
  isQuery := rfl
  question := ⟨Wire.classInternet, rfl⟩

theorem decode?_questionFor (name : Wire.Name) :
    ∃ bytes, Wire.encode? (questionFor name) = some bytes ∧
      Wire.decode? bytes = some (questionFor name) := by
  have hroom : Wire.Header.size + 1 * Wire.maxQuestionSize ≤ Wire.maxMessageSize := by decide
  obtain ⟨bytes, hbytes⟩ := @Wire.encode?_of_room (questionFor name) hroom
  exact ⟨bytes, hbytes, Wire.decode?_of_complete hbytes Wire.ResponseCode.noError_lt (Or.inl rfl)⟩

def printersText : String :=
  "\x7b\"default\":\x7b\"a\":\x7b" ++
    "\"Printer.example\":\x7b\"ttl\":60,\"answer\":[\"10.0.0.7\",\"10.0.0.8\"]\x7d\x7d\x7d\x7d"

def printerRecord : AddressRecord :=
  { ttl := some 60, answer := some ["10.0.0.7", "10.0.0.8"] }

def printers : Service Unit Unit where
  answers :=
    { clients := []
      default := some
        { resolvers := []
          addresses :=
            [("printer.example.", { ttl := some 60, addresses := [⟨10, 0, 0, 7⟩, ⟨10, 0, 0, 8⟩] })]
          aliases := [] } }
  defaultTtl := 300
  source := IndexSource.still
  delegate := Delegate.canned []

theorem printers_load : Answers.ofText printersText = .ok printers.answers := by
  decide +kernel

theorem documentOf?_printersText :
    Answers.documentOf? printersText = some
      [("default",
        { resolvers := none
          addresses := some [("Printer.example", printerRecord)]
          aliases := none })] := by
  decide +kernel

theorem printer_served :
    Answers.ofText printersText = .ok printers.answers ∧
      Answers.WritesAddresses printersText .default "Printer.example" printerRecord ∧
      ∃ name bytes reply, Wire.Name.parse? "Printer.example" = some name ∧
        Wire.encode? (questionFor name) = some bytes ∧
        (handleDatagram printers (.v4 ⟨10, 0, 0, 1⟩) bytes { random := (), delegate := () }).1 =
          some reply ∧
        Serves (questionFor name) name printerRecord 300 reply := by
  have hwrites : Answers.WritesAddresses printersText .default "Printer.example" printerRecord :=
    ⟨_, documentOf?_printersText, _, List.mem_cons_self, rfl, List.mem_cons_self⟩
  have hprinted : (Wire.Name.parse? "Printer.example").map (fun name => Fqdn.normalize name.text) =
      some (Fqdn.normalize "Printer.example") := by
    decide +kernel
  obtain ⟨name, hname, hsame⟩ := Option.map_eq_some_iff.1 hprinted
  obtain ⟨bytes, hbytes, hdecode⟩ := decode?_questionFor name
  obtain ⟨reply, hreply, hserves⟩ :=
    (configured_name_served printers_load hwrites rfl (Or.inr ⟨rfl, rfl⟩) hname hdecode
      (asksFor_questionFor name)).1 hsame
  exact ⟨printers_load, hwrites, name, bytes, reply, hname, hbytes, hreply, hserves⟩

/-- A name for everybody, spelled in Punycode. -/
def munichText : String :=
  "\x7b\"default\":\x7b\"a\":\x7b" ++
    "\"xn--mnchen-3ya.example\":\x7b\"ttl\":60,\"answer\":[\"10.0.0.7\"]\x7d\x7d\x7d\x7d"

def munichRecord : AddressRecord :=
  { ttl := some 60, answer := some ["10.0.0.7"] }

def munichService : Service Unit Unit where
  answers :=
    { clients := []
      default := some
        { resolvers := []
          addresses :=
            [("xn--mnchen-3ya.example.", { ttl := some 60, addresses := [⟨10, 0, 0, 7⟩] })]
          aliases := [] } }
  defaultTtl := 300
  source := IndexSource.still
  delegate := Delegate.canned []

theorem munichText_loads : Answers.ofText munichText = .ok munichService.answers := by
  decide +kernel

theorem documentOf?_munichText :
    Answers.documentOf? munichText = some
      [("default",
        { resolvers := none
          addresses := some [("xn--mnchen-3ya.example", munichRecord)]
          aliases := none })] := by
  decide +kernel

/-- The question for `Wire.munich`. -/
def munichBytes : List UInt8 :=
  [0, 7, 1, 0, 0, 1, 0, 0, 0, 0, 0, 0,
    14, 120, 110, 45, 45, 109, 110, 99, 104, 101, 110, 45, 51, 121, 97,
    7, 101, 120, 97, 109, 112, 108, 101, 0, 0, 1, 0, 1]

theorem decode?_munichBytes : Wire.decode? munichBytes = some (questionFor Wire.munich) := by
  cbv

/-- Nothing is configured under the characters that the name prints as. -/
theorem munich_silent :
    (munichService.answers.tier .default).Silent (Fqdn.normalize Wire.munich.text) := by
  rw [Wire.text_munich]
  exact ⟨rfl, rfl⟩

/-- A name in Punycode is kept as it is spelled, and looked up as it prints. -/
theorem punycode_name_fails :
    Answers.ofText munichText = .ok munichService.answers ∧
      Answers.WritesAddresses munichText .default "xn--mnchen-3ya.example" munichRecord ∧
      Wire.Name.parse? "xn--mnchen-3ya.example" = some Wire.munich ∧
      Wire.encode? (questionFor Wire.munich) = some munichBytes ∧
      ∃ reply,
        (handleDatagram munichService (.v4 ⟨10, 0, 0, 1⟩) munichBytes
          { random := (), delegate := () }).1 = some reply ∧
        Wire.decode? reply =
          some (errorReply (questionFor Wire.munich) Wire.ResponseCode.serverFailure) ∧
        ¬ Serves (questionFor Wire.munich) Wire.munich munichRecord 300 reply := by
  have hwrites :
      Answers.WritesAddresses munichText .default "xn--mnchen-3ya.example" munichRecord :=
    ⟨_, documentOf?_munichText, _, List.mem_cons_self, rfl, List.mem_cons_self⟩
  have hbytes : Wire.encode? (questionFor Wire.munich) = some munichBytes := by decide +kernel
  obtain ⟨reply, hreply, hfails⟩ := @fails_of_silent _ _ munichService (.v4 ⟨10, 0, 0, 1⟩) _ _ _
    { random := (), delegate := () } (Tier.silent_empty _) munich_silent decode?_munichBytes
    (asksFor_questionFor Wire.munich)
  exact ⟨munichText_loads, hwrites, Wire.parse?_munich, hbytes, reply, congrArg Prod.fst hreply,
    hfails, not_serves_of_failure hfails⟩

end Server
end SplitHorizon
