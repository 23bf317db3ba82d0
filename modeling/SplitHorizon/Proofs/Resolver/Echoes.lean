/-
Replies that repeat the question.

A query carries a name as labels, and its reply is compared with the text that the
name was read from.  A reply that repeats the question section byte for byte has the
right labels, and yet it counts only if these labels print as the text that was asked
for, letter case and closing dots left aside.  `faithful_reply_counts_iff` says so, of
the check itself, of an exchange and of what a server is asked for in the end.

A text in plain spelling prints as it was spelled unless a label of it is Punycode that
can be read, since such a label prints as the characters it stands for.  So a faithful
reply to a plain spelling counts exactly if the name prints in ASCII
(`sameName_text_iff`).  A spelling in Punycode is refused in spite of a faithful reply
(`faithful_reply_refused`), and so may be other spellings, which print in a form of their
own.
-/
import Mathlib.Data.List.TakeWhile
import SplitHorizon.Proofs.Wire.PlainNames
import SplitHorizon.Proofs.Wire.QuestionSection
import SplitHorizon.Resolver.Exchange

namespace SplitHorizon
namespace Resolver

open Text

/-! ## Names up to letter case and closing dots -/

/-- The characters without the dots at their end. -/
def stripDots (cs : List Char) : List Char :=
  (cs.reverse.dropWhile (· = '.')).reverse

/-- The texts spell one name, letter case and closing dots left aside. -/
def SameName (text other : String) : Prop :=
  sameLetters (withoutDots text) (withoutDots other) = true

instance (text other : String) : Decidable (SameName text other) :=
  inferInstanceAs (Decidable (_ = true))

theorem sameName_iff {text other : String} :
    SameName text other ↔
      lowerChars (stripDots text.toList) = lowerChars (stripDots other.toList) := by
  simp [SameName, sameLetters, lower, withoutDots, stripDots, String.ofList_inj]

theorem lowerChars_stripDots (cs : List Char) :
    lowerChars (stripDots cs) = stripDots (lowerChars cs) := by
  have hdots : (fun c => decide (lowerChar c = '.')) = fun c => decide (c = '.') := by
    funext c
    rw [decide_eq_decide]
    exact lowerChar_eq_iff (by decide)
  simp only [stripDots, lowerChars, ← List.map_reverse, List.dropWhile_map, Function.comp_def,
    hdots]

theorem stripDots_append_dot (cs : List Char) : stripDots (cs ++ ['.']) = stripDots cs := by
  simp [stripDots]

theorem stripDots_closeDot (cs : List Char) : stripDots (Fqdn.closeDot cs) = stripDots cs := by
  unfold Fqdn.closeDot
  split
  · rfl
  · exact stripDots_append_dot cs

/-- Nothing but dots is stripped. -/
theorem mem_of_mem_stripDots {cs : List Char} {c : Char} (h : c ∈ cs) :
    c = '.' ∨ c ∈ stripDots cs := by
  have hsplit := @List.takeWhile_append_dropWhile _ (fun c => decide (c = '.')) cs.reverse
  rw [← List.mem_reverse, ← hsplit, List.mem_append] at h
  rcases h with hdot | hrest
  · have hc := List.mem_takeWhile_imp hdot
    exact Or.inl (by simpa using hc)
  · exact Or.inr (List.mem_reverse.2 hrest)

theorem isAscii_iff {cs : List Char} : Idna.isAscii cs = true ↔ ∀ c ∈ cs, c.toNat < 0x80 := by
  simp [Idna.isAscii]

/-- A text that spells the same name as an ASCII text is ASCII. -/
theorem isAscii_of_sameName {text other : String} (h : SameName text other)
    (hother : Idna.isAscii other.toList = true) : Idna.isAscii text.toList = true := by
  rw [isAscii_iff] at hother ⊢
  intro c hc
  rcases mem_of_mem_stripDots hc with rfl | hc
  · decide
  · have hlowered : lowerChar c ∈ lowerChars (stripDots other.toList) := by
      rw [← sameName_iff.1 h]
      exact List.mem_map_of_mem hc
    obtain ⟨d, hd, hsame⟩ := List.mem_map.1 hlowered
    have hlow : d.toNat < 0x80 := by
      have hmem : d ∈ other.toList.reverse :=
        (List.dropWhile_suffix _).subset (List.mem_reverse.1 hd)
      exact hother d (List.mem_reverse.1 hmem)
    have hcodes := congrArg Char.toNat hsame
    rw [toNat_lowerChar, toNat_lowerChar] at hcodes
    split at hcodes <;> split at hcodes <;> omega

/-- A name prints as the plain spelling it was read from, if and only if it prints in
ASCII. -/
theorem sameName_text_iff {fqdn : String} {name : Wire.Name}
    (hname : Wire.Name.parse? fqdn = some name) (hplain : Wire.PlainSpelling fqdn) :
    SameName name.text fqdn ↔ Idna.isAscii name.text.toList = true := by
  refine ⟨fun h => isAscii_of_sameName h hplain.1, fun hascii => ?_⟩
  by_cases hroot : fqdn = "." ∨ fqdn = ""
  · rcases hroot with rfl | rfl
    · obtain rfl := Option.some.inj hname
      rfl
    · obtain rfl := Option.some.inj hname
      rfl
  · obtain ⟨hdot, hempty⟩ := not_or.1 hroot
    have hne : fqdn.toList ≠ [] := fun hnil => hempty (String.toList_eq_nil_iff.1 hnil)
    obtain ⟨texts, htexts, hread⟩ := Wire.mapM_of_parse? hdot hname
    have hlabels := Wire.labels_ne_nil_of_plain hplain hne htexts hread
    have hprints : ∀ label ∈ name.labels, label.PrintsAsSpelled := by
      refine Wire.printsAsSpelled_of_text hplain hne htexts hread fun label hlabel => ?_
      rw [isAscii_iff] at hascii ⊢
      intro c hc
      refine hascii c ?_
      rw [Wire.Name.toList_text hlabels]
      exact List.mem_flatMap.2 ⟨label, hlabel, List.mem_append_left _ hc⟩
    have hlower := Wire.lowerChars_labels_of_plain hplain hne htexts hread hprints
    rw [sameName_iff, lowerChars_stripDots, Wire.Name.toList_text hlabels, hlower,
      ← lowerChars_stripDots, stripDots_closeDot]

/-! ## Queries -/

section

variable {id : UInt16} {fqdn : String} {kind : RecordKind} {message : List UInt8}

def asks (name : Wire.Name) (kind : RecordKind) : Wire.Question where
  name := name
  kind := kind.code
  cls := Wire.classInternet

theorem query_eq_ok (h : query id fqdn kind = .ok message) :
    ∃ name, Wire.Name.parse? fqdn = some name ∧
      Wire.encode? (queryMessage id name kind) = some message := by
  unfold query askedName at h
  cases hname : Wire.Name.parse? fqdn with
  | none =>
    rw [hname] at h
    cases h
  | some name =>
    rw [hname] at h
    refine ⟨name, rfl, ?_⟩
    simp only [queryBytes] at h
    split at h
    · next bytes hbytes =>
      obtain rfl := Except.ok.inj h
      exact hbytes
    · cases h

theorem decode?_of_encode? {name : Wire.Name}
    (h : Wire.encode? (queryMessage id name kind) = some message) :
    Wire.decode? message = some (queryMessage id name kind) :=
  Wire.decode?_of_complete h Wire.ResponseCode.noError_lt (Or.inl rfl)

/-- Behind its header a query is its question, and nothing else. -/
theorem drop_header_of_encode? {name : Wire.Name}
    (h : Wire.encode? (queryMessage id name kind) = some message) :
    ∃ written, Wire.writeQuestion [] Wire.Header.size (asks name kind) = some written ∧
      message.drop Wire.Header.size = written.bytes := by
  obtain ⟨questions, hquestions, rfl⟩ := Wire.encode?_eq_some h
  obtain ⟨first, others, hfirst, hothers, rfl⟩ := Wire.writeQuestions_cons_eq_some hquestions
  obtain rfl := Option.some.inj hothers
  refine ⟨first, hfirst, ?_⟩
  simp [Wire.assemble, Wire.writeAnswers, queryMessage, List.drop_append, Wire.Header.length_bytes]

end

/-! ## Faithful replies -/

/-- The reply, as it was received, has the number of the query and its question section
byte for byte, and is a whole reply without error. -/
structure Faithful (id : UInt16) (message : List UInt8) (received : Wire.Received) : Prop where
  id : received.message.header.id = id
  isResponse : received.message.header.isResponse = true
  code : received.message.header.code = Wire.ResponseCode.noError
  truncated : received.message.header.truncated = false
  questionBytes : received.questionBytes = message.drop Wire.Header.size

section

variable {ν α β : Type} {network : Network ν} {id : UInt16} {fqdn : String}
  {message bytes : List UInt8} {received : Wire.Received} {name : Wire.Name}
  {server : SocketAddress} {state after : ν}

/-- The first question of a faithful reply is the one that was asked. -/
theorem Faithful.question (h : Faithful id message received)
    (hencode : Wire.encode? (queryMessage id name .a) = some message)
    (hreceive : Wire.receive? bytes = some received) :
    (Reply.ofMessage received.message).question = some name.text := by
  obtain ⟨written, hwrite, hbytes⟩ := drop_header_of_encode? hencode
  have hhead := Wire.head?_questions hreceive hwrite (h.questionBytes.trans hbytes)
  rw [Reply.ofMessage, hhead]
  rfl

theorem parse_of_receive? (h : Wire.receive? bytes = some received) :
    Reply.parse bytes = .ok (Reply.ofMessage received.message) := by
  rw [Reply.parse, Wire.decode?, h]
  rfl

theorem Faithful.echoes_iff (h : Faithful id message received)
    (hencode : Wire.encode? (queryMessage id name .a) = some message)
    (hreceive : Wire.receive? bytes = some received) (fqdn : String) :
    (Reply.ofMessage received.message).echoes fqdn = true ↔ SameName name.text fqdn := by
  rw [Reply.echoes, h.question hencode hreceive]
  rfl

/-! ## Exchanges -/

theorem bind_of_ok {act : Act ν α} {next : α → Act ν β} {a : α}
    (h : act state = (.ok a, after)) : (act >>= next) state = next a after := by
  change StateT.bind act (ExceptT.bindCont next) state = _
  rw [StateT.bind, h]
  rfl

theorem bind_of_error {act : Act ν α} {next : α → Act ν β} {fault : Fault}
    (h : act state = (.error fault, after)) : (act >>= next) state = (.error fault, after) := by
  change StateT.bind act (ExceptT.bindCont next) state = _
  rw [StateT.bind, h]
  rfl

theorem freshQuery_of_ok (hquery : query (network.freshId state).1 fqdn .a = .ok message) :
    freshQuery network fqdn state =
      (.ok ((network.freshId state).1, message), (network.freshId state).2) := by
  unfold query at hquery
  cases hname : askedName fqdn with
  | error fault =>
    rw [hname] at hquery
    cases hquery
  | ok name =>
    rw [hname] at hquery
    have hbytes : queryBytes (network.freshId state).1 name .a = .ok message := hquery
    simp only [freshQuery, hname, hbytes]
    rfl

/-- The fault of a reply whose question prints as another name. -/
def refusal (transport : Transport) (server : SocketAddress) (name : Wire.Name) (fqdn : String) :
    Fault :=
  .transport server.text (transport.text ++ " " ++
    ("reply question " ++ questionText (some name.text) ++ " does not match " ++ fqdn))

/-- The reply passes all checks but the one of its question. -/
theorem Faithful.mismatch? (h : Faithful id message received)
    (hencode : Wire.encode? (queryMessage id name .a) = some message)
    (hreceive : Wire.receive? bytes = some received) (fqdn : String) :
    mismatch? (Reply.ofMessage received.message) id fqdn =
      if (Reply.ofMessage received.message).echoes fqdn then none
      else some ("reply question " ++ questionText (some name.text) ++ " does not match " ++
        fqdn) := by
  have hid : (Reply.ofMessage received.message).id = id := h.id
  have hresponse : (Reply.ofMessage received.message).isResponse = true := h.isResponse
  rw [Resolver.mismatch?, hid, hresponse, h.question hencode hreceive]
  cases (Reply.ofMessage received.message).echoes fqdn <;> simp

variable {transport : Transport}

/-- A faithful reply is let through by an exchange if its question prints as the name that
was asked for, and refused if not. -/
theorem exchange_of_faithful (h : Faithful id message received)
    (hencode : Wire.encode? (queryMessage id name .a) = some message)
    (hreceive : Wire.receive? bytes = some received)
    (hsend : send network transport server message state = (.ok bytes, after)) (fqdn : String) :
    exchange network transport server fqdn id message state =
      (if SameName name.text fqdn then .ok (Reply.ofMessage received.message)
        else .error (refusal transport server name fqdn), after) := by
  have hparse : exchange.liftExcept (Reply.parse bytes) after =
      (.ok (Reply.ofMessage received.message), after) := by
    rw [parse_of_receive? hreceive]
    rfl
  have hmismatch := h.mismatch? hencode hreceive fqdn
  have hechoes := h.echoes_iff hencode hreceive fqdn
  unfold exchange
  rw [bind_of_ok hsend, bind_of_ok hparse, hmismatch]
  by_cases hsame : SameName name.text fqdn
  · rw [if_pos (hechoes.2 hsame), if_pos hsame]
    rfl
  · rw [if_neg (mt hechoes.1 hsame), if_neg hsame]
    rfl

/-- What the server is asked for comes to nothing but the verdict on its datagram. -/
theorem askServer_of_faithful {entry : String} {before located : ν}
    (hquery : query id fqdn .a = .ok message) (h : Faithful id message received)
    (hencode : Wire.encode? (queryMessage id name .a) = some message)
    (hreceive : Wire.receive? bytes = some received)
    (hlocate : locate network entry before = (.ok server, located))
    (hid : network.freshId located = (id, state))
    (hsend : send network .datagram server message state = (.ok bytes, after)) :
    askServer network entry fqdn before =
      (if SameName name.text fqdn then
          .ok (received.message.answers.map Wire.Answer.toRecord)
        else .error (refusal .datagram server name fqdn), after) := by
  have hfresh : freshQuery network fqdn located = (.ok (id, message), state) := by
    have hmessage : query (network.freshId located).1 fqdn .a = .ok message := by
      rw [hid]
      exact hquery
    rw [freshQuery_of_ok hmessage, hid]
  have hexchange := exchange_of_faithful h hencode hreceive hsend fqdn
  have hcomplete : (Reply.ofMessage received.message).truncated = false := h.truncated
  have hsuccess : (Reply.ofMessage received.message).isSuccess = true :=
    decide_eq_true h.code
  unfold askServer
  rw [bind_of_ok hlocate, bind_of_ok hfresh]
  by_cases hsame : SameName name.text fqdn
  · rw [if_pos hsame] at hexchange ⊢
    refine (bind_of_ok hexchange).trans ?_
    simp only [hcomplete, Bool.false_eq_true, if_false, pure_bind, hsuccess, if_true]
    rfl
  · rw [if_neg hsame] at hexchange ⊢
    exact bind_of_error hexchange

end

/-! ## Which names are answered -/

/-- A query has one question, for the name that the text reads as, and a faithful reply to
it counts if and only if this name prints as the text, letter case and closing dots left
aside.  For a text in plain spelling this is so exactly if the name prints in ASCII. -/
theorem faithful_reply_counts_iff {id : UInt16} {fqdn : String} {message : List UInt8}
    (hquery : query id fqdn .a = .ok message) :
    ∃ name, Wire.Name.parse? fqdn = some name ∧
      (∃ m, Wire.decode? message = some m ∧ m.header.id = id ∧
        m.header.recursionDesired = true ∧ m.header.isResponse = false ∧
        m.questions = [asks name .a]) ∧
      (Wire.PlainSpelling fqdn →
        (SameName name.text fqdn ↔ Idna.isAscii name.text.toList = true)) ∧
      ∀ {ν : Type} (network : Network ν) (server : SocketAddress) (state after : ν)
        (bytes : List UInt8) (received : Wire.Received),
        Wire.receive? bytes = some received → Faithful id message received →
        ((Reply.ofMessage received.message).echoes fqdn = true ↔ SameName name.text fqdn) ∧
        (∀ transport, send network transport server message state = (.ok bytes, after) →
          exchange network transport server fqdn id message state =
            (if SameName name.text fqdn then .ok (Reply.ofMessage received.message)
              else .error (refusal transport server name fqdn), after)) ∧
        ∀ entry before located, locate network entry before = (.ok server, located) →
          network.freshId located = (id, state) →
          send network .datagram server message state = (.ok bytes, after) →
          askServer network entry fqdn before =
            (if SameName name.text fqdn then
                .ok (received.message.answers.map Wire.Answer.toRecord)
              else .error (refusal .datagram server name fqdn), after) := by
  obtain ⟨name, hname, hencode⟩ := query_eq_ok hquery
  refine ⟨name, hname, ⟨_, decode?_of_encode? hencode, rfl, rfl, rfl, rfl⟩,
    fun hplain => sameName_text_iff hname hplain, ?_⟩
  intro ν network server state after bytes received hreceive hfaithful
  refine ⟨hfaithful.echoes_iff hencode hreceive fqdn, ?_, ?_⟩
  · intro transport hsend
    exact exchange_of_faithful hfaithful hencode hreceive hsend fqdn
  · intro entry before located hlocate hid hsend
    exact askServer_of_faithful hquery hfaithful hencode hreceive hlocate hid hsend

/-- A resolver at every address that repeats the question and answers it with one
address. -/
def obliging : Network Unit where
  freshId := fun s => (7, s)
  lookUp := fun _ _ s => (.error .silent, s)
  datagram := fun _ query s => (.ok (obligingReply query), s)
  stream := fun _ _ s => (.error .silent, s)
where
  obligingReply (query : List UInt8) : List UInt8 :=
    [0, 7, 129, 128, 0, 1, 0, 1, 0, 0, 0, 0] ++ query.drop Wire.Header.size ++
      [192, 12, 0, 1, 0, 1, 0, 0, 0, 60, 0, 4, 10, 0, 0, 7]

def obligingServer : SocketAddress :=
  .ofIp (.v4 ⟨10, 0, 0, 53⟩) 53

theorem locate_obliging : locate obliging "10.0.0.53" () = (.ok obligingServer, ()) := by
  rfl

/-- What `obliging` sends is received as a faithful reply with one address for the name
that the question prints as. -/
def Obliges (query : List UInt8) (printed : String) (received : Wire.Received) : Prop :=
  Wire.receive? (obliging.obligingReply query) = some received ∧ Faithful 7 query received ∧
    received.message.answers.map Wire.Answer.toRecord =
      [Record.address printed 60 ⟨10, 0, 0, 7⟩]

theorem exists_obliges {query : List UInt8} {name : Wire.Name}
    (h : (Wire.receive? (obliging.obligingReply query)).map (fun received =>
        (received.message.header, received.questionBytes, received.message.answers)) =
      some ({ queryHeader 7 with isResponse := true, recursionAvailable := true },
        query.drop Wire.Header.size,
        [{ name := name, ttl := 60, data := .address ⟨10, 0, 0, 7⟩ }])) :
    ∃ received, Obliges query name.text received := by
  obtain ⟨received, hreceive, hfields⟩ := Option.map_eq_some_iff.1 h
  obtain ⟨hheader, hfields⟩ := Prod.mk.inj hfields
  obtain ⟨hquestion, hanswers⟩ := Prod.mk.inj hfields
  refine ⟨received, hreceive, ?_, ?_⟩
  · constructor
    · rw [hheader]
      rfl
    · rw [hheader]
    · rw [hheader]
      rfl
    · rw [hheader]
      rfl
    · exact hquestion
  · rw [hanswers]
    rfl

def hostQuery : List UInt8 :=
  [0, 7, 1, 0, 0, 1, 0, 0, 0, 0, 0, 0,
    4, 104, 111, 115, 116, 7, 101, 120, 97, 109, 112, 108, 101, 0, 0, 1, 0, 1]

/-- The name that `hostQuery` asks for. -/
def hostName : Wire.Name where
  labels := [⟨[104, 111, 115, 116], by decide, by decide⟩, Wire.exampleLabel]
  size_le := by decide

theorem text_hostName : hostName.text = "host.example." := by
  decide +kernel

/-- A plain name is answered, in whatever case it is spelled. -/
theorem host_answered :
    query 7 "Host.example" .a = .ok hostQuery ∧ Wire.PlainSpelling "Host.example" ∧
      (∃ received, Obliges hostQuery "host.example." received) ∧
      askServer obliging "10.0.0.53" "Host.example" () =
        (.ok [Record.address "host.example." 60 ⟨10, 0, 0, 7⟩], ()) := by
  have hquery : query 7 "Host.example" .a = .ok hostQuery := by decide +kernel
  have hplain : Wire.PlainSpelling "Host.example" := ⟨by decide +kernel, by decide +kernel⟩
  have hparse : Wire.Name.parse? "Host.example" = some hostName := by decide +kernel
  obtain ⟨received, hobliges⟩ : ∃ received, Obliges hostQuery hostName.text received :=
    exists_obliges (by cbv)
  rw [text_hostName] at hobliges
  obtain ⟨hreceive, hfaithful, hanswers⟩ := hobliges
  obtain ⟨name, hname, -, hascii, hcounts⟩ := faithful_reply_counts_iff hquery
  obtain rfl : hostName = name := Option.some.inj (hparse.symm.trans hname)
  have hsame : SameName hostName.text "Host.example" := by
    rw [hascii hplain, text_hostName]
    decide
  obtain ⟨-, -, hasked⟩ := hcounts obliging obligingServer () ()
    (obliging.obligingReply hostQuery) received hreceive hfaithful
  have hanswered := hasked "10.0.0.53" () () locate_obliging rfl rfl
  rw [if_pos hsame, hanswers] at hanswered
  exact ⟨hquery, hplain, ⟨received, hreceive, hfaithful, hanswers⟩, hanswered⟩

def munichQuery : List UInt8 :=
  [0, 7, 1, 0, 0, 1, 0, 0, 0, 0, 0, 0,
    14, 120, 110, 45, 45, 109, 110, 99, 104, 101, 110, 45, 51, 121, 97,
    7, 101, 120, 97, 109, 112, 108, 101, 0, 0, 1, 0, 1]

/-- A label in Punycode prints as the characters it stands for, and the faithful reply is
refused. -/
theorem faithful_reply_refused :
    query 7 "xn--mnchen-3ya.example" .a = .ok munichQuery ∧
      (∃ received, Obliges munichQuery "münchen.example." received ∧
        (Reply.ofMessage received.message).echoes "xn--mnchen-3ya.example" = false) ∧
      askServer obliging "10.0.0.53" "xn--mnchen-3ya.example" () =
        (.error (.transport "10.0.0.53:53" ("UDP reply question Some(\"münchen.example.\") " ++
          "does not match xn--mnchen-3ya.example")), ()) := by
  have hquery : query 7 "xn--mnchen-3ya.example" .a = .ok munichQuery := by
    rw [query, askedName, Wire.parse?_munich]
    decide +kernel
  obtain ⟨received, hobliges⟩ : ∃ received, Obliges munichQuery Wire.munich.text received :=
    exists_obliges (by cbv)
  rw [Wire.text_munich] at hobliges
  obtain ⟨hreceive, hfaithful, hanswers⟩ := hobliges
  obtain ⟨name, hname, hencode⟩ := query_eq_ok hquery
  obtain rfl : Wire.munich = name := Option.some.inj (Wire.parse?_munich.symm.trans hname)
  have hother : ¬ SameName Wire.munich.text "xn--mnchen-3ya.example" := by
    rw [Wire.text_munich]
    decide
  have hechoes := hfaithful.echoes_iff hencode hreceive "xn--mnchen-3ya.example"
  have hsend : send obliging .datagram obligingServer munichQuery () =
      (.ok (obliging.obligingReply munichQuery), ()) := by rfl
  have hasked := askServer_of_faithful hquery hfaithful hencode hreceive locate_obliging rfl hsend
  rw [if_neg hother] at hasked
  refine ⟨hquery, ⟨received, ⟨hreceive, hfaithful, hanswers⟩, ?_⟩, ?_⟩
  · exact Bool.eq_false_iff.2 (mt hechoes.1 hother)
  · rw [hasked, refusal, Wire.text_munich]
    rfl

end Resolver
end SplitHorizon
