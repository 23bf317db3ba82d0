/-
Replies that are accepted.

Whoever can send to this server can send anything: bytes that are no message, replies to
another query, replies that are cut.  `Genuine` says what is asked of a reply, and it is asked
of each reply that comes, whichever way it comes.  A reply over a stream is waited for only
behind a genuine datagram that is truncated.

`askServer_accepts_genuine` says that an entry with an address answers exactly if a genuine
reply without error is there in the end, that the records are those of its answer section,
and what is sent meanwhile.
-/
import SplitHorizon.Proofs.Resolver.Failover
import SplitHorizon.Proofs.Wire.Sections

namespace SplitHorizon
namespace Resolver

variable {ν α β : Type} {network : Network ν} {server : SocketAddress} {fqdn : String}
  {id : UInt16} {message bytes : List UInt8} {state after : ν} {first last : Wire.Sections}

theorem bind_eq_ok_iff {act : Act ν α} {next : α → Act ν β} {b : β} :
    (act >>= next) state = (.ok b, after) ↔
      ∃ a middle, act state = (.ok a, middle) ∧ next a middle = (.ok b, after) := by
  constructor
  · intro h
    rcases hact : act state with ⟨fault | a, middle⟩
    · rw [bind_of_error hact] at h
      cases h
    · rw [bind_of_ok hact] at h
      exact ⟨a, middle, rfl, h⟩
  · rintro ⟨a, middle, hact, hnext⟩
    rw [bind_of_ok hact, hnext]

/-! ## One reply -/

/-- The bytes are a message with these sections that replies to a query: it has the number
of the query, is marked as a reply, and its first question prints as the name asked for,
letter case and closing dots left aside. -/
structure Genuine (id : UInt16) (fqdn : String) (bytes : List UInt8) (parts : Wire.Sections) :
    Prop where
  decodes : Wire.decode? bytes = some parts.message
  laidOut : Wire.LaidOut bytes parts
  id : parts.header.id = id
  isResponse : parts.header.isResponse = true
  question : ∃ q, parts.questions.head? = some q ∧ SameName q.name.text fqdn

theorem echoes_ofMessage_iff {parts : Wire.Sections} :
    (Reply.ofMessage parts.message).echoes fqdn = true ↔
      ∃ q, parts.questions.head? = some q ∧ SameName q.name.text fqdn := by
  have hquestion : (Reply.ofMessage parts.message).question =
      parts.questions.head?.map fun q => q.name.text := rfl
  rw [Reply.echoes, hquestion]
  cases parts.questions.head? with
  | none =>
    constructor
    · intro h
      cases h
    · rintro ⟨q, hq, -⟩
      cases hq
  | some q =>
    constructor
    · exact fun h => ⟨q, rfl, h⟩
    · rintro ⟨_, hq, hsame⟩
      obtain rfl := Option.some.inj hq
      exact hsame

theorem mismatch?_eq_none_iff {reply : Reply} :
    mismatch? reply id fqdn = none ↔
      reply.id = id ∧ reply.isResponse = true ∧ reply.echoes fqdn = true := by
  unfold mismatch?
  by_cases hid : reply.id = id
  · cases hresponse : reply.isResponse <;> cases hechoes : reply.echoes fqdn <;> simp [hid]
  · simp [hid]

theorem parse_eq_ok_iff {reply : Reply} :
    Reply.parse bytes = .ok reply ↔
      ∃ m, Wire.decode? bytes = some m ∧ reply = Reply.ofMessage m := by
  unfold Reply.parse
  constructor
  · intro h
    split at h
    · next m hm => exact ⟨m, hm, (Except.ok.inj h).symm⟩
    · cases h
  · rintro ⟨m, hm, rfl⟩
    rw [hm]

/-- A reply passes the checks if and only if it is genuine. -/
theorem genuine_iff {reply : Reply} :
    (Reply.parse bytes = .ok reply ∧ mismatch? reply id fqdn = none) ↔
      ∃ parts, Genuine id fqdn bytes parts ∧ reply = Reply.ofMessage parts.message := by
  rw [parse_eq_ok_iff, mismatch?_eq_none_iff]
  constructor
  · rintro ⟨⟨m, hdecode, rfl⟩, hid, hresponse, hechoes⟩
    obtain ⟨parts, hlaid, -, rfl⟩ := Wire.decode?_eq_some_iff.1 hdecode
    exact ⟨parts, ⟨hdecode, hlaid, hid, hresponse, echoes_ofMessage_iff.1 hechoes⟩, rfl⟩
  · rintro ⟨parts, hgenuine, rfl⟩
    exact ⟨⟨parts.message, hgenuine.decodes, rfl⟩, hgenuine.id, hgenuine.isResponse,
      echoes_ofMessage_iff.2 hgenuine.question⟩

variable {transport : Transport}

theorem exchange_eq_ok_iff {reply : Reply} :
    exchange network transport server fqdn id message state = (.ok reply, after) ↔
      ∃ bytes, send network transport server message state = (.ok bytes, after) ∧
        ∃ parts, Genuine id fqdn bytes parts ∧ reply = Reply.ofMessage parts.message := by
  unfold exchange
  simp only [bind_eq_ok_iff, ← genuine_iff]
  constructor
  · rintro ⟨bytes, middle, hsend, found, later, hparse, hchecked⟩
    obtain ⟨hparsed, rfl⟩ := Prod.mk.inj hparse
    refine ⟨bytes, ?_⟩
    cases hmismatch : mismatch? found id fqdn with
    | some reason =>
      rw [hmismatch] at hchecked
      cases hchecked
    | none =>
      rw [hmismatch] at hchecked
      obtain ⟨hfound, rfl⟩ := Prod.mk.inj hchecked
      obtain rfl := Except.ok.inj hfound
      exact ⟨hsend, hparsed, hmismatch⟩
  · rintro ⟨bytes, hsend, hparse, hmismatch⟩
    refine ⟨bytes, after, hsend, reply, after, ?_, ?_⟩
    · rw [hparse]
      rfl
    · rw [hmismatch]
      rfl

/-! ## What is received -/

theorem send_datagram_eq_ok_iff :
    send network .datagram server message state = (.ok bytes, after) ↔
      ∃ received, network.datagram server message state = (.ok received, after) ∧
        bytes = received.take maxDatagram := by
  rcases hreply : network.datagram server message state with ⟨fault | received, middle⟩
  · simp only [send, hreply]
    constructor
    · intro h
      cases h
    · rintro ⟨_, hreceived, -⟩
      cases hreceived
  · simp only [send, hreply]
    constructor
    · intro h
      obtain ⟨hbytes, rfl⟩ := Prod.mk.inj h
      exact ⟨received, rfl, (Except.ok.inj hbytes).symm⟩
    · rintro ⟨_, hreceived, rfl⟩
      cases hreceived
      rfl

theorem streamMessage_eq_ok_iff {text : String} {reply : StreamReply} :
    streamMessage text reply = .ok bytes ↔
      ∃ rest, Wire.unframe reply.bytes = .ok (bytes, rest) := by
  unfold streamMessage
  rcases Wire.unframe reply.bytes with fault | ⟨found, rest⟩
  · simp
  · simp

theorem send_stream_eq_ok_iff {framed : List UInt8} (hframe : Wire.frame message = .ok framed) :
    send network .stream server message state = (.ok bytes, after) ↔
      ∃ reply rest, network.stream server framed state = (.ok reply, after) ∧
        Wire.unframe reply.bytes = .ok (bytes, rest) := by
  rcases hreply : network.stream server framed state with ⟨fault | reply, middle⟩
  · simp only [send, hframe, hreply]
    constructor
    · intro h
      cases h
    · rintro ⟨_, _, hreceived, -⟩
      cases hreceived
  · simp only [send, hframe, hreply]
    constructor
    · intro h
      obtain ⟨hbytes, rfl⟩ := Prod.mk.inj h
      obtain ⟨rest, hunframe⟩ := streamMessage_eq_ok_iff.1 hbytes
      exact ⟨reply, rest, rfl, hunframe⟩
    · rintro ⟨_, rest, hreceived, hunframe⟩
      cases hreceived
      rw [streamMessage_eq_ok_iff.2 ⟨rest, hunframe⟩]

/-- A query as it is put on a stream, behind its length. -/
def streamed (message : List UInt8) : List UInt8 :=
  Wire.word16Bytes (UInt16.ofNat message.length) ++ message

/-- A query is short enough for a stream. -/
theorem frame_of_query {kind : RecordKind} (h : query id fqdn kind = .ok message) :
    Wire.frame message = .ok (streamed message) := by
  obtain ⟨name, -, hencode⟩ := query_eq_ok h
  obtain ⟨count, -, hlength, -⟩ := Wire.decode?_encode? hencode
  exact if_pos hlength

section

variable (network : Network ν) (server : SocketAddress) (fqdn : String) (id : UInt16)
  (message : List UInt8)

/-- The query is sent by datagram, and what is received of the datagram that comes back is a
genuine reply. -/
def ByDatagram (state : ν) (parts : Wire.Sections) (after : ν) : Prop :=
  ∃ received, network.datagram server message state = (.ok received, after) ∧
    Genuine id fqdn (received.take maxDatagram) parts

/-- The query is sent over a stream, and a genuine reply is the first message that comes
back. -/
def ByStream (state : ν) (parts : Wire.Sections) (after : ν) : Prop :=
  ∃ reply body rest, network.stream server (streamed message) state = (.ok reply, after) ∧
    Wire.unframe reply.bytes = .ok (body, rest) ∧ Genuine id fqdn body parts

/-- Which reply it comes down to: the first one, or the one over a stream if the first one is
truncated. -/
inductive Final (first : Wire.Sections) (middle : ν) : Wire.Sections → ν → Prop
  | whole (hwhole : first.header.truncated = false) : Final first middle first middle
  | retried {last : Wire.Sections} {after : ν} (htruncated : first.header.truncated = true)
    (hstream : ByStream network server fqdn id message middle last after) :
    Final first middle last after

end

theorem exchange_datagram_eq_ok_iff {reply : Reply} :
    exchange network .datagram server fqdn id message state = (.ok reply, after) ↔
      ∃ parts, ByDatagram network server fqdn id message state parts after ∧
        reply = Reply.ofMessage parts.message := by
  rw [exchange_eq_ok_iff]
  constructor
  · rintro ⟨bytes, hsend, parts, hgenuine, rfl⟩
    obtain ⟨received, hreceived, rfl⟩ := send_datagram_eq_ok_iff.1 hsend
    exact ⟨parts, ⟨received, hreceived, hgenuine⟩, rfl⟩
  · rintro ⟨parts, ⟨received, hreceived, hgenuine⟩, rfl⟩
    exact ⟨_, send_datagram_eq_ok_iff.2 ⟨received, hreceived, rfl⟩, parts, hgenuine, rfl⟩

theorem exchange_stream_eq_ok_iff {reply : Reply}
    (hframe : Wire.frame message = .ok (streamed message)) :
    exchange network .stream server fqdn id message state = (.ok reply, after) ↔
      ∃ parts, ByStream network server fqdn id message state parts after ∧
        reply = Reply.ofMessage parts.message := by
  rw [exchange_eq_ok_iff]
  constructor
  · rintro ⟨body, hsend, parts, hgenuine, rfl⟩
    obtain ⟨streamReply, rest, hreply, hbody⟩ := (send_stream_eq_ok_iff hframe).1 hsend
    exact ⟨parts, ⟨streamReply, body, rest, hreply, hbody, hgenuine⟩, rfl⟩
  · rintro ⟨parts, ⟨streamReply, body, rest, hreply, hbody, hgenuine⟩, rfl⟩
    exact ⟨body, (send_stream_eq_ok_iff hframe).2 ⟨streamReply, rest, hreply, hbody⟩, parts,
      hgenuine, rfl⟩

/-! ## One entry -/

theorem verdict_eq_ok_iff {parts : Wire.Sections} {records : List Record} :
    verdict server (Reply.ofMessage parts.message) state = (.ok records, after) ↔
      parts.code = Wire.ResponseCode.noError ∧ records = parts.records ∧ after = state := by
  have hsuccess : (Reply.ofMessage parts.message).isSuccess = true ↔
      parts.code = Wire.ResponseCode.noError := decide_eq_true_iff
  have hrecords : (Reply.ofMessage parts.message).records = parts.records :=
    parts.map_toRecord_answers
  unfold verdict
  rw [hrecords]
  by_cases hcode : parts.code = Wire.ResponseCode.noError
  · rw [if_pos (hsuccess.2 hcode)]
    constructor
    · intro h
      obtain ⟨hfound, hafter⟩ := Prod.mk.inj h
      exact ⟨hcode, (Except.ok.inj hfound).symm, hafter.symm⟩
    · rintro ⟨-, rfl, rfl⟩
      rfl
  · rw [if_neg (mt hsuccess.1 hcode)]
    constructor
    · intro h
      cases h
    · exact fun h => absurd h.1 hcode

/-- What is asked for behind a first reply, and what comes of it. -/
def conclude (network : Network ν) (server : SocketAddress) (fqdn : String) (id : UInt16)
    (message : List UInt8) (first : Reply) : Act ν (List Record) :=
  if first.truncated then exchange network .stream server fqdn id message >>= verdict server
  else pure first >>= verdict server

theorem conclude_eq_ok_iff {records : List Record}
    (hframe : Wire.frame message = .ok (streamed message)) :
    conclude network server fqdn id message (Reply.ofMessage first.message) state =
        (.ok records, after) ↔
      ∃ last, Final network server fqdn id message first state last after ∧
        last.code = Wire.ResponseCode.noError ∧ records = last.records := by
  have htruncated : (Reply.ofMessage first.message).truncated = first.header.truncated := rfl
  unfold conclude
  rw [htruncated]
  cases hflag : first.header.truncated with
  | true =>
    rw [if_pos rfl, bind_eq_ok_iff]
    simp only [exchange_stream_eq_ok_iff hframe]
    constructor
    · rintro ⟨_, middle, ⟨last, hstream, rfl⟩, hverdict⟩
      obtain ⟨hcode, rfl, rfl⟩ := verdict_eq_ok_iff.1 hverdict
      exact ⟨last, .retried hflag hstream, hcode, rfl⟩
    · rintro ⟨last, hfinal, hcode, rfl⟩
      cases hfinal with
      | whole hwhole => exact absurd (hflag.symm.trans hwhole) (by decide)
      | retried _ hstream =>
        exact ⟨_, after, ⟨last, hstream, rfl⟩, verdict_eq_ok_iff.2 ⟨hcode, rfl, rfl⟩⟩
  | false =>
    rw [if_neg Bool.false_ne_true, pure_bind, verdict_eq_ok_iff]
    constructor
    · rintro ⟨hcode, rfl, rfl⟩
      exact ⟨first, .whole hflag, hcode, rfl⟩
    · rintro ⟨last, hfinal, hcode, rfl⟩
      cases hfinal with
      | whole _ => exact ⟨hcode, rfl, rfl⟩
      | retried htrue _ => exact absurd (hflag.symm.trans htrue) (by decide)

variable {entry : String}

theorem freshQuery_of_error {fault : Fault}
    (hquery : query (network.freshId state).1 fqdn .a = .error fault) :
    ∃ after, freshQuery network fqdn state = (.error fault, after) := by
  unfold query at hquery
  cases hname : askedName fqdn with
  | error cause =>
    rw [hname] at hquery
    obtain rfl := Except.error.inj hquery
    exact ⟨state, by simp only [freshQuery, hname]⟩
  | ok name =>
    rw [hname] at hquery
    have hbytes : queryBytes (network.freshId state).1 name .a = .error fault := hquery
    refine ⟨(network.freshId state).2, ?_⟩
    simp only [freshQuery, hname, hbytes]
    rfl

theorem askServer_eq_bind (network : Network ν) (entry fqdn : String) :
    askServer network entry fqdn =
      locate network entry >>= fun server =>
        freshQuery network fqdn >>= fun asked =>
          exchange network .datagram server fqdn asked.1 asked.2 >>=
            conclude network server fqdn asked.1 asked.2 := rfl

theorem askServer_eq_ok_iff (hentry : ResolverAddress.parse entry = .ok (.literal server))
    {records : List Record} :
    askServer network entry fqdn state = (.ok records, after) ↔
      ∃ message first middle last, query (network.freshId state).1 fqdn .a = .ok message ∧
        ByDatagram network server fqdn (network.freshId state).1 message
          (network.freshId state).2 first middle ∧
        Final network server fqdn (network.freshId state).1 message first middle last after ∧
        last.code = Wire.ResponseCode.noError ∧ records = last.records := by
  rw [askServer_eq_bind, bind_of_ok (locate_of_literal hentry network state)]
  cases hquery : query (network.freshId state).1 fqdn .a with
  | error fault =>
    obtain ⟨_, hfresh⟩ := freshQuery_of_error hquery
    rw [bind_of_error hfresh]
    constructor
    · intro h
      cases h
    · rintro ⟨_, _, _, _, hmessage, -⟩
      cases hmessage
  | ok message =>
    have hframe := frame_of_query hquery
    rw [bind_of_ok (freshQuery_of_ok hquery), bind_eq_ok_iff]
    simp only [exchange_datagram_eq_ok_iff]
    constructor
    · rintro ⟨_, middle, ⟨first, hfirst, rfl⟩, hconclude⟩
      obtain ⟨last, hfinal, hcode, rfl⟩ := (conclude_eq_ok_iff hframe).1 hconclude
      exact ⟨message, first, middle, last, rfl, hfirst, hfinal, hcode, rfl⟩
    · rintro ⟨_, first, middle, last, hmessage, hfirst, hfinal, hcode, rfl⟩
      obtain rfl := Except.ok.inj hmessage
      exact ⟨_, middle, ⟨first, hfirst, rfl⟩,
        (conclude_eq_ok_iff hframe).2 ⟨last, hfinal, hcode, rfl⟩⟩

/-! ## What is sent -/

/-- What an entry with an address is sent: nothing if there is no query, the query by
datagram, and the same query over a stream exactly if the datagram that comes back is
genuine and truncated. -/
inductive Contacts (network : Network ν) (server : SocketAddress) (fqdn : String) (state : ν) :
    List Network.Sent → Prop
  | unasked (hquery : ∀ message, query (network.freshId state).1 fqdn .a ≠ .ok message) :
    Contacts network server fqdn state []
  | datagram {message : List UInt8}
    (hquery : query (network.freshId state).1 fqdn .a = .ok message)
    (hwhole : ∀ first middle, ByDatagram network server fqdn (network.freshId state).1 message
      (network.freshId state).2 first middle → first.header.truncated = false) :
    Contacts network server fqdn state [.datagram server message]
  | both {message : List UInt8} {first : Wire.Sections} {middle : ν}
    (hquery : query (network.freshId state).1 fqdn .a = .ok message)
    (hfirst : ByDatagram network server fqdn (network.freshId state).1 message
      (network.freshId state).2 first middle)
    (htruncated : first.header.truncated = true) :
    Contacts network server fqdn state
      [.datagram server message, .stream server (streamed message)]

theorem sends_conclude_whole {reply : Reply} (h : reply.truncated = false) (state : ν) :
    Sends (conclude network server fqdn id message reply)
      (conclude network.recorded server fqdn id message reply) state [] := by
  unfold conclude
  rw [h, if_neg Bool.false_ne_true, if_neg Bool.false_ne_true, pure_bind, pure_bind]
  exact sends_verdict server reply state

theorem sends_conclude_truncated {reply : Reply} (h : reply.truncated = true)
    (hframe : Wire.frame message = .ok (streamed message)) (state : ν) :
    Sends (conclude network server fqdn id message reply)
      (conclude network.recorded server fqdn id message reply) state
      [.stream server (streamed message)] := by
  unfold conclude
  rw [h, if_pos rfl, if_pos rfl]
  exact (sends_exchange (sends_stream hframe network server state) fqdn id).bind_silent
    (sends_verdict server)

theorem exists_contacts (hentry : ResolverAddress.parse entry = .ok (.literal server))
    (network : Network ν) (fqdn : String) (state : ν) :
    ∃ sent, Contacts network server fqdn state sent ∧
      Sends (askServer network entry fqdn) (askServer network.recorded entry fqdn) state sent := by
  have hlocate := locate_of_literal hentry network state
  have hlocates := sends_locate network entry state
  have hfreshens := sends_freshQuery network fqdn state
  simp only [askServer_eq_bind]
  cases hquery : query (network.freshId state).1 fqdn .a with
  | error fault =>
    refine ⟨[], .unasked ?_, ?_⟩
    · intro message hmessage
      rw [hquery] at hmessage
      cases hmessage
    · obtain ⟨_, hfresh⟩ := freshQuery_of_error hquery
      exact hlocates.bind_ok hlocate (hfreshens.bind_error hfresh)
  | ok message =>
    have hfresh := freshQuery_of_ok hquery
    have hframe := frame_of_query hquery
    have hfirsts := sends_exchange
      (sends_datagram network server message (network.freshId state).2) fqdn
      (network.freshId state).1
    rcases hexchange : exchange network .datagram server fqdn (network.freshId state).1 message
      (network.freshId state).2 with ⟨fault | reply, middle⟩
    · refine ⟨[.datagram server message], .datagram hquery ?_, ?_⟩
      · intro first stop hfirst
        rw [exchange_datagram_eq_ok_iff.2 ⟨first, hfirst, rfl⟩] at hexchange
        cases hexchange
      · exact hlocates.bind_ok hlocate (hfreshens.bind_ok hfresh (hfirsts.bind_error hexchange))
    · obtain ⟨first, hfirst, rfl⟩ := exchange_datagram_eq_ok_iff.1 hexchange
      cases htruncated : (Reply.ofMessage first.message).truncated with
      | true =>
        refine ⟨_, .both hquery hfirst htruncated,
          hlocates.bind_ok hlocate (hfreshens.bind_ok hfresh (hfirsts.bind_ok hexchange ?_))⟩
        exact sends_conclude_truncated htruncated hframe middle
      | false =>
        refine ⟨[.datagram server message], .datagram hquery ?_, ?_⟩
        · intro other stop hother
          rw [exchange_datagram_eq_ok_iff.2 ⟨other, hother, rfl⟩] at hexchange
          have hreply : Reply.ofMessage other.message = Reply.ofMessage first.message :=
            Except.ok.inj (Prod.mk.inj hexchange).1
          exact (congrArg Reply.truncated hreply).trans htruncated
        · refine hlocates.bind_ok hlocate
            (hfreshens.bind_ok hfresh (hfirsts.bind_ok hexchange ?_))
          exact sends_conclude_whole htruncated middle

/-! ## Only genuine replies are accepted -/

/-- An entry with an address answers if and only if there is a query for the name, its
datagram is answered with a genuine reply, and the reply it comes down to has no error: this
one, or a genuine one over a stream if this one is truncated.  The records are the addresses
and aliases of the answer section of that reply.  The query is sent once by datagram, and once
more over a stream exactly if the first reply is genuine and truncated. -/
theorem askServer_accepts_genuine
    (hentry : ResolverAddress.parse entry = .ok (.literal server)) (network : Network ν)
    (fqdn : String) (state : ν) :
    (∀ records after, askServer network entry fqdn state = (.ok records, after) ↔
      ∃ message first middle last, query (network.freshId state).1 fqdn .a = .ok message ∧
        ByDatagram network server fqdn (network.freshId state).1 message
          (network.freshId state).2 first middle ∧
        Final network server fqdn (network.freshId state).1 message first middle last after ∧
        last.code = Wire.ResponseCode.noError ∧ records = last.records) ∧
    (∃ sent, Contacts network server fqdn state sent ∧ ∀ log,
      askServer network.recorded entry fqdn (state, log) =
        ((askServer network entry fqdn state).1, (askServer network entry fqdn state).2,
          log ++ sent)) ∧
    ∀ bytes parts, Genuine (network.freshId state).1 fqdn bytes parts →
      ∀ r ∈ parts.answers, Wire.Counted bytes r r.record? :=
  ⟨fun _ _ => askServer_eq_ok_iff hentry, exists_contacts hentry network fqdn state,
    fun _ _ hgenuine => hgenuine.laidOut.counted⟩

/-- A resolver at every address that answers like `obliging`, but over streams only: its
datagrams end behind the question and are marked as truncated. -/
def curt : Network Unit where
  freshId := fun s => (7, s)
  lookUp := fun _ _ s => (.error .silent, s)
  datagram := fun _ query s => (.ok (cut query), s)
  stream := fun _ framed s =>
    (.ok { bytes := streamed (obliging.obligingReply (framed.drop 2)), closed := true }, s)
where
  cut (query : List UInt8) : List UInt8 :=
    [0, 7, 131, 128, 0, 1, 0, 0, 0, 0, 0, 0] ++ query.drop Wire.Header.size

/-- A message that was written as a whole is read as the reply it is. -/
theorem parse_of_complete {m : Wire.Message} (h : Wire.encode? m = some bytes)
    (hcode : m.header.code.val < 16)
    (hcomplete : m.answers = [] ∨ bytes.length + Wire.maxAnswerSize ≤ Wire.maxMessageSize) :
    Reply.parse bytes = .ok (Reply.ofMessage m) := by
  rw [Reply.parse, Wire.decode?_of_complete h hcode hcomplete]

/-- What a resolver says when it is asked for the host. -/
def hostReply (truncated : Bool) (answers : List Wire.Answer) : Wire.Message where
  header :=
    { queryHeader 7 with
      isResponse := true, truncated := truncated, recursionAvailable := true }
  questions := [asks hostName .a]
  answers := answers

theorem curt_answers_over_stream :
    ResolverAddress.parse "10.0.0.53" = .ok (.literal obligingServer) ∧
      askServer curt "10.0.0.53" "Host.example" () =
        (.ok [Record.address "host.example." 60 ⟨10, 0, 0, 7⟩], ()) ∧
      askServer curt.recorded "10.0.0.53" "Host.example" ((), []) =
        (.ok [Record.address "host.example." 60 ⟨10, 0, 0, 7⟩], (),
          [.datagram obligingServer hostQuery, .stream obligingServer (streamed hostQuery)]) := by
  have hentry : ResolverAddress.parse "10.0.0.53" = .ok (.literal obligingServer) := by
    decide +kernel
  have hquery : query 7 "Host.example" .a = .ok hostQuery := by decide +kernel
  have hcut : Reply.parse (curt.cut hostQuery) = .ok
      { id := 7, code := 0, truncated := true, isResponse := true,
        question := some "host.example.", records := [] } := by
    rw [← text_hostName]
    exact @parse_of_complete _ (hostReply true []) (by decide +kernel) (by decide) (Or.inl rfl)
  have hfull : Reply.parse (obliging.obligingReply hostQuery) = .ok
      { id := 7, code := 0, truncated := false, isResponse := true,
        question := some "host.example.",
        records := [Record.address "host.example." 60 ⟨10, 0, 0, 7⟩] } := by
    rw [← text_hostName]
    exact @parse_of_complete _
      (hostReply false [{ name := hostName, ttl := 60, data := .address ⟨10, 0, 0, 7⟩ }])
      (by decide +kernel) (by decide) (Or.inr (by decide))
  obtain ⟨first, hfirst, hcutReply⟩ := genuine_iff.1 (And.intro hcut
    (show mismatch? _ 7 "Host.example" = none by decide +kernel))
  obtain ⟨last, hlast, hfullReply⟩ := genuine_iff.1 (And.intro hfull
    (show mismatch? _ 7 "Host.example" = none by decide +kernel))
  have htruncated : first.header.truncated = true := (congrArg Reply.truncated hcutReply).symm
  have hcode : last.code = Wire.ResponseCode.noError := (congrArg Reply.code hfullReply).symm
  have hrecords : [Record.address "host.example." 60 ⟨10, 0, 0, 7⟩] = last.records :=
    (congrArg Reply.records hfullReply).trans last.map_toRecord_answers
  have hdatagram : ByDatagram curt obligingServer "Host.example" 7 hostQuery () first () :=
    ⟨curt.cut hostQuery, rfl, hfirst⟩
  have hstream : ByStream curt obligingServer "Host.example" 7 hostQuery () last () :=
    ⟨_, obliging.obligingReply hostQuery, [], rfl, by decide +kernel, hlast⟩
  obtain ⟨haccepts, ⟨sent, hcontacts, hsends⟩, -⟩ :=
    askServer_accepts_genuine hentry curt "Host.example" ()
  have hasked := (haccepts _ ()).2 ⟨hostQuery, first, (), last, hquery, hdatagram,
    .retried htruncated hstream, hcode, hrecords⟩
  have hsent : sent =
      [.datagram obligingServer hostQuery, .stream obligingServer (streamed hostQuery)] := by
    cases hcontacts with
    | unasked hnone => exact absurd hquery (hnone hostQuery)
    | datagram hmessage hwhole =>
      obtain rfl := Except.ok.inj (hquery.symm.trans hmessage)
      exact absurd ((hwhole first () hdatagram).symm.trans htruncated) (by decide)
    | both hmessage _ _ =>
      obtain rfl := Except.ok.inj (hquery.symm.trans hmessage)
      rfl
  refine ⟨hentry, hasked, ?_⟩
  rw [hsends [], hasked, hsent, List.nil_append]

end Resolver
end SplitHorizon
