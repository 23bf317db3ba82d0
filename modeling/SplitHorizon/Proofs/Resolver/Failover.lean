/-
One resolver after another.

The entries of a list are asked in turn until one of them answers.  Servers may remember
what they were asked, so it matters not only which entry answers but also which ones were
asked before it, and that none was asked after it.

A `Turn` is what asking a single entry comes to, together with what is sent meanwhile:
nothing, a datagram to the server of the entry, or the same query over a stream behind it.
`AllFail` is a row of turns without an answer.  `askAll_fails_over` says that a list comes to
the first answer behind such a row, and that nothing else is sent.
-/
import SplitHorizon.Proofs.Resolver.Echoes
import SplitHorizon.Proofs.Resolver.Entries

namespace SplitHorizon

/-- Where a message was sent. -/
def Network.Sent.server : Network.Sent → SocketAddress
  | .datagram server _ => server
  | .stream server _ => server

namespace Resolver

variable {ν α β : Type} {network : Network ν} {entry fqdn : String} {server : SocketAddress}
  {id : UInt16} {message : List UInt8} {state after : ν} {sent later : List Network.Sent}

/-! ## What is written down -/

/-- From the state on, the second action does what the first one does, and writes down what
is sent behind whatever was written down before. -/
def Sends (act : Act ν α) (recorded : Act (ν × List Network.Sent) α) (state : ν)
    (sent : List Network.Sent) : Prop :=
  ∀ log, recorded (state, log) = ((act state).1, (act state).2, log ++ sent)

namespace Sends

variable {act : Act ν α} {recorded : Act (ν × List Network.Sent) α} {next : α → Act ν β}
  {recordedNext : α → Act (ν × List Network.Sent) β} {a : α} {fault : Fault}

theorem of_silent (h : ∀ log, recorded (state, log) = ((act state).1, (act state).2, log)) :
    Sends act recorded state [] := by
  intro log
  rw [h log, List.append_nil]

theorem bind_ok (h : Sends act recorded state sent) (ha : act state = (.ok a, after))
    (hnext : Sends (next a) (recordedNext a) after later) :
    Sends (act >>= next) (recorded >>= recordedNext) state (sent ++ later) := by
  intro log
  have hrecorded : recorded (state, log) = (.ok a, after, log ++ sent) := by
    rw [h log, ha]
  rw [bind_of_ok hrecorded, bind_of_ok ha, hnext (log ++ sent), List.append_assoc]

theorem bind_error (h : Sends act recorded state sent) (ha : act state = (.error fault, after)) :
    Sends (act >>= next) (recorded >>= recordedNext) state sent := by
  intro log
  have hrecorded : recorded (state, log) = (.error fault, after, log ++ sent) := by
    rw [h log, ha]
  rw [bind_of_error hrecorded, bind_of_error ha]

/-- What comes behind the action sends nothing. -/
theorem bind_silent (h : Sends act recorded state sent)
    (hnext : ∀ a after, Sends (next a) (recordedNext a) after []) :
    Sends (act >>= next) (recorded >>= recordedNext) state sent := by
  cases ha : act state with
  | mk result after =>
    cases result with
    | error fault => exact h.bind_error ha
    | ok a => exact List.append_nil sent ▸ h.bind_ok ha (hnext a after)

end Sends

theorem sends_locate (network : Network ν) (entry : String) (state : ν) :
    Sends (locate network entry) (locate network.recorded entry) state [] := by
  refine Sends.of_silent fun log => ?_
  unfold locate
  cases ResolverAddress.parse entry with
  | error cause => rfl
  | ok address =>
    cases address with
    | literal address => rfl
    | host name port => rfl

theorem sends_freshQuery (network : Network ν) (fqdn : String) (state : ν) :
    Sends (freshQuery network fqdn) (freshQuery network.recorded fqdn) state [] := by
  refine Sends.of_silent fun log => ?_
  unfold freshQuery
  cases askedName fqdn with
  | error fault => rfl
  | ok name => rfl

theorem sends_datagram (network : Network ν) (server : SocketAddress) (message : List UInt8)
    (state : ν) :
    Sends (send network .datagram server message) (send network.recorded .datagram server message)
      state [.datagram server message] :=
  fun _ => rfl

theorem sends_stream {framed : List UInt8} (h : Wire.frame message = .ok framed)
    (network : Network ν) (server : SocketAddress) (state : ν) :
    Sends (send network .stream server message) (send network.recorded .stream server message)
      state [.stream server framed] := by
  intro log
  simp only [send, h]
  rfl

/-- Only a message that is too long for a frame is not sent over a stream. -/
theorem exists_sends_stream (network : Network ν) (server : SocketAddress)
    (message : List UInt8) (state : ν) :
    ∃ sent, Sends (send network .stream server message)
        (send network.recorded .stream server message) state sent ∧
      (sent = [] ∨ ∃ framed, Wire.frame message = .ok framed ∧ sent = [.stream server framed]) := by
  cases hframe : Wire.frame message with
  | error fault =>
    refine ⟨[], Sends.of_silent fun log => ?_, Or.inl rfl⟩
    simp only [send, hframe]
  | ok framed =>
    exact ⟨_, sends_stream hframe network server state, Or.inr ⟨framed, rfl, rfl⟩⟩

theorem sends_exchange {transport : Transport}
    (h : Sends (send network transport server message)
      (send network.recorded transport server message) state sent) (fqdn : String) (id : UInt16) :
    Sends (exchange network transport server fqdn id message)
      (exchange network.recorded transport server fqdn id message) state sent := by
  refine h.bind_silent fun bytes after => ?_
  refine Sends.bind_silent (Sends.of_silent fun log => rfl) fun reply after => ?_
  refine Sends.of_silent fun log => ?_
  cases mismatch? reply id fqdn with
  | none => rfl
  | some reason => rfl

/-! ## One entry -/

/-- What may be sent while an entry is asked: nothing, a query to its server, or the same
query over a stream as well. -/
inductive Traffic (network : Network ν) (fqdn entry : String) (state : ν) :
    List Network.Sent → Prop
  | none : Traffic network fqdn entry state []
  | datagram {server : SocketAddress} {id : UInt16} {message : List UInt8}
    (hserver : (locate network entry state).1 = .ok server)
    (hquery : query id fqdn .a = .ok message) :
    Traffic network fqdn entry state [.datagram server message]
  | both {server : SocketAddress} {id : UInt16} {message framed : List UInt8}
    (hserver : (locate network entry state).1 = .ok server)
    (hquery : query id fqdn .a = .ok message) (hframe : Wire.frame message = .ok framed) :
    Traffic network fqdn entry state [.datagram server message, .stream server framed]

/-- The entry is asked once, and this is what comes of it. -/
structure Turn (network : Network ν) (fqdn entry : String) (state : ν)
    (result : Except Fault (List Record)) (after : ν) (sent : List Network.Sent) : Prop where
  asked : askServer network entry fqdn state = (result, after)
  recorded : ∀ log,
    askServer network.recorded entry fqdn (state, log) = (result, after, log ++ sent)
  traffic : Traffic network fqdn entry state sent

theorem query_of_freshQuery (h : freshQuery network fqdn state = (.ok (id, message), after)) :
    query id fqdn .a = .ok message := by
  have hresult := congrArg Prod.fst h
  simp only [freshQuery] at hresult
  rw [query]
  cases hname : askedName fqdn with
  | error fault =>
    rw [hname] at hresult
    cases hresult
  | ok name =>
    rw [hname] at hresult
    cases hbytes : queryBytes (network.freshId state).1 name .a with
    | error fault =>
      simp only [hbytes] at hresult
      cases hresult
    | ok bytes =>
      simp only [hbytes] at hresult
      obtain ⟨hid, hmessage⟩ := Prod.mk.inj (Except.ok.inj hresult)
      rw [← hid, ← hmessage]
      exact hbytes

/-- What a reply that counts comes to. -/
def verdict (server : SocketAddress) (reply : Reply) : Act ν (List Record) :=
  if reply.isSuccess then return reply.records
  else throw (.rejected server.text reply.code.text)

theorem sends_verdict (server : SocketAddress) (reply : Reply) (state : ν) :
    Sends (verdict server reply) (verdict server reply) state [] := by
  refine Sends.of_silent fun log => ?_
  unfold verdict
  cases reply.isSuccess with
  | true => rfl
  | false => rfl

/-- A first reply that is truncated is followed by a stream, and no other is. -/
theorem exists_sends_second (network : Network ν) (server : SocketAddress) (fqdn : String)
    (id : UInt16) (message : List UInt8) (first : Reply) (state : ν) :
    ∃ sent, Sends
        (if first.truncated then exchange network .stream server fqdn id message >>= verdict server
          else pure first >>= verdict server)
        (if first.truncated then
            exchange network.recorded .stream server fqdn id message >>= verdict server
          else pure first >>= verdict server) state sent ∧
      (sent = [] ∨ ∃ framed, Wire.frame message = .ok framed ∧ sent = [.stream server framed]) := by
  by_cases htruncated : first.truncated = true
  · obtain ⟨sent, hsends, hframed⟩ := exists_sends_stream network server message state
    rw [if_pos htruncated, if_pos htruncated]
    exact ⟨sent, (sends_exchange hsends fqdn id).bind_silent (sends_verdict server), hframed⟩
  · rw [if_neg htruncated, if_neg htruncated, pure_bind, pure_bind]
    exact ⟨[], sends_verdict server first state, Or.inl rfl⟩

theorem exists_sends_askServer (network : Network ν) (fqdn entry : String) (state : ν) :
    ∃ sent, Sends (askServer network entry fqdn) (askServer network.recorded entry fqdn) state
        sent ∧
      Traffic network fqdn entry state sent := by
  have hlocates := sends_locate network entry state
  rcases hlocate : locate network entry state with ⟨fault | server, found⟩
  · exact ⟨[], hlocates.bind_error hlocate, Traffic.none⟩
  have hserver : (locate network entry state).1 = .ok server := by rw [hlocate]
  have hfreshens := sends_freshQuery network fqdn found
  rcases hfresh : freshQuery network fqdn found with ⟨fault | ⟨id, message⟩, ready⟩
  · exact ⟨[], hlocates.bind_ok hlocate (hfreshens.bind_error hfresh), Traffic.none⟩
  have hquery := query_of_freshQuery hfresh
  have hfirsts := sends_exchange (sends_datagram network server message ready) fqdn id
  rcases hfirst : exchange network .datagram server fqdn id message ready with
    ⟨fault | first, answered⟩
  · exact ⟨[.datagram server message],
      hlocates.bind_ok hlocate (hfreshens.bind_ok hfresh (hfirsts.bind_error hfirst)),
      Traffic.datagram hserver hquery⟩
  obtain ⟨later, hsecond, hlater⟩ :=
    exists_sends_second network server fqdn id message first answered
  refine ⟨[.datagram server message] ++ later,
    hlocates.bind_ok hlocate (hfreshens.bind_ok hfresh (hfirsts.bind_ok hfirst hsecond)), ?_⟩
  rcases hlater with rfl | ⟨framed, hframe, rfl⟩
  · exact Traffic.datagram hserver hquery
  · exact Traffic.both hserver hquery hframe

theorem exists_turn (network : Network ν) (fqdn entry : String) (state : ν) :
    ∃ result after sent, Turn network fqdn entry state result after sent := by
  obtain ⟨sent, hsends, htraffic⟩ := exists_sends_askServer network fqdn entry state
  exact ⟨_, _, sent, rfl, hsends, htraffic⟩

/-- Whatever is sent goes to the server of the entry and asks for the name. -/
theorem Traffic.eq_nil_or (h : Traffic network fqdn entry state sent) :
    sent = [] ∨ ∃ server id message, (locate network entry state).1 = .ok server ∧
      query id fqdn .a = .ok message ∧ ∀ one ∈ sent, one.server = server := by
  cases h with
  | none => exact Or.inl rfl
  | datagram hserver hquery =>
    refine Or.inr ⟨_, _, _, hserver, hquery, fun one hone => ?_⟩
    obtain rfl := List.mem_singleton.1 hone
    rfl
  | both hserver hquery _ =>
    refine Or.inr ⟨_, _, _, hserver, hquery, fun one hone => ?_⟩
    rcases List.mem_cons.1 hone with rfl | hone
    · rfl
    · obtain rfl := List.mem_singleton.1 hone
      rfl

section

variable {result : Except Fault (List Record)}

theorem Turn.of_unreadable (h : Turn network fqdn entry state result after sent)
    {cause : ResolverAddressFault} (hentry : ResolverAddress.parse entry = .error cause) :
    result = .error (.invalidResolver cause) ∧ sent = [] := by
  have hlocate : locate network entry state = (.error (.invalidResolver cause), state) := by
    rw [locate, hentry]
  constructor
  · have hasked := h.asked
    rw [askServer, bind_of_error hlocate] at hasked
    exact (Prod.mk.inj hasked).1.symm
  · refine h.traffic.eq_nil_or.resolve_right ?_
    rintro ⟨server, id, message, hserver, -⟩
    rw [hlocate] at hserver
    cases hserver

/-- A name that cannot be written is not asked for. -/
theorem Turn.of_unwritable (h : Turn network fqdn entry state result after sent)
    (hname : Wire.Name.parse? fqdn = none) : (∃ fault, result = .error fault) ∧ sent = [] := by
  have hnone : ∀ id message, query id fqdn .a ≠ .ok message := by
    intro id message hquery
    obtain ⟨name, hread, -⟩ := query_eq_ok hquery
    rw [hname] at hread
    cases hread
  constructor
  · have hasked := h.asked
    rcases hlocate : locate network entry state with ⟨fault | server, found⟩
    · rw [askServer, bind_of_error hlocate] at hasked
      exact ⟨fault, (Prod.mk.inj hasked).1.symm⟩
    rcases hfresh : freshQuery network fqdn found with ⟨fault | ⟨id, message⟩, ready⟩
    · rw [askServer, bind_of_ok hlocate, bind_of_error hfresh] at hasked
      exact ⟨fault, (Prod.mk.inj hasked).1.symm⟩
    · exact absurd (query_of_freshQuery hfresh) (hnone id message)
  · refine h.traffic.eq_nil_or.resolve_right ?_
    rintro ⟨server, id, message, -, hquery, -⟩
    exact hnone id message hquery

theorem Turn.server_eq (h : Turn network fqdn entry state result after sent)
    {address : SocketAddress} (hentry : ResolverAddress.parse entry = .ok (.literal address)) :
    ∀ one ∈ sent, one.server = address := by
  have hlocate := locate_of_literal hentry network state
  rcases h.traffic.eq_nil_or with rfl | ⟨server, id, message, hserver, -, hall⟩
  · exact fun one hone => absurd hone List.not_mem_nil
  · rw [hlocate] at hserver
    obtain rfl := Except.ok.inj hserver
    exact hall

end

/-! ## A list of entries -/

/-- The entries are asked in turn, each of them once, and none of them answers. -/
inductive AllFail (network : Network ν) (fqdn : String) :
    List String → ν → List Network.Sent → ν → Prop
  | nil {state : ν} : AllFail network fqdn [] state [] state
  | cons {entry : String} {rest : List String} {state next after : ν} {fault : Fault}
    {sent later : List Network.Sent}
    (hfirst : Turn network fqdn entry state (.error fault) next sent)
    (hrest : AllFail network fqdn rest next later after) :
    AllFail network fqdn (entry :: rest) state (sent ++ later) after

theorem askInTurn_of_error {rest : List String} {fault : Fault}
    (h : askServer network entry fqdn state = (.error fault, after)) :
    askInTurn network fqdn (entry :: rest) state = askInTurn network fqdn rest after := by
  simp only [askInTurn, h]

theorem askInTurn_of_ok {rest : List String} {records : List Record}
    (h : askServer network entry fqdn state = (.ok records, after)) :
    askInTurn network fqdn (entry :: rest) state = (.ok records, after) := by
  simp only [askInTurn, h]

/-- Behind entries that fail the list goes on. -/
theorem askInTurn_of_allFail {before : List String}
    (h : AllFail network fqdn before state sent after) (rest : List String)
    (log : List Network.Sent) :
    askInTurn network.recorded fqdn (before ++ rest) (state, log) =
      askInTurn network.recorded fqdn rest (after, log ++ sent) := by
  induction h generalizing log with
  | nil => rw [List.nil_append, List.append_nil]
  | cons hfirst _ ih =>
    rw [List.cons_append, askInTurn_of_error (hfirst.recorded log), ih, List.append_assoc]

/-- Either no entry answers, or there is a first one that does. -/
theorem allFail_or_first (network : Network ν) (fqdn : String) (servers : List String)
    (state : ν) :
    (∃ sent after, AllFail network fqdn servers state sent after) ∨
      ∃ before entry later sent next records after last, servers = before ++ entry :: later ∧
        AllFail network fqdn before state sent next ∧
        Turn network fqdn entry next (.ok records) after last := by
  induction servers generalizing state with
  | nil => exact Or.inl ⟨[], state, AllFail.nil⟩
  | cons entry rest ih =>
    obtain ⟨result, next, sent, hturn⟩ := exists_turn network fqdn entry state
    cases result with
    | ok records => exact Or.inr ⟨[], entry, rest, [], state, records, next, sent, rfl, .nil, hturn⟩
    | error fault =>
      rcases ih next with ⟨others, after, hrest⟩ |
        ⟨before, answering, later, others, found, records, after, last, rfl, hbefore, hanswer⟩
      · exact Or.inl ⟨sent ++ others, after, AllFail.cons hturn hrest⟩
      · exact Or.inr ⟨entry :: before, answering, later, sent ++ others, found, records, after,
          last, rfl, AllFail.cons hturn hbefore, hanswer⟩

/-- Writing down what is sent changes nothing else. -/
theorem askInTurn_recorded (network : Network ν) (fqdn : String) (servers : List String)
    (state : ν) (log : List Network.Sent) :
    askInTurn network fqdn servers state =
      ((askInTurn network.recorded fqdn servers (state, log)).1,
        (askInTurn network.recorded fqdn servers (state, log)).2.1) := by
  induction servers generalizing state log with
  | nil => rfl
  | cons entry rest ih =>
    obtain ⟨result, next, sent, hturn⟩ := exists_turn network fqdn entry state
    cases result with
    | ok records => rw [askInTurn_of_ok hturn.asked, askInTurn_of_ok (hturn.recorded log)]
    | error fault =>
      rw [askInTurn_of_error hturn.asked, askInTurn_of_error (hturn.recorded log)]
      exact ih next (log ++ sent)

/-! ## Whole lists -/

theorem askAll_of_ne_nil {servers : List String} (h : servers ≠ []) :
    askAll network fqdn servers = askInTurn network fqdn servers :=
  if_neg (mt List.isEmpty_iff.1 h)

theorem askAll_of_allFail {servers : List String} (hne : servers ≠ [])
    (h : AllFail network fqdn servers state sent after) (log : List Network.Sent) :
    askAll network.recorded fqdn servers (state, log) =
      (.error .allUnreachable, after, log ++ sent) := by
  have hrun := askInTurn_of_allFail h [] log
  rw [List.append_nil] at hrun
  rw [askAll_of_ne_nil hne, hrun]
  rfl

theorem askAll_of_first {before rest : List String} {records : List Record} {next : ν}
    (hbefore : AllFail network fqdn before state sent next)
    (hturn : Turn network fqdn entry next (.ok records) after later) (log : List Network.Sent) :
    askAll network.recorded fqdn (before ++ entry :: rest) (state, log) =
      (.ok records, after, log ++ (sent ++ later)) := by
  have hne : before ++ entry :: rest ≠ [] :=
    List.append_ne_nil_of_right_ne_nil before (List.cons_ne_nil entry rest)
  rw [askAll_of_ne_nil hne, askInTurn_of_allFail hbefore,
    askInTurn_of_ok (hturn.recorded (log ++ sent)), List.append_assoc]

theorem askAll_eq_ok_iff {servers : List String} {log written : List Network.Sent}
    {records : List Record} :
    askAll network.recorded fqdn servers (state, log) = (.ok records, after, written) ↔
      ∃ before entry rest failed next last, servers = before ++ entry :: rest ∧
        AllFail network fqdn before state failed next ∧
        Turn network fqdn entry next (.ok records) after last ∧
        written = log ++ (failed ++ last) := by
  constructor
  · intro hask
    rcases allFail_or_first network fqdn servers state with ⟨sent, stop, hfail⟩ |
      ⟨before, entry, rest, failed, next, found, stop, last, rfl, hbefore, hturn⟩
    · by_cases hne : servers = []
      · subst hne
        cases hask
      · rw [askAll_of_allFail hne hfail log] at hask
        cases hask
    · rw [askAll_of_first hbefore hturn log] at hask
      cases hask
      exact ⟨before, entry, rest, failed, next, last, rfl, hbefore, hturn, rfl⟩
  · rintro ⟨before, entry, rest, failed, next, last, rfl, hbefore, hturn, rfl⟩
    exact askAll_of_first hbefore hturn log

theorem askAll_eq_error_iff {servers : List String} {log written : List Network.Sent}
    {fault : Fault} :
    askAll network.recorded fqdn servers (state, log) = (.error fault, after, written) ↔
      (servers = [] ∧ fault = .noResolvers ∧ after = state ∧ written = log) ∨
      (servers ≠ [] ∧ fault = .allUnreachable ∧
        ∃ failed, AllFail network fqdn servers state failed after ∧ written = log ++ failed) := by
  constructor
  · intro hask
    by_cases hne : servers = []
    · subst hne
      cases hask
      exact Or.inl ⟨rfl, rfl, rfl, rfl⟩
    · rcases allFail_or_first network fqdn servers state with ⟨sent, stop, hfail⟩ |
        ⟨before, entry, rest, failed, next, found, stop, last, rfl, hbefore, hturn⟩
      · rw [askAll_of_allFail hne hfail log] at hask
        cases hask
        exact Or.inr ⟨hne, rfl, sent, hfail, rfl⟩
      · rw [askAll_of_first hbefore hturn log] at hask
        cases hask
  · rintro (⟨rfl, rfl, rfl, rfl⟩ | ⟨hne, rfl, failed, hfail, rfl⟩)
    · rfl
    · exact askAll_of_allFail hne hfail log

theorem askAll_recorded (network : Network ν) (fqdn : String) (servers : List String)
    (state : ν) (log : List Network.Sent) :
    askAll network fqdn servers state =
      ((askAll network.recorded fqdn servers (state, log)).1,
        (askAll network.recorded fqdn servers (state, log)).2.1) := by
  by_cases hne : servers = []
  · subst hne
    rfl
  · rw [askAll_of_ne_nil hne, askAll_of_ne_nil hne]
    exact askInTurn_recorded network fqdn servers state log

/-- A list comes to the first answer of an entry behind entries that fail, and to a fault of
its own if all fail or there is none.  What is sent is what these entries send: nothing for
one that cannot be read or for a name that cannot be written, and nothing to any other
server. -/
theorem askAll_fails_over (network : Network ν) (fqdn : String) (servers : List String)
    (state : ν) (log : List Network.Sent) :
    (∀ records after written,
      askAll network.recorded fqdn servers (state, log) = (.ok records, after, written) ↔
        ∃ before entry rest failed next last, servers = before ++ entry :: rest ∧
          AllFail network fqdn before state failed next ∧
          Turn network fqdn entry next (.ok records) after last ∧
          written = log ++ (failed ++ last)) ∧
    (∀ fault after written,
      askAll network.recorded fqdn servers (state, log) = (.error fault, after, written) ↔
        (servers = [] ∧ fault = .noResolvers ∧ after = state ∧ written = log) ∨
        (servers ≠ [] ∧ fault = .allUnreachable ∧
          ∃ failed, AllFail network fqdn servers state failed after ∧ written = log ++ failed)) ∧
    askAll network fqdn servers state =
      ((askAll network.recorded fqdn servers (state, log)).1,
        (askAll network.recorded fqdn servers (state, log)).2.1) ∧
    ∀ entry start result after sent, Turn network fqdn entry start result after sent →
      (∀ cause, ResolverAddress.parse entry = .error cause →
        result = .error (.invalidResolver cause) ∧ sent = []) ∧
      (∀ address, ResolverAddress.parse entry = .ok (.literal address) →
        ∀ one ∈ sent, one.server = address) ∧
      (Wire.Name.parse? fqdn = none → (∃ fault, result = .error fault) ∧ sent = []) :=
  ⟨fun _ _ _ => askAll_eq_ok_iff, fun _ _ _ => askAll_eq_error_iff,
    askAll_recorded network fqdn servers state log, fun _ _ _ _ _ hturn =>
      ⟨fun _ => hturn.of_unreadable, fun _ => hturn.server_eq, hturn.of_unwritable⟩⟩

end Resolver
end SplitHorizon
