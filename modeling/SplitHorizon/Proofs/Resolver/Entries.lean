/-
Entries of resolver lists.

An entry is read by three grammars in turn: a socket address, an address that may stand in
brackets, and a host with a port or without one.  `Reads` says which of them takes a text, and
`parse_eq_ok_iff` that this is all there is to reading.  The ports of hosts may have a plus sign
and those of socket addresses may not, so an IPv4 address with such a port slips through to the
last grammar and is taken for a host.  `entries_read_back` says what holds of every entry and that
this is the only exception for what is printed.
-/
import SplitHorizon.Proofs.Address.Sockets
import SplitHorizon.Resolver.Exchange

namespace SplitHorizon

/-- An address is not looked up. -/
theorem Resolver.locate_of_literal {ν : Type} {entry : String} {server : SocketAddress}
    (hentry : ResolverAddress.parse entry = .ok (.literal server)) (network : Network ν)
    (state : ν) : locate network entry state = (.ok server, state) := by
  rw [locate, hentry]

namespace ResolverAddress

open SocketAddress (PortText Spelled spelled_chars portText_decimalChars bracketed_eq
  getLast?_of_port trimmed_of_port append_cons_inj_of_last)

variable {cs digits name : List Char} {port : UInt16} {e : ResolverAddress} {s : String}

/-! ## The text after the last colon -/

theorem splitLastColon_of_notMem (h : ':' ∉ cs) : splitLastColon cs = none := by
  have hall : cs.reverse.takeWhile (· ≠ ':') = cs.reverse := by
    rw [List.takeWhile_eq_self_iff]
    intro c hc
    exact decide_eq_true fun heq => h (heq ▸ List.mem_reverse.1 hc)
  rw [splitLastColon, hall, List.length_reverse, if_neg (Nat.lt_irrefl _)]

theorem splitLastColon_append (h : ':' ∉ digits) (name : List Char) :
    splitLastColon (name ++ ':' :: digits) = some (name, digits) := by
  have hback : (name ++ ':' :: digits).reverse.takeWhile (· ≠ ':') = digits.reverse := by
    have hkeep : ∀ c ∈ digits.reverse, decide (c ≠ ':') = true :=
      fun c hc => decide_eq_true fun heq => h (heq ▸ List.mem_reverse.1 hc)
    rw [List.reverse_append, List.reverse_cons, List.append_assoc,
      List.takeWhile_append_of_pos hkeep]
    simp
  have hlength : (name ++ ':' :: digits).length - digits.length - 1 = name.length := by
    rw [List.length_append, List.length_cons]
    omega
  have hshort : digits.length < (name ++ ':' :: digits).length := by
    rw [List.length_append, List.length_cons]
    omega
  rw [splitLastColon, hback, List.length_reverse, if_pos hshort, hlength, List.take_left,
    List.reverse_reverse]

theorem exists_last_colon (h : ':' ∈ cs) : ∃ name digits, cs = name ++ ':' :: digits ∧
    ':' ∉ digits := by
  obtain ⟨back, front, hreverse, hback⟩ :=
    List.eq_append_cons_of_mem (List.mem_reverse.2 h)
  refine ⟨front.reverse, back.reverse, ?_, fun hmem => hback (List.mem_reverse.1 hmem)⟩
  rw [← List.reverse_reverse cs, hreverse]
  simp

/-! ## Hosts -/

/-- The ways a host's port is written: digits, or digits behind a plus sign. -/
inductive HostPort : List Char → UInt16 → Prop
  | plain {digits : List Char} {port : UInt16} (hport : PortText digits port) :
      HostPort digits port
  | signed {digits : List Char} {port : UInt16} (hport : PortText digits port) :
      HostPort ('+' :: digits) port

/-- The texts of a host: a name without colons, and a port behind it unless it is the default. -/
inductive NamesHost : List Char → List Char → UInt16 → Prop
  | bare {name : List Char} (hname : name ≠ []) (hcolon : ':' ∉ name) :
      NamesHost name name defaultPort
  | ported {name digits : List Char} {port : UInt16} (hname : name ≠ []) (hcolon : ':' ∉ name)
      (hport : HostPort digits port) : NamesHost (name ++ ':' :: digits) name port

theorem HostPort.notMem (h : HostPort digits port) {c : Char}
    (hdigit : Text.isDigitOf 10 c = false) (hplus : c ≠ '+') : c ∉ digits := by
  cases h with
  | plain hport => exact hport.numeral.notMem hdigit
  | signed hport =>
    intro hmem
    rcases List.mem_cons.1 hmem with heq | hmem
    · exact hplus heq
    · exact hport.numeral.notMem hdigit hmem

theorem HostPort.colon_notMem (h : HostPort digits port) : ':' ∉ digits :=
  h.notMem (by decide) (by decide)

theorem NamesHost.ne_nil (h : NamesHost cs name port) : name ≠ [] := by
  cases h with
  | bare hname => exact hname
  | ported hname => exact hname

theorem NamesHost.colon_notMem (h : NamesHost cs name port) : ':' ∉ name := by
  cases h with
  | bare _ hcolon => exact hcolon
  | ported _ hcolon => exact hcolon

/-- A host's text starts as its name does. -/
theorem NamesHost.head?_eq (h : NamesHost cs name port) : cs.head? = name.head? := by
  cases h with
  | bare => rfl
  | ported hname => exact List.head?_append_of_ne_nil _ hname

theorem portText_withoutPlus_iff :
    PortText (Text.withoutPlus digits) port ↔ HostPort digits port := by
  by_cases hplus : digits.head? = some '+'
  · obtain ⟨rest, rfl⟩ := List.head?_eq_some_iff.1 hplus
    constructor
    · exact .signed
    · intro h
      cases h with
      | plain hport => exact absurd List.mem_cons_self (hport.numeral.notMem (by decide))
      | signed hport => exact hport
  · rw [Text.withoutPlus_of_head? hplus]
    constructor
    · exact .plain
    · intro h
      cases h with
      | plain hport => exact hport
      | signed => exact absurd rfl hplus

theorem readUnsigned_eq_some_iff {n : Nat} :
    Text.readUnsigned 0xFFFF (String.ofList digits) = some n ↔
      ∃ port, HostPort digits port ∧ n = port.toNat := by
  simp only [Text.readUnsigned_eq_some_iff, String.toList_ofList,
    SocketAddress.readNumber_port_iff, portText_withoutPlus_iff]

/-- The last step of reading a host: whether the name can be one. -/
theorem checkedHost_eq_ok_iff {fault : ResolverAddressFault} :
    (if name.isEmpty || name.contains ':' then Except.error fault
      else .ok (host (String.ofList name) port)) = .ok e ↔
      (name ≠ [] ∧ ':' ∉ name) ∧ e = .host (String.ofList name) port := by
  by_cases hgood : name ≠ [] ∧ ':' ∉ name
  · have hnot : (name.isEmpty || name.contains ':') = false := by simpa using hgood
    rw [hnot, if_neg Bool.false_ne_true]
    exact ⟨fun h => ⟨hgood, (Except.ok.inj h).symm⟩, fun h => congrArg Except.ok h.2.symm⟩
  · have hbad : (name.isEmpty || name.contains ':') = true := by
      rw [← Bool.not_eq_false]
      exact fun hnot => hgood (by simpa using hnot)
    rw [hbad, if_pos rfl]
    constructor
    · exact fun h => nomatch h
    · exact fun h => absurd h.1 hgood

theorem hostOf_eq_ok_iff :
    hostOf cs = .ok e ↔ ∃ name port, NamesHost cs name port ∧
      e = .host (String.ofList name) port := by
  by_cases hcolon : ':' ∈ cs
  · obtain ⟨name, digits, rfl, hdigits⟩ := exists_last_colon hcolon
    simp only [hostOf, splitLastColon_append hdigits name]
    constructor
    · intro h
      split at h
      · next n hn =>
        obtain ⟨port, hport, rfl⟩ := readUnsigned_eq_some_iff.1 hn
        rw [UInt16.ofNat_toNat] at h
        obtain ⟨hname, rfl⟩ := checkedHost_eq_ok_iff.1 h
        exact ⟨name, port, .ported hname.1 hname.2 hport, rfl⟩
      · cases h
    · rintro ⟨name', port, hhost, rfl⟩
      generalize hcs : name ++ ':' :: digits = cs at hhost
      cases hhost with
      | bare _ hnone => exact absurd (by simp [← hcs]) hnone
      | @ported _ digits' _ hname hnone hport =>
        obtain ⟨rfl, rfl⟩ := append_cons_inj_of_last hdigits hport.colon_notMem hcs
        rw [readUnsigned_eq_some_iff.2 ⟨port, hport, rfl⟩]
        simp only [UInt16.ofNat_toNat]
        exact checkedHost_eq_ok_iff.2 ⟨⟨hname, hnone⟩, rfl⟩
  · simp only [hostOf, splitLastColon_of_notMem hcolon]
    rw [checkedHost_eq_ok_iff]
    constructor
    · rintro ⟨hname, rfl⟩
      exact ⟨cs, defaultPort, .bare hname.1 hname.2, rfl⟩
    · rintro ⟨name, port, hhost, rfl⟩
      cases hhost with
      | bare hname hnone => exact ⟨⟨hname, hnone⟩, rfl⟩
      | ported => exact absurd (by simp) hcolon

/-! ## Square brackets -/

theorem unbracketed_cases (cs : List Char) :
    unbracketed cs = cs ∨ cs = '[' :: (unbracketed cs ++ [']']) := by
  unfold unbracketed
  split
  · next rest =>
    split
    · next hlast =>
      obtain ⟨inner, rfl⟩ := List.getLast?_eq_some_iff.1 hlast
      exact Or.inr (by rw [List.dropLast_concat])
    · exact Or.inl rfl
  · exact Or.inl rfl

theorem unbracketed_of_getLast? (h : cs.getLast? ≠ some ']') : unbracketed cs = cs := by
  refine (unbracketed_cases cs).resolve_right fun hcs => h ?_
  rw [hcs, ← List.cons_append, List.getLast?_concat]

/-! ## The three grammars -/

/-- The entry that a text without blanks around it is read as. -/
inductive Reads : List Char → ResolverAddress → Prop
  | socket {cs : List Char} {a : SocketAddress} (h : Spelled cs a) : Reads cs (.literal a)
  | address {cs : List Char} {ip : Ip} (hsocket : ∀ a, ¬ Spelled cs a)
      (hip : Ip.parseChars? (unbracketed cs) = some ip) :
      Reads cs (.literal (.ofIp ip defaultPort))
  | host {cs name : List Char} {port : UInt16} (hsocket : ∀ a, ¬ Spelled cs a)
      (hip : Ip.parseChars? (unbracketed cs) = none) (hhost : NamesHost cs name port) :
      Reads cs (.host (String.ofList name) port)

theorem Reads.ne_nil (h : Reads cs e) : cs ≠ [] := by
  rintro rfl
  cases h with
  | socket h => exact h.ne_nil rfl
  | address _ hip => exact nomatch hip
  | host _ _ hhost =>
    generalize hcs : ([] : List Char) = cs at hhost
    cases hhost with
    | bare hname => exact hname hcs.symm
    | ported => simp at hcs

theorem parse_eq_ok_iff : parse s = .ok e ↔ Reads (Text.trimChars s.toList) e := by
  unfold parse
  generalize Text.trimChars s.toList = cs
  have hsocket : ∀ a, SocketAddress.parse? (String.ofList cs) = some a ↔ Spelled cs a := by
    intro a
    rw [SocketAddress.parse?_eq_some_iff, String.toList_ofList]
  simp only
  constructor
  · intro h
    split at h
    · cases h
    · split at h
      · next a ha =>
        obtain rfl := Except.ok.inj h
        exact .socket ((hsocket a).1 ha)
      · next hnone =>
        have hnot : ∀ a, ¬ Spelled cs a := by
          intro a ha
          rw [(hsocket a).2 ha] at hnone
          cases hnone
        split at h
        · next ip hip =>
          obtain rfl := Except.ok.inj h
          exact .address hnot hip
        · next hip =>
          obtain ⟨name, port, hhost, rfl⟩ := hostOf_eq_ok_iff.1 h
          exact .host hnot hip hhost
  · intro h
    have hfull : cs.isEmpty = false := List.isEmpty_eq_false_iff.2 h.ne_nil
    have hnone : (∀ a, ¬ Spelled cs a) → SocketAddress.parse? (String.ofList cs) = none :=
      fun hnot => Option.eq_none_iff_forall_ne_some.2 fun a ha => hnot a ((hsocket a).1 ha)
    rw [hfull, if_neg Bool.false_ne_true]
    cases h with
    | socket h => rw [(hsocket _).2 h]
    | address hnot hip => rw [hnone hnot, hip]
    | host hnot hip hhost =>
      rw [hnone hnot, hip]
      exact hostOf_eq_ok_iff.2 ⟨_, _, hhost, rfl⟩

/-! ## Names with a port -/

/-- With a port behind it, a name without colons is no address. -/
theorem parseChars?_of_port (hname : ':' ∉ name) (hport : HostPort digits port) :
    Ip.parseChars? (unbracketed (name ++ ':' :: digits)) = none := by
  have hlast : (name ++ ':' :: digits).getLast? ≠ some ']' := by
    intro hlast
    rcases List.mem_cons.1 (getLast?_of_port hlast) with heq | hmem
    · exact absurd heq (by decide)
    · exact hport.notMem (by decide) (by decide) hmem
  rw [unbracketed_of_getLast? hlast]
  refine Option.eq_none_iff_forall_ne_some.2 fun ip hip => ?_
  cases ip with
  | v4 ip =>
    exact ip.colon_notMem_chars (Ip.parseChars?_v4.1 hip ▸ by simp)
  | v6 ip =>
    have htwo := Ipv6.two_le_count_colon (Ip.parseChars?_v6.1 hip)
    rw [List.count_append, List.count_cons_self, List.count_eq_zero_of_not_mem hname,
      List.count_eq_zero_of_not_mem hport.colon_notMem] at htwo
    omega

/-- Of these texts, those of a socket address are the IPv4 addresses with a port in digits. -/
theorem spelled_port_iff {a : SocketAddress} (hname : ':' ∉ name) (hport : HostPort digits port) :
    Spelled (name ++ ':' :: digits) a ↔
      ∃ ip : Ipv4, name = ip.chars ∧ PortText digits port ∧ a = .ofIp (.v4 ip) port := by
  constructor
  · intro h
    generalize hcs : name ++ ':' :: digits = cs at h
    cases h with
    | @v4 ip digits' port' hport' =>
      obtain ⟨rfl, rfl⟩ := append_cons_inj_of_last hport.colon_notMem
        (hport'.numeral.notMem (by decide)) hcs
      cases hport with
      | plain hplain =>
        obtain rfl := hport'.unique hplain
        exact ⟨ip, rfl, hplain, rfl⟩
      | signed => exact absurd List.mem_cons_self (hport'.numeral.notMem (by decide))
    | @v6 front scopeText digits' ip _ _ hip _ hport' =>
      -- The name would be what stands in brackets, which has colons.
      obtain ⟨rfl, -⟩ := append_cons_inj_of_last hport.colon_notMem
        (hport'.numeral.notMem (by decide)) (hcs.trans (bracketed_eq front scopeText digits'))
      exact absurd (by simp [Ipv6.colon_mem_of_read? hip]) hname
  · rintro ⟨ip, rfl, hplain, rfl⟩
    exact .v4 ip hplain

/-! ## What is printed -/

theorem parse_ofList_of_reads (h : Reads cs e) (htrimmed : Text.Trimmed cs) :
    parse (String.ofList cs) = .ok e := by
  rw [parse_eq_ok_iff, String.toList_ofList, Text.trimChars_eq_self htrimmed]
  exact h

theorem parse_text_literal {a : SocketAddress} (h : ∀ ip, a.ip = .v4 ip → a.scope = 0) :
    parse (literal a).text = .ok (.literal a) :=
  parse_ofList_of_reads (.socket (spelled_chars h)) (spelled_chars h).trimmed

theorem text_host (name : List Char) (port : UInt16) :
    (host (String.ofList name) port).text =
      String.ofList (name ++ ':' :: Text.decimalChars port.toNat) := by
  rw [← String.toList_inj]
  simp [text, Text.decimal]

/-- What is printed for a host is read back, unless it reads as an IPv4 address. -/
theorem parse_text_host (hname : name ≠ []) (hcolon : ':' ∉ name)
    (hhead : ∀ c ∈ name.head?, Text.isBlank c = false) (port : UInt16)
    (hnot : ∀ ip : Ipv4, name ≠ ip.chars) :
    parse (host (String.ofList name) port).text = .ok (.host (String.ofList name) port) := by
  have hport := portText_decimalChars port
  have hplain : HostPort (Text.decimalChars port.toNat) port := .plain hport
  have hsocket : ∀ a, ¬ Spelled (name ++ ':' :: Text.decimalChars port.toNat) a := by
    intro a ha
    obtain ⟨ip, hip, -⟩ := (spelled_port_iff hcolon hplain).1 ha
    exact hnot ip hip
  rw [text_host]
  exact parse_ofList_of_reads (.host hsocket (parseChars?_of_port hcolon hplain)
    (.ported hname hcolon hplain)) (trimmed_of_port hname hhead hport)

/-! ## Hosts that are addresses -/

/-- An IPv4 address and a port with a plus sign. -/
def SignedPort (cs : List Char) (ip : Ipv4) (port : UInt16) : Prop :=
  ∃ digits, PortText digits port ∧ cs = ip.chars ++ ':' :: '+' :: digits

/-- An IPv4 address in square brackets and a port. -/
def BracketedIpv4 (cs : List Char) (ip : Ipv4) (port : UInt16) : Prop :=
  ∃ digits, HostPort digits port ∧ cs = '[' :: (ip.chars ++ ']' :: ':' :: digits)

theorem reads_of_signedPort {ip : Ipv4} (h : SignedPort cs ip port) :
    Reads cs (.host ip.text port) := by
  obtain ⟨digits, hport, rfl⟩ := h
  have hcolon := ip.colon_notMem_chars
  have hsigned : HostPort ('+' :: digits) port := .signed hport
  refine .host (fun a ha => ?_) (parseChars?_of_port hcolon hsigned)
    (.ported ip.chars_ne_nil hcolon hsigned)
  obtain ⟨_, -, hplain, -⟩ := (spelled_port_iff hcolon hsigned).1 ha
  exact hplain.numeral.notMem (by decide) List.mem_cons_self

/-- An address in the place of a host's name is an IPv4 one. -/
theorem ipv4_of_notMem {ip : Ip} (hcolon : ':' ∉ cs) (h : Ip.parseChars? cs = some ip) :
    ∃ v4 : Ipv4, ip = .v4 v4 ∧ cs = v4.chars := by
  cases ip with
  | v4 v4 => exact ⟨v4, rfl, Ip.parseChars?_v4.1 h⟩
  | v6 v6 => exact absurd (Ipv6.colon_mem_of_read? (Ip.parseChars?_v6.1 h)) hcolon

theorem unbracketed_ipv4 (ip : Ipv4) : unbracketed ip.chars = ip.chars :=
  unbracketed_of_getLast? fun hlast =>
    Ipv4.notMem_chars (by decide) (by decide) (List.mem_of_getLast? hlast)

/-- A host is named by an IPv4 address only if the sign of its port kept it from being read as
one. -/
theorem signedPort_of_host {ip : Ipv4} (hsocket : ∀ a, ¬ Spelled cs a)
    (hnone : Ip.parseChars? (unbracketed cs) = none) (hhost : NamesHost cs ip.chars port) :
    SignedPort cs ip port := by
  generalize hname : ip.chars = name at hhost
  cases hhost with
  | bare =>
    rw [← hname, unbracketed_ipv4, Ip.parseChars?_v4.2 rfl] at hnone
    cases hnone
  | ported _ _ hport =>
    subst hname
    cases hport with
    | plain hplain => exact absurd (.v4 ip hplain) (hsocket _)
    | signed hplain => exact ⟨_, hplain, rfl⟩

/-- An address is taken for the name of a host in two ways only. -/
theorem host_address_cases {ip : Ip} (hsocket : ∀ a, ¬ Spelled cs a)
    (hnone : Ip.parseChars? (unbracketed cs) = none) (hhost : NamesHost cs name port)
    (hip : Ip.parseChars? (unbracketed name) = some ip) :
    ∃ v4 : Ipv4, ip = .v4 v4 ∧ (SignedPort cs v4 port ∨ BracketedIpv4 cs v4 port) := by
  rcases unbracketed_cases name with hself | hbrackets
  · rw [hself] at hip
    obtain ⟨v4, rfl, rfl⟩ := ipv4_of_notMem hhost.colon_notMem hip
    exact ⟨v4, rfl, Or.inl (signedPort_of_host hsocket hnone hhost)⟩
  · have hinner : ':' ∉ unbracketed name :=
      fun hmem => hhost.colon_notMem (hbrackets ▸ by simp [hmem])
    obtain ⟨v4, rfl, hchars⟩ := ipv4_of_notMem hinner hip
    refine ⟨v4, rfl, Or.inr ?_⟩
    rw [hchars] at hbrackets
    cases hhost with
    | bare =>
      rw [hnone] at hip
      cases hip
    | @ported _ digits _ _ _ hport => exact ⟨digits, hport, by simp [hbrackets]⟩

/-! ## Entries -/

theorem parse_of_blanks {front back : String} (hfront : Text.isAllBlank front = true)
    (hback : Text.isAllBlank back = true) (s : String) : parse (front ++ s ++ back) = parse s := by
  have htrim : Text.trimChars (front ++ s ++ back).toList = Text.trimChars s.toList := by
    rw [String.toList_append, String.toList_append]
    exact Text.trimChars_append_blanks (List.all_eq_true.1 hfront) (List.all_eq_true.1 hback) _
  rw [parse, parse, htrim]

/-- What is printed for an entry is read back. -/
theorem parse_text_of_reads (h : Reads cs e) (htrimmed : Text.Trimmed cs)
    (hsigned : ∀ ip port, ¬ SignedPort cs ip port) : parse e.text = .ok e := by
  cases h with
  | socket h => exact parse_text_literal h.scope_of_v4
  | address => exact parse_text_literal fun _ _ => rfl
  | @host name port hsocket hip hhost =>
    have hhead : ∀ c ∈ name.head?, Text.isBlank c = false := hhost.head?_eq ▸ htrimmed.1
    refine parse_text_host hhost.ne_nil hhost.colon_notMem hhead port fun ip hname => ?_
    subst hname
    exact hsigned ip port (signedPort_of_host hsocket hip hhost)

theorem parse_text_host_ipv4 (ip : Ipv4) (port : UInt16) :
    parse (host ip.text port).text = .ok (.literal (.ofIp (.v4 ip) port)) := by
  have hspelled := Spelled.v4 ip (portText_decimalChars port)
  rw [Ipv4.text, text_host]
  exact parse_ofList_of_reads (.socket hspelled) hspelled.trimmed

/-- Blanks around an entry make no difference.  What is printed for an entry is read back as the
same entry, except for an IPv4 address whose port has a plus sign: that one is a host, and what is
printed for it is an address.  An address is the name of a host in this case only, or in square
brackets with a port behind them if it is an IPv4 one; no other address is ever looked up. -/
theorem entries_read_back (h : parse s = .ok e) :
    (∀ front back, Text.isAllBlank front = true → Text.isAllBlank back = true →
      parse (front ++ s ++ back) = .ok e) ∧
    ((∀ ip port, ¬ SignedPort (Text.trimChars s.toList) ip port) → parse e.text = .ok e) ∧
    (∀ ip port, SignedPort (Text.trimChars s.toList) ip port →
      e = .host ip.text port ∧ parse e.text = .ok (.literal (.ofIp (.v4 ip) port))) ∧
    (∀ name port ip, e = .host name port →
      Ip.parseChars? (unbracketed name.toList) = some ip →
        ∃ v4, ip = .v4 v4 ∧ (SignedPort (Text.trimChars s.toList) v4 port ∨
          BracketedIpv4 (Text.trimChars s.toList) v4 port)) ∧
    (∀ a, e = .literal a → ∀ {ν : Type} (network : Network ν) (state : ν),
      Resolver.locate network s state = (.ok a, state)) := by
  have hreads := parse_eq_ok_iff.1 h
  refine ⟨?_, ?_, ?_, ?_, ?_⟩
  · intro front back hfront hback
    rw [parse_of_blanks hfront hback, h]
  · exact parse_text_of_reads hreads (Text.trimmed_trimChars _)
  · intro ip port hsigned
    have hhost : parse s = .ok (.host ip.text port) :=
      parse_eq_ok_iff.2 (reads_of_signedPort hsigned)
    obtain rfl := Except.ok.inj (h.symm.trans hhost)
    exact ⟨rfl, parse_text_host_ipv4 ip port⟩
  · rintro name port ip rfl hip
    generalize Text.trimChars s.toList = cs at hreads
    generalize hentry : host name port = entry at hreads
    cases hreads with
    | socket => cases hentry
    | address => cases hentry
    | host hsocket hnone hhost =>
      obtain ⟨rfl, rfl⟩ := ResolverAddress.host.inj hentry
      rw [String.toList_ofList] at hip
      exact host_address_cases hsocket hnone hhost hip
  · rintro a rfl ν network state
    exact Resolver.locate_of_literal h network state

theorem padded_entry_read_back :
    let entry := literal
      { ip := .v6 { groups := [0x2001, 0xDB8, 0, 0, 0, 0, 0, 1], length_eq := rfl }
        scope := 7
        port := 53 }
    parse "[2001:DB8::0001%7]:0053" = .ok entry ∧
      parse ("\t" ++ "[2001:DB8::0001%7]:0053" ++ " ") = .ok entry ∧
      parse entry.text = .ok entry := by
  intro entry
  have h : parse "[2001:DB8::0001%7]:0053" = .ok entry := rfl
  obtain ⟨hblanks, hprinted, hsigned, -, -⟩ := entries_read_back h
  exact ⟨h, hblanks "\t" " " rfl rfl, hprinted fun ip port hport =>
    nomatch (hsigned ip port hport).1⟩

/-- An address whose port has a plus sign is looked up as a host, and is not what it was before
once it has been printed. -/
theorem signed_port_taken_for_host :
    parse "8.8.8.8:+53" = .ok (.host "8.8.8.8" 53) ∧
      Ip.parse? "8.8.8.8" = some (.v4 { b0 := 8, b1 := 8, b2 := 8, b3 := 8 }) ∧
      parse (host "8.8.8.8" 53).text ≠ .ok (.host "8.8.8.8" 53) := by
  refine ⟨rfl, rfl, ?_⟩
  have hprinted : parse (host "8.8.8.8" 53).text =
      .ok (.literal (.ofIp (.v4 { b0 := 8, b1 := 8, b2 := 8, b3 := 8 }) 53)) := rfl
  rw [hprinted]
  exact fun h => nomatch Except.ok.inj h

end ResolverAddress
end SplitHorizon
