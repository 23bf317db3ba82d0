/-
Where a server listens.

The address to listen on is put together as a text and read again by another reader, so a bind
address that is no address could come back as a different one.  `ListenSettings.Binds` says which
bind addresses are meant, and `listens_where_configured` that these are the ones with which a
server starts, each on its own address and on the configured port.
-/
import SplitHorizon.Proofs.Address.Sockets
import SplitHorizon.Startup.Basic

namespace SplitHorizon

open SocketAddress (ScopeText Spelled portText_decimalChars bracketed_eq append_cons_inj_of_last)

namespace ListenSettings

variable {settings : ListenSettings} {text : List Char} {ip : Ip} {scope : UInt32}
  {port : UInt16} {a : SocketAddress}

/-- The bind addresses: an IPv4 address, or an IPv6 address with a numeric scope or without one,
bare or in square brackets. -/
inductive Binds : List Char → Ip → UInt32 → Prop
  | v4 {text : List Char} {ip : Ipv4} (hip : Ip.parseChars? text = some (.v4 ip)) :
      Binds text (.v4 ip) 0
  | bare {front scopeText : List Char} {ip : Ipv6} {scope : UInt32}
      (hip : Ip.parseChars? front = some (.v6 ip)) (hscope : ScopeText scopeText scope) :
      Binds (front ++ scopeText) (.v6 ip) scope
  | bracketed {front scopeText : List Char} {ip : Ipv6} {scope : UInt32}
      (hip : Ip.parseChars? front = some (.v6 ip)) (hscope : ScopeText scopeText scope) :
      Binds ('[' :: (front ++ scopeText ++ [']'])) (.v6 ip) scope

theorem listenChars_of_bare (hcolon : ':' ∈ text) (hbracket : text.head? ≠ some '[') :
    listenChars text port = '[' :: (text ++ ']' :: ':' :: Text.decimalChars port.toNat) := by
  simp [listenChars, hcolon, hbracket]

theorem listenChars_of_not (h : ':' ∈ text → text.head? = some '[') :
    listenChars text port = text ++ ':' :: Text.decimalChars port.toNat := by
  simp only [listenChars, Bool.and_eq_true, List.contains_iff_mem, decide_eq_true_eq]
  exact if_neg fun hboth => hboth.2 (h hboth.1)

theorem digits_notMem {c : Char} (hc : Text.isDigitOf 10 c = false) (port : UInt16) :
    c ∉ Text.decimalChars port.toNat :=
  (portText_decimalChars port).numeral.notMem hc

/-- With brackets put around it, a text is read only as the IPv6 address that it is. -/
theorem binds_of_spelled_bare
    (h : Spelled ('[' :: (text ++ ']' :: ':' :: Text.decimalChars port.toNat)) a) :
    Binds text a.ip a.scope ∧ a.port = port := by
  generalize hcs : '[' :: (text ++ ']' :: ':' :: Text.decimalChars port.toNat) = cs at h
  cases h with
  | @v4 ip digits _ hport =>
    have hread : Ipv4.read? (ip.chars ++ ':' :: digits) = some (ip, ':' :: digits) :=
      Ipv4.read?_eq_some_iff.2 ⟨rfl, Text.endsNumeral_cons (by decide)⟩
    rw [← hcs, Ipv4.read?_bracket] at hread
    cases hread
  | @v6 front scopeText digits ip scope _ hip hscope hport =>
    have hinner := (List.cons.inj hcs).2
    rw [← List.append_assoc] at hinner
    have hbracket : ∀ {digits : List Char}, Text.IsNumeral 10 digits → ']' ∉ ':' :: digits :=
      fun hdigits hmem => by
        rcases List.mem_cons.1 hmem with heq | hmem
        · exact absurd heq (by decide)
        · exact hdigits.notMem (by decide) hmem
    -- No port has a bracket, so the last one of the text is the one that was put there.
    obtain ⟨rfl, hback⟩ := append_cons_inj_of_last
      (hbracket (Text.isNumeral_decimalChars port.toNat)) (hbracket hport.numeral) hinner
    obtain rfl := (List.cons.inj hback).2
    exact ⟨.bare (Ip.parseChars?_v6.2 hip) hscope, hport.unique (portText_decimalChars port)⟩

/-- A text that stands alone is an IPv4 address or has its own brackets. -/
theorem binds_of_spelled (h : Spelled (text ++ ':' :: Text.decimalChars port.toNat) a) :
    Binds text a.ip a.scope ∧ a.port = port := by
  generalize hcs : text ++ ':' :: Text.decimalChars port.toNat = cs at h
  have hnumber := digits_notMem (c := ':') (by decide) port
  cases h with
  | @v4 ip digits _ hport =>
    obtain ⟨rfl, rfl⟩ := append_cons_inj_of_last hnumber (hport.numeral.notMem (by decide)) hcs
    exact ⟨.v4 (Ip.parseChars?_v4.2 rfl), hport.unique (portText_decimalChars port)⟩
  | @v6 front scopeText digits ip scope _ hip hscope hport =>
    obtain ⟨rfl, rfl⟩ := append_cons_inj_of_last hnumber (hport.numeral.notMem (by decide))
      (hcs.trans (bracketed_eq front scopeText digits))
    exact ⟨.bracketed (Ip.parseChars?_v6.2 hip) hscope,
      hport.unique (portText_decimalChars port)⟩

/-- The address that is put together for a bind address is one of its texts. -/
theorem Binds.spelled (h : Binds text ip scope) (port : UInt16) :
    Spelled (listenChars text port) { ip := ip, scope := scope, port := port } := by
  have hport := portText_decimalChars port
  cases h with
  | @v4 _ ip hip =>
    obtain rfl := Ip.parseChars?_v4.1 hip
    rw [listenChars_of_not fun hmem => absurd hmem ip.colon_notMem_chars]
    exact .v4 ip hport
  | @bare front scopeText ip _ hip hscope =>
    have hread := Ip.parseChars?_v6.1 hip
    have hcolon := Ipv6.colon_mem_of_read? hread
    have hbracket : (front ++ scopeText).head? ≠ some '[' := by
      intro hhead
      rw [List.head?_append_of_ne_nil _ (List.ne_nil_of_mem hcolon)] at hhead
      obtain ⟨more, rfl⟩ := List.head?_eq_some_iff.1 hhead
      rw [Ipv6.read?_bracket] at hread
      cases hread
    rw [listenChars_of_bare (List.mem_append_left _ hcolon) hbracket, List.append_assoc]
    exact .v6 hread hscope hport
  | @bracketed front scopeText ip _ hip hscope =>
    rw [listenChars_of_not fun _ => rfl, ← bracketed_eq]
    exact .v6 (Ip.parseChars?_v6.1 hip) hscope hport

/-- The address to listen on is read exactly if the bind address is one, and then as that. -/
theorem parse?_listenAddress_iff :
    SocketAddress.parse? settings.listenAddress = some a ↔
      ∃ ip scope, Binds settings.bindAddress.toList ip scope ∧
        a = { ip := ip, scope := scope, port := settings.dnsPort } := by
  rw [SocketAddress.parse?_eq_some_iff, listenAddress, String.toList_ofList]
  constructor
  · intro h
    have hbinds : Binds settings.bindAddress.toList a.ip a.scope ∧ a.port = settings.dnsPort := by
      by_cases hbare : ':' ∈ settings.bindAddress.toList ∧
          settings.bindAddress.toList.head? ≠ some '['
      · rw [listenChars_of_bare hbare.1 hbare.2] at h
        exact binds_of_spelled_bare h
      · rw [listenChars_of_not fun hcolon =>
          Classical.byContradiction fun hhead => hbare ⟨hcolon, hhead⟩] at h
        exact binds_of_spelled h
    exact ⟨a.ip, a.scope, hbinds.1, by rw [← hbinds.2]⟩
  · rintro ⟨ip, scope, hbinds, rfl⟩
    exact hbinds.spelled settings.dnsPort

end ListenSettings

namespace Startup

open ListenSettings (Binds)

variable {files : String → StoredFile} {settings : Settings} {ready : Ready}

theorem parse?_of_prepare (h : (prepare files settings).2 = .ok ready) :
    ready.settings = settings ∧
      SocketAddress.parse? settings.listen.listenAddress = some ready.address := by
  unfold prepare at h
  simp only at h
  split at h
  · cases h
  · split at h
    · next address haddress =>
      obtain rfl := Except.ok.inj h
      exact ⟨rfl, haddress⟩
    · cases h

theorem prepare_of_attempt {surroundings : Surroundings} {arguments : CommandLine.Arguments}
    (h : (attempt surroundings arguments).result = .ok ready) :
    ∃ settings, readSettings surroundings.files arguments = .ok settings ∧
      (prepare surroundings.files settings).2 = .ok ready := by
  unfold attempt at h
  split at h
  · cases h
  · next settings hsettings => exact ⟨settings, hsettings, h⟩

/-- The address to listen on is read exactly if the bind address is an IPv4 address, or an IPv6
address with or without a scope and brackets; it is then that address with that scope and the
configured port.  So a server that is ready listens where its settings say. -/
theorem listens_where_configured :
    (∀ (settings : ListenSettings) (a : SocketAddress),
      SocketAddress.parse? settings.listenAddress = some a ↔
        ∃ ip scope, Binds settings.bindAddress.toList ip scope ∧
          a = { ip := ip, scope := scope, port := settings.dnsPort }) ∧
    (∀ (surroundings : Surroundings) (arguments : CommandLine.Arguments) (ready : Ready),
      (attempt surroundings arguments).result = .ok ready →
        readSettings surroundings.files arguments = .ok ready.settings ∧
        Binds ready.settings.listen.bindAddress.toList ready.address.ip ready.address.scope ∧
        ready.address.port = ready.settings.listen.dnsPort) := by
  refine ⟨fun settings a => ListenSettings.parse?_listenAddress_iff, ?_⟩
  intro surroundings arguments ready h
  obtain ⟨settings, hsettings, hready⟩ := prepare_of_attempt h
  obtain ⟨rfl, hparse⟩ := parse?_of_prepare hready
  obtain ⟨ip, scope, hbinds, haddress⟩ := ListenSettings.parse?_listenAddress_iff.1 hparse
  rw [haddress]
  exact ⟨hsettings, hbinds, rfl⟩

/-- Started with nothing but a bind address, a server listens on it. -/
theorem listens_on_scoped_address :
    let surroundings : Surroundings := { files := fun _ => .missing, logFilter := none }
    let arguments : CommandLine.Arguments :=
      { config := none, overrides := { Overrides.none with bindAddress := some "fe80::1%7" } }
    ∃ ready, (attempt surroundings arguments).result = .ok ready ∧
      ready.address =
        { ip := .v6 { groups := [0xFE80, 0, 0, 0, 0, 0, 0, 1], length_eq := rfl }
          scope := 7
          port := 53 } ∧
      readSettings surroundings.files arguments = .ok ready.settings ∧
      Binds ready.settings.listen.bindAddress.toList ready.address.ip ready.address.scope ∧
      ready.address.port = ready.settings.listen.dnsPort :=
  ⟨_, rfl, rfl, listens_where_configured.2 _ _ _ rfl⟩

end Startup
end SplitHorizon
