/-
Socket addresses and their texts.

`SocketAddress.Spelled` says which texts are socket addresses, piece by piece, and
`parse?_eq_some_iff` that these are the ones that are read.  The pieces end where the reader
stops by itself: an address at a colon, a bracket or a percent sign, a number at the first
character that is not a digit.
-/
import SplitHorizon.Address.Socket
import SplitHorizon.Proofs.Address.Written
import SplitHorizon.Proofs.NormalNames

namespace SplitHorizon
namespace SocketAddress

variable {cs name rest digits : List Char} {port : UInt16} {scope : UInt32} {a : SocketAddress}
  {s : String}

/-- Digits that write a port.  Zeros in front are allowed. -/
structure PortText (digits : List Char) (port : UInt16) : Prop where
  numeral : Text.IsNumeral 10 digits
  value : Text.numeralValue 10 digits = port.toNat

/-- A percent sign with a scope in decimal, or nothing, which is scope zero. -/
inductive ScopeText : List Char → UInt32 → Prop
  | none : ScopeText [] 0
  | scope {digits : List Char} {scope : UInt32} (numeral : Text.IsNumeral 10 digits)
      (value : Text.numeralValue 10 digits = scope.toNat) : ScopeText ('%' :: digits) scope

/-- The texts of a socket address. -/
inductive Spelled : List Char → SocketAddress → Prop
  | v4 (ip : Ipv4) {digits : List Char} {port : UInt16} (hport : PortText digits port) :
      Spelled (ip.chars ++ ':' :: digits) (ofIp (.v4 ip) port)
  | v6 {front scopeText digits : List Char} {ip : Ipv6} {scope : UInt32} {port : UInt16}
      (hip : Ipv6.read? front = some (ip, [])) (hscope : ScopeText scopeText scope)
      (hport : PortText digits port) :
      Spelled ('[' :: (front ++ (scopeText ++ ']' :: ':' :: digits)))
        { ip := .v6 ip, scope := scope, port := port }

/-- The last colon of such a text stands before the port. -/
theorem bracketed_eq (front scopeText digits : List Char) :
    '[' :: (front ++ (scopeText ++ ']' :: ':' :: digits)) =
      '[' :: (front ++ scopeText ++ [']']) ++ ':' :: digits := by
  simp

/-- Where a separator stands last is settled by the text. -/
theorem append_cons_inj_of_last {sep : Char} {front front' back back' : List Char}
    (hback : sep ∉ back) (hback' : sep ∉ back')
    (h : front ++ sep :: back = front' ++ sep :: back') : front = front' ∧ back = back' := by
  have hlast : ∀ {middle behind more : List Char}, sep ∉ behind →
      sep :: behind = middle ++ sep :: more → middle = [] := by
    intro middle behind more hbehind heq
    cases middle with
    | nil => rfl
    | cons c middle => exact absurd (by rw [(List.cons.inj heq).2]; simp) hbehind
  rcases List.append_eq_append_iff.1 h with ⟨middle, rfl, heq⟩ | ⟨middle, rfl, heq⟩
  · obtain rfl := hlast hback heq
    exact ⟨(List.append_nil _).symm, (List.cons.inj heq).2⟩
  · obtain rfl := hlast hback' heq
    exact ⟨List.append_nil _, (List.cons.inj heq).2.symm⟩

/-! ## Ports and scopes -/

theorem portText_decimalChars (port : UInt16) : PortText (Text.decimalChars port.toNat) port :=
  ⟨Text.isNumeral_decimalChars _, Text.numeralValue_decimalChars _⟩

/-- Digits have one port. -/
theorem PortText.unique {other : UInt16} (h : PortText digits port) (h' : PortText digits other) :
    port = other :=
  UInt16.toNat_inj.1 (h.value.symm.trans h'.value)

theorem readNumber_port_iff {n : Nat} :
    Text.readNumber 10 0xFFFF cs = some (n, []) ↔ ∃ port, PortText cs port ∧ n = port.toNat := by
  simp only [Text.readNumber_eq_some_iff, List.append_nil]
  constructor
  · rintro ⟨digits, hnumeral, rfl, -, rfl, hmax⟩
    refine ⟨UInt16.ofNat (Text.numeralValue 10 cs), ⟨hnumeral, ?_⟩, ?_⟩
    all_goals
      rw [UInt16.toNat_ofNat']
      omega
  · rintro ⟨port, hport, rfl⟩
    have hmax : port.toNat < 65536 := port.toNat_lt
    exact ⟨cs, hport.numeral, rfl, Text.endsNumeral_nil 10, hport.value.symm, by omega⟩

theorem readPort_eq_some_iff :
    readPort cs = some (port, []) ↔ ∃ digits, cs = ':' :: digits ∧ PortText digits port := by
  constructor
  · intro h
    unfold readPort at h
    split at h
    · next digits =>
      obtain ⟨⟨n, more⟩, hnumber, hmap⟩ := Option.map_eq_some_iff.1 h
      obtain ⟨rfl, rfl⟩ := Prod.mk.inj hmap
      obtain ⟨port, hport, rfl⟩ := readNumber_port_iff.1 hnumber
      exact ⟨digits, rfl, by rwa [UInt16.ofNat_toNat]⟩
    · cases h
  · rintro ⟨digits, rfl, hport⟩
    have hnumber := readNumber_port_iff.2 ⟨port, hport, rfl⟩
    simp only [readPort, hnumber, Option.map_some, UInt16.ofNat_toNat]

theorem readScope_eq_iff :
    readScope cs = (scope, ']' :: rest) ↔
      ∃ scopeText, cs = scopeText ++ ']' :: rest ∧ ScopeText scopeText scope := by
  constructor
  · intro h
    unfold readScope at h
    split at h
    · next more =>
      split at h
      · next n after hnumber =>
        obtain ⟨digits, hnumeral, rfl, -, rfl, hmax⟩ := Text.readNumber_eq_some_iff.1 hnumber
        obtain ⟨hscope, rfl⟩ := Prod.mk.inj h
        refine ⟨'%' :: digits, rfl, .scope hnumeral ?_⟩
        rw [← hscope, UInt32.toNat_ofNat']
        omega
      · exact absurd (List.cons.inj (Prod.mk.inj h).2).1 (by decide)
    · obtain ⟨rfl, rfl⟩ := Prod.mk.inj h
      exact ⟨[], rfl, .none⟩
  · rintro ⟨scopeText, rfl, hscope⟩
    cases hscope with
    | none => rfl
    | @scope digits _ hnumeral hvalue =>
      have hmax : scope.toNat < 4294967296 := scope.toNat_lt
      have hends : Text.EndsNumeral 10 (']' :: rest) := Text.endsNumeral_cons (by decide)
      have hnumber : Text.readNumber 10 0xFFFFFFFF (digits ++ ']' :: rest) =
          some (scope.toNat, ']' :: rest) :=
        Text.readNumber_eq_some_iff.2 ⟨digits, hnumeral, rfl, hends, hvalue.symm, by omega⟩
      simp only [List.cons_append, readScope, hnumber, UInt32.ofNat_toNat]

theorem ScopeText.endsAddress (h : ScopeText cs scope) : EndsAddress (cs ++ ']' :: rest) := by
  cases h with
  | none => exact endsAddress_cons (by decide) (by decide) (by decide)
  | scope => exact endsAddress_cons (by decide) (by decide) (by decide)

/-! ## Both families -/

theorem readV4_eq_some_iff :
    readV4 cs = some (a, []) ↔ ∃ ip digits port,
      PortText digits port ∧ cs = ip.chars ++ ':' :: digits ∧ a = ofIp (.v4 ip) port := by
  simp only [readV4, Option.bind_eq_bind, Option.bind_eq_some_iff, Prod.exists, Option.pure_def,
    Option.some.injEq, Prod.mk.injEq]
  constructor
  · rintro ⟨ip, behind, hip, port, _, hport, rfl, rfl⟩
    obtain ⟨digits, rfl, hdigits⟩ := readPort_eq_some_iff.1 hport
    exact ⟨ip, digits, port, hdigits, (Ipv4.read?_eq_some_iff.1 hip).1, rfl⟩
  · rintro ⟨ip, digits, port, hdigits, rfl, rfl⟩
    have hends : Text.EndsNumeral 10 (':' :: digits) := Text.endsNumeral_cons (by decide)
    exact ⟨ip, ':' :: digits, Ipv4.read?_eq_some_iff.2 ⟨rfl, hends⟩, port, [],
      readPort_eq_some_iff.2 ⟨digits, rfl, hdigits⟩, rfl, rfl⟩

theorem readV6_eq_some_iff :
    readV6 cs = some (a, []) ↔ ∃ front scopeText digits ip scope port,
      Ipv6.read? front = some (ip, []) ∧ ScopeText scopeText scope ∧ PortText digits port ∧
        cs = '[' :: (front ++ (scopeText ++ ']' :: ':' :: digits)) ∧
        a = { ip := .v6 ip, scope := scope, port := port } := by
  constructor
  · intro h
    unfold readV6 at h
    split at h
    · next inner =>
      obtain ⟨⟨ip, behind⟩, hip, hbehind⟩ := Option.bind_eq_some_iff.1 h
      simp only at hbehind
      split at hbehind
      · next after hafter =>
        obtain ⟨⟨port, _⟩, hport, hresult⟩ := Option.bind_eq_some_iff.1 hbehind
        obtain ⟨rfl, rfl⟩ := Prod.mk.inj (Option.some.inj hresult)
        obtain ⟨digits, rfl, hdigits⟩ := readPort_eq_some_iff.1 hport
        obtain ⟨scopeText, rfl, hscope⟩ := readScope_eq_iff.1 (Prod.ext rfl hafter)
        obtain ⟨front, rfl, hfront⟩ := (Ipv6.frontal_read?.eq_some_iff hscope.endsAddress).1 hip
        exact ⟨front, scopeText, digits, ip, _, port, hfront, hscope, hdigits, rfl, rfl⟩
      · cases hbehind
    · cases h
  · rintro ⟨front, scopeText, digits, ip, scope, port, hip, hscope, hdigits, rfl, rfl⟩
    have hends : EndsAddress (scopeText ++ ']' :: ':' :: digits) := hscope.endsAddress
    have hread := (Ipv6.frontal_read?.eq_some_iff hends).2 ⟨front, rfl, hip⟩
    have hafter : readScope (scopeText ++ ']' :: ':' :: digits) = (scope, ']' :: ':' :: digits) :=
      readScope_eq_iff.2 ⟨scopeText, rfl, hscope⟩
    have hport := readPort_eq_some_iff.2 ⟨digits, rfl, hdigits⟩
    simp only [readV6, hread, hafter, hport, Option.bind_eq_bind, Option.bind_some,
      Option.pure_def]

/-- Exactly the texts of socket addresses are read. -/
theorem parse?_eq_some_iff : parse? s = some a ↔ Spelled s.toList a := by
  constructor
  · intro h
    unfold parse? at h
    split at h
    · next found hfound =>
      obtain rfl := Option.some.inj h
      obtain ⟨ip, digits, port, hport, hcs, rfl⟩ := readV4_eq_some_iff.1 hfound
      exact hcs ▸ .v4 ip hport
    · cases h
    · split at h
      · next found hfound =>
        obtain rfl := Option.some.inj h
        obtain ⟨front, scopeText, digits, ip, scope, port, hip, hscope, hport, hcs, rfl⟩ :=
          readV6_eq_some_iff.1 hfound
        exact hcs ▸ .v6 hip hscope hport
      · cases h
  · intro h
    unfold parse?
    generalize s.toList = cs at h
    cases h with
    | v4 ip hport => rw [readV4_eq_some_iff.2 ⟨ip, _, _, hport, rfl, rfl⟩]
    | v6 hip hscope hport =>
      have hread := readV6_eq_some_iff.2 ⟨_, _, _, _, _, _, hip, hscope, hport, rfl, rfl⟩
      rw [readV4, Ipv4.read?_bracket, Option.bind_eq_bind, Option.bind_none, hread]

/-! ## Ends of texts -/

theorem Spelled.ne_nil {a : SocketAddress} (h : Spelled cs a) : cs ≠ [] := by
  cases h with
  | v4 => simp
  | v6 => simp

theorem getLast?_of_port {c : Char} (h : (name ++ ':' :: digits).getLast? = some c) :
    c ∈ ':' :: digits := by
  rw [List.getLast?_append_of_ne_nil _ (List.cons_ne_nil _ _)] at h
  exact List.mem_of_getLast? h

theorem trimmed_of_port (hname : name ≠ []) (hhead : ∀ c ∈ name.head?, Text.isBlank c = false)
    (hport : PortText digits port) : Text.Trimmed (name ++ ':' :: digits) := by
  constructor
  · rwa [List.head?_append_of_ne_nil _ hname]
  · intro c hc
    rcases List.mem_cons.1 (getLast?_of_port hc) with rfl | hmem
    · decide
    · exact Text.isBlank_of_isDigitOf_ten (hport.numeral.digits c hmem)

theorem Spelled.trimmed {a : SocketAddress} (h : Spelled cs a) : Text.Trimmed cs := by
  cases h with
  | v4 ip hport =>
    have hbyte := Ipv4.isNumeral_byteChars ip.b0
    have hhead : ip.chars.head? = (Ipv4.byteChars ip.b0).head? :=
      List.head?_append_of_ne_nil _ hbyte.ne_nil
    refine trimmed_of_port ip.chars_ne_nil (fun c hc => ?_) hport
    rw [hhead] at hc
    exact Text.isBlank_of_isDigitOf_ten (hbyte.digits c (List.mem_of_mem_head? hc))
  | @v6 front scopeText digits _ _ _ _ _ hport =>
    rw [bracketed_eq]
    refine trimmed_of_port (List.cons_ne_nil _ _) (fun c hc => ?_) hport
    obtain rfl : '[' = c := Option.some.inj hc
    decide

/-! ## Round trip -/

/-- The text of an address is one of its texts. -/
theorem spelled_chars (h : ∀ ip, a.ip = .v4 ip → a.scope = 0) : Spelled a.chars a := by
  obtain ⟨ip, scope, port⟩ := a
  cases ip with
  | v4 ip =>
    obtain rfl : scope = 0 := h ip rfl
    exact .v4 ip (portText_decimalChars port)
  | v6 ip =>
    have hscope : ScopeText (if scope = 0 then [] else '%' :: Text.decimalChars scope.toNat)
        scope := by
      split
      · next hzero => exact hzero ▸ .none
      · exact .scope (Text.isNumeral_decimalChars _) (Text.numeralValue_decimalChars _)
    have hspelled := Spelled.v6 (Ipv6.read?_chars ip) hscope (portText_decimalChars port)
    rwa [← List.append_assoc] at hspelled

theorem parse?_text (h : ∀ ip, a.ip = .v4 ip → a.scope = 0) : parse? a.text = some a := by
  rw [parse?_eq_some_iff, text, String.toList_ofList]
  exact spelled_chars h

/-- No IPv4 address is read with a scope. -/
theorem Spelled.scope_of_v4 (h : Spelled cs a) (ip : Ipv4) (hip : a.ip = .v4 ip) : a.scope = 0 := by
  cases h with
  | v4 => rfl
  | v6 => cases hip

end SocketAddress
end SplitHorizon
