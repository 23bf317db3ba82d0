/-
Addresses and their texts.

The text of an address is read back as that address.  For IPv4 the text is the only one that is
read as it (`Ipv4.read?_eq_some_iff`).  For IPv6 there are many, and `Ipv6.read?_chars` follows
the three forms that are written: the mixed form of the addresses that stand for IPv4 ones, the
form that leaves out a run of zeros, and eight groups.
-/
import SplitHorizon.Proofs.Address.Reading

namespace SplitHorizon

variable {cs rest : List Char}

/-! ## IPv4 addresses -/

namespace Ipv4

variable {b : UInt8} {ip : Ipv4}

theorem isNumeral_byteChars (b : UInt8) : Text.IsNumeral 10 (byteChars b) :=
  Text.isNumeral_decimalChars b.toNat

theorem readByte_eq_some_iff :
    readByte cs = some (b, rest) ↔ cs = byteChars b ++ rest ∧ Text.EndsNumeral 10 rest := by
  unfold readByte
  constructor
  · intro h
    simp only at h
    split at h
    · cases h
    · next hnot =>
      obtain ⟨hbyte, rfl⟩ := Prod.mk.inj (Option.some.inj h)
      simp only [not_or, not_and, Nat.not_lt] at hnot
      obtain ⟨hne, -, hmax, hzero⟩ := hnot
      have hnumeral : Text.IsNumeral 10 (Text.spanDigits 10 cs).1 :=
        ⟨hne, fun c hc => List.all_eq_true.1 List.all_takeWhile c hc⟩
      have hlength := List.length_pos_iff.2 hne
      have hwritten := Text.decimalChars_numeralValue hnumeral
        fun hhead => Nat.le_antisymm (hzero hhead) hlength
      -- The value is checked before it is cut down to a byte.
      have hvalue : b.toNat = Text.numeralValue 10 (Text.spanDigits 10 cs).1 := by
        rw [← hbyte, UInt8.toNat_ofNat']
        omega
      rw [byteChars, hvalue, hwritten, Text.spanDigits_append]
      exact ⟨rfl, Text.endsNumeral_spanDigits 10 cs⟩
  · rintro ⟨rfl, hrest⟩
    have hbound : b.toNat < 10 ^ (2 + 1) := Nat.lt_trans b.toNat_lt (by decide)
    have hlength : (byteChars b).length ≤ 3 := Text.length_digitsUpTo_le hbound
    have hvalue : Text.numeralValue 10 (byteChars b) = b.toNat :=
      Text.numeralValue_decimalChars b.toNat
    have hzero : (byteChars b).head? = some '0' → (byteChars b).length ≤ 1 := by
      intro hhead
      rw [byteChars, Text.head?_decimalChars hhead, Text.decimalChars_zero, List.length_singleton]
    have hmax : b.toNat < 256 := b.toNat_lt
    simp only [Text.spanDigits_of_digits (isNumeral_byteChars b).digits hrest, hvalue]
    rw [if_neg, UInt8.ofNat_toNat]
    simp only [not_or, not_and, Nat.not_lt]
    exact ⟨(isNumeral_byteChars b).ne_nil, hlength, by omega, hzero⟩

theorem readDotByte_eq_some_iff :
    readDotByte cs = some (b, rest) ↔
      cs = '.' :: (byteChars b ++ rest) ∧ Text.EndsNumeral 10 rest := by
  constructor
  · intro h
    by_cases hdot : cs.head? = some '.'
    · obtain ⟨more, rfl⟩ := List.head?_eq_some_iff.1 hdot
      obtain ⟨rfl, hrest⟩ := readByte_eq_some_iff.1 h
      exact ⟨rfl, hrest⟩
    · rw [readDotByte_of_head? hdot] at h
      cases h
  · rintro ⟨rfl, hrest⟩
    exact readByte_eq_some_iff.2 ⟨rfl, hrest⟩

/-- The text of an address is the only one that is read as it. -/
theorem read?_eq_some_iff :
    read? cs = some (ip, rest) ↔ cs = ip.chars ++ rest ∧ Text.EndsNumeral 10 rest := by
  have hdot : ∀ more, Text.EndsNumeral 10 ('.' :: more) :=
    fun more => Text.endsNumeral_cons (by decide)
  constructor
  · intro h
    simp only [read?, Option.bind_eq_bind, Option.bind_eq_some_iff, Option.pure_def,
      Option.some.injEq, Prod.exists, Prod.mk.injEq] at h
    obtain ⟨b0, cs1, h0, b1, cs2, h1, b2, cs3, h2, b3, cs4, h3, rfl, rfl⟩ := h
    obtain ⟨rfl, -⟩ := readByte_eq_some_iff.1 h0
    obtain ⟨rfl, -⟩ := readDotByte_eq_some_iff.1 h1
    obtain ⟨rfl, -⟩ := readDotByte_eq_some_iff.1 h2
    obtain ⟨rfl, hrest⟩ := readDotByte_eq_some_iff.1 h3
    exact ⟨by simp [chars], hrest⟩
  · rintro ⟨rfl, hrest⟩
    have hfirst : ∀ b more, readByte (byteChars b ++ '.' :: more) = some (b, '.' :: more) :=
      fun b more => readByte_eq_some_iff.2 ⟨rfl, hdot more⟩
    have hnext : ∀ b more, readDotByte ('.' :: (byteChars b ++ '.' :: more)) =
        some (b, '.' :: more) :=
      fun b more => readDotByte_eq_some_iff.2 ⟨rfl, hdot more⟩
    have hlast : ∀ b, readDotByte ('.' :: (byteChars b ++ rest)) = some (b, rest) :=
      fun b => readDotByte_eq_some_iff.2 ⟨rfl, hrest⟩
    simp only [read?, chars, List.append_assoc, List.cons_append, hfirst, hnext, hlast,
      Option.bind_eq_bind, Option.bind_some, Option.pure_def]

theorem read?_chars (ip : Ipv4) : read? ip.chars = some (ip, []) :=
  read?_eq_some_iff.2 ⟨(List.append_nil _).symm, Text.endsNumeral_nil 10⟩

/-- Digits that a dot does not follow are not the front of a dotted address. -/
theorem read?_of_run {digits : List Char} (hdigits : ∀ c ∈ digits, Text.isDigitOf 16 c = true)
    (hrest : Text.EndsNumeral 16 rest) (hdot : rest.head? ≠ some '.') :
    read? (digits ++ rest) = none := by
  refine Option.eq_none_iff_forall_ne_some.2 fun found h => ?_
  obtain ⟨ip, more⟩ := found
  have hbyte : ∀ c ∈ byteChars ip.b0, Text.isDigitOf 16 c = true :=
    fun c hc => Text.isDigitOf_sixteen ((isNumeral_byteChars ip.b0).digits c hc)
  have hends : ∀ more, Text.EndsNumeral 16 ('.' :: more) :=
    fun more => Text.endsNumeral_cons (by decide)
  -- The same text, as a run of hexadecimal digits with two different things behind it.
  have hspan := congrArg (Text.spanDigits 16) (read?_eq_some_iff.1 h).1
  rw [Text.spanDigits_of_digits hdigits hrest, chars, List.append_assoc, List.cons_append,
    Text.spanDigits_of_digits hbyte (hends _)] at hspan
  exact hdot ((Prod.mk.inj hspan).2 ▸ rfl)

/-- A dotted text has digits and dots and nothing else. -/
theorem notMem_chars {c : Char} (hdigit : Text.isDigitOf 10 c = false) (hdot : c ≠ '.') :
    c ∉ ip.chars := by
  have hbyte : ∀ b, c ∉ byteChars b := fun b => (isNumeral_byteChars b).notMem hdigit
  simp [chars, hbyte, hdot]

theorem colon_notMem_chars (ip : Ipv4) : ':' ∉ ip.chars :=
  notMem_chars (by decide) (by decide)

theorem chars_ne_nil (ip : Ipv4) : ip.chars ≠ [] := by
  simp [chars]

theorem read?_bracket (cs : List Char) : read? ('[' :: cs) = none := rfl

end Ipv4

/-! ## IPv6 addresses -/

namespace Ipv6

variable {g : UInt16} {gs : List UInt16} {room : Nat} {v4 : Ipv4} {ip : Ipv6}

/-- The text ends, or a colon goes on. -/
def ColonNext (rest : List Char) : Prop :=
  ∀ c ∈ rest.head?, c = ':'

theorem ColonNext.endsNumeral (h : ColonNext rest) : Text.EndsNumeral 16 rest := by
  intro c hc
  rw [h c hc]
  decide

theorem ColonNext.head?_ne (h : ColonNext rest) : rest.head? ≠ some '.' :=
  fun hdot => absurd (h '.' hdot) (by decide)

theorem colonNext_cons (rest : List Char) : ColonNext (':' :: rest) :=
  fun _ h => (Option.some.inj h).symm

theorem isNumeral_hexChars (n : Nat) : Text.IsNumeral 16 (Text.hexChars n) :=
  Text.isNumeral_digitsUpTo (by decide) (by decide) (Nat.lt_succ_self n)

theorem readGroup_hexChars (g : UInt16) (hrest : Text.EndsNumeral 16 rest) :
    readGroup (Text.hexChars g.toNat ++ rest) = some (g, rest) := by
  have hbound : g.toNat < 16 ^ (3 + 1) := Nat.lt_of_lt_of_le g.toNat_lt (by decide)
  have hlength : (Text.hexChars g.toNat).length ≤ 4 := Text.length_digitsUpTo_le hbound
  have hvalue : Text.numeralValue 16 (Text.hexChars g.toNat) = g.toNat :=
    Text.numeralValue_digitsUpTo (by decide) (by decide) (Nat.lt_succ_self _)
  unfold readGroup
  simp only [Text.spanDigits_of_digits (isNumeral_hexChars g.toNat).digits hrest, hvalue]
  rw [if_neg, UInt16.ofNat_toNat]
  exact not_or.2 ⟨(isNumeral_hexChars g.toNat).ne_nil, Nat.not_lt.2 hlength⟩

theorem dottedAt_hexChars {first : Bool} (h : ColonNext rest)
    (hcs : skipColon first cs = some (Text.hexChars g.toNat ++ rest)) :
    dottedAt room first cs = none := by
  unfold dottedAt
  split
  · rfl
  · rw [hcs]
    exact Ipv4.read?_of_run (isNumeral_hexChars g.toNat).digits h.endsNumeral h.head?_ne

theorem readGroups_hexChars {first : Bool} (h : ColonNext rest)
    (hcs : skipColon first cs = some (Text.hexChars g.toNat ++ rest)) :
    readGroups (room + 1) first cs =
      (g :: (readGroups room false rest).1, (readGroups room false rest).2) := by
  refine readGroups_of_group (dottedAt_hexChars h hcs) ?_
  rw [groupAt, hcs]
  exact readGroup_hexChars g h.endsNumeral

/-- Groups with a colon in front of each. -/
def followed (gs : List UInt16) : List Char :=
  gs.flatMap fun g => ':' :: Text.hexChars g.toNat

theorem followed_cons (g : UInt16) (gs : List UInt16) :
    followed (g :: gs) = ':' :: (Text.hexChars g.toNat ++ followed gs) := rfl

theorem joinGroups_cons (g : UInt16) (gs : List UInt16) :
    joinGroups (g :: gs) = Text.hexChars g.toNat ++ followed gs := by
  induction gs generalizing g with
  | nil => exact (List.append_nil _).symm
  | cons next gs ih => rw [joinGroups, ih, followed_cons]; exact List.cons_ne_nil next gs

/-- The text ends, or two colons stand there. -/
def GroupsEnd (rest : List Char) : Prop :=
  rest = [] ∨ ∃ more, rest = ':' :: ':' :: more

namespace GroupsEnd

theorem nil : GroupsEnd [] :=
  Or.inl rfl

theorem colons (more : List Char) : GroupsEnd (':' :: ':' :: more) :=
  Or.inr ⟨more, rfl⟩

theorem colonNext (h : GroupsEnd rest) : ColonNext rest := by
  rcases h with rfl | ⟨more, rfl⟩
  · exact fun _ hc => nomatch hc
  · exact colonNext_cons _

theorem readGroups (h : GroupsEnd rest) (room : Nat) (first : Bool) :
    Ipv6.readGroups room first rest = ([], false, rest) := by
  cases room with
  | zero => rfl
  | succ room =>
    refine readGroups_of_none ?_ ?_
    · unfold dottedAt
      split
      · rfl
      · rcases h with rfl | ⟨more, rfl⟩ <;> cases first <;> rfl
    · rcases h with rfl | ⟨more, rfl⟩ <;> cases first <;> rfl

end GroupsEnd

theorem colonNext_followed (h : ColonNext rest) : ColonNext (followed gs ++ rest) := by
  cases gs with
  | nil => exact h
  | cons g gs => exact colonNext_cons _

theorem readGroups_followed (h : GroupsEnd rest) (hroom : gs.length ≤ room) :
    readGroups room false (followed gs ++ rest) = (gs, false, rest) := by
  induction gs generalizing room with
  | nil => exact h.readGroups room false
  | cons g gs ih =>
    cases room with
    | zero => cases hroom
    | succ room =>
      have hgroup : skipColon false (followed (g :: gs) ++ rest) =
          some (Text.hexChars g.toNat ++ (followed gs ++ rest)) := by
        rw [followed_cons, List.cons_append, List.append_assoc]
        rfl
      rw [readGroups_hexChars (colonNext_followed h.colonNext) hgroup,
        ih (Nat.le_of_succ_le_succ hroom)]

theorem readGroups_joinGroups (h : GroupsEnd rest) (hroom : gs.length ≤ room) :
    readGroups room true (joinGroups gs ++ rest) = (gs, false, rest) := by
  cases gs with
  | nil => exact h.readGroups room true
  | cons g gs =>
    cases room with
    | zero => cases hroom
    | succ room =>
      have hgroup : skipColon true (joinGroups (g :: gs) ++ rest) =
          some (Text.hexChars g.toNat ++ (followed gs ++ rest)) := by
        rw [joinGroups_cons, List.append_assoc]
        rfl
      rw [readGroups_hexChars (colonNext_followed h.colonNext) hgroup,
        readGroups_followed h (Nat.le_of_succ_le_succ hroom)]

theorem ofGroups?_groups (ip : Ipv6) : ofGroups? ip.groups = some ip := by
  rw [ofGroups?, dif_pos ip.length_eq]

theorem readBack_colons (front : List UInt16) {back : List UInt16} {more : List Char}
    {dotted : Bool} {zeros : Nat}
    (hback : readGroups (7 - front.length) true more = (back, dotted, rest))
    (hlength : front.length + zeros + back.length = 8) :
    readBack front (':' :: ':' :: more) =
      (ofGroups? (front ++ List.replicate zeros 0 ++ back)).map (·, rest) := by
  have hzeros : 8 - front.length - back.length = zeros := by omega
  simp only [readBack, hback, hzeros]

/-! ### The run of zeros that is left out -/

theorem zerosInFront_append : ∀ groups : List UInt16,
    ∃ back, groups = List.replicate (zerosInFront groups) 0 ++ back
  | [] => ⟨[], rfl⟩
  | g :: rest => by
    rw [zerosInFront]
    split
    · next hg =>
      obtain ⟨back, hback⟩ := zerosInFront_append rest
      refine ⟨back, ?_⟩
      rw [hg, List.replicate_succ, List.cons_append, ← hback]
    · exact ⟨g :: rest, rfl⟩

/-- Where the longest run is said to be, there is a run of that length. -/
theorem longestZeros_append (i : Nat) (groups : List UInt16)
    (h : 0 < (longestZeros i groups).2) :
    ∃ front back, groups = front ++ List.replicate (longestZeros i groups).2 0 ++ back ∧
      (longestZeros i groups).1 = i + front.length := by
  -- The longest run is the one in front or, one place further on, the longest of the rest.
  induction groups generalizing i with
  | nil => exact absurd h (Nat.lt_irrefl 0)
  | cons g rest ih =>
    rw [longestZeros] at h ⊢
    split at h
    · next hlater =>
      obtain ⟨front, back, hrest, hstart⟩ := ih (i + 1) h
      rw [if_pos hlater]
      refine ⟨g :: front, back, ?_, ?_⟩
      · rw [List.cons_append, List.cons_append, ← hrest]
      · rw [hstart, List.length_cons]
        omega
    · next hhere =>
      obtain ⟨back, hback⟩ := zerosInFront_append (g :: rest)
      rw [if_neg hhere]
      exact ⟨[], back, hback, rfl⟩

/-! ### The addresses that stand for IPv4 ones -/

/-- The form `::ffff:a.b.c.d` of an IPv4 address. -/
def ofIpv4 (v4 : Ipv4) : Ipv6 where
  groups := [0, 0, 0, 0, 0, 0xFFFF] ++ groupsOfIpv4 v4
  length_eq := rfl

theorem bytesOfGroup_ofNat (hi lo : UInt8) :
    bytesOfGroup (UInt16.ofNat (hi.toNat * 256 + lo.toNat)) = [hi, lo] := by
  have hhi := hi.toNat_lt
  have hlo := lo.toNat_lt
  have hvalue : (UInt16.ofNat (hi.toNat * 256 + lo.toNat)).toNat = hi.toNat * 256 + lo.toNat := by
    rw [UInt16.toNat_ofNat']
    omega
  have hfirst : (UInt16.ofNat (hi.toNat * 256 + lo.toNat) >>> 8).toUInt8 = hi := by
    apply UInt8.toNat_inj.1
    rw [UInt16.toNat_toUInt8, UInt16.toNat_shiftRight, hvalue, Nat.shiftRight_eq_div_pow]
    have height : (8 : UInt16).toNat % 16 = 8 := by decide
    rw [height]
    omega
  have hsecond : (UInt16.ofNat (hi.toNat * 256 + lo.toNat)).toUInt8 = lo := by
    apply UInt8.toNat_inj.1
    rw [UInt16.toNat_toUInt8, hvalue]
    omega
  rw [bytesOfGroup, hfirst, hsecond]

theorem ofNat_bytesOfGroup (g : UInt16) :
    UInt16.ofNat ((g >>> 8).toUInt8.toNat * 256 + g.toUInt8.toNat) = g := by
  have hg := g.toNat_lt
  have height : (8 : UInt16).toNat % 16 = 8 := by decide
  apply UInt16.toNat_inj.1
  rw [UInt16.toNat_ofNat', UInt16.toNat_toUInt8, UInt16.toNat_toUInt8, UInt16.toNat_shiftRight,
    height, Nat.shiftRight_eq_div_pow]
  omega

theorem toIpv4?_eq_some_iff : ip.toIpv4? = some v4 ↔ ip = ofIpv4 v4 := by
  constructor
  · intro h
    unfold toIpv4? at h
    split at h
    · next hfront =>
      obtain ⟨groups, hlength⟩ := ip
      have hback : (groups.drop 6).length = 2 := by rw [List.length_drop, hlength]
      obtain ⟨g, g', hdrop⟩ := List.length_eq_two.1 hback
      have hgroups : groups = [0, 0, 0, 0, 0, 0xFFFF] ++ [g, g'] := by
        rw [← List.take_append_drop 6 groups, hdrop]
        exact congrArg (· ++ [g, g']) hfront
      simp only [hdrop] at h
      obtain rfl := Option.some.inj h
      simp only [ofIpv4, groupsOfIpv4, ofNat_bytesOfGroup, hgroups]
    · cases h
  · rintro rfl
    have hback : ((ofIpv4 v4).groups.drop 6).flatMap bytesOfGroup = v4.bytes := by
      simp only [ofIpv4, groupsOfIpv4, List.cons_append, List.nil_append, List.drop_succ_cons,
        List.drop_zero, List.flatMap_cons, List.flatMap_nil, bytesOfGroup_ofNat]
      rfl
    have hfront : (ofIpv4 v4).groups.take 6 = [0, 0, 0, 0, 0, 0xFFFF] := rfl
    rw [toIpv4?, if_pos hfront, hback]
    rfl

theorem read?_ofIpv4 (v4 : Ipv4) :
    read? ([':', ':', 'f', 'f', 'f', 'f', ':'] ++ v4.chars) = some (ofIpv4 v4, []) := by
  let marked := Text.hexChars (0xFFFF : UInt16).toNat ++ ':' :: v4.chars
  have hcs : [':', ':', 'f', 'f', 'f', 'f', ':'] ++ v4.chars = ':' :: ':' :: marked := rfl
  have hfront : readGroups 8 true (':' :: ':' :: marked) = ([], false, ':' :: ':' :: marked) :=
    (GroupsEnd.colons marked).readGroups 8 true
  have hdotted : readGroups 6 false (':' :: v4.chars) = (groupsOfIpv4 v4, true, []) :=
    readGroups_of_dotted (Ipv4.read?_chars v4)
  have hback : readGroups 7 true marked = (0xFFFF :: groupsOfIpv4 v4, true, []) := by
    rw [readGroups_hexChars (colonNext_cons v4.chars) rfl, hdotted]
  have hzeros : 0 + 5 + (0xFFFF :: groupsOfIpv4 v4).length = 8 := rfl
  have hread : readBack [] (':' :: ':' :: marked) =
      (ofGroups? (ofIpv4 v4).groups).map (·, []) := readBack_colons [] hback hzeros
  rw [hcs, read?_of_short (by rw [hfront]; exact Nat.zero_ne_add_one 7) (by rw [hfront]), hfront,
    hread, ofGroups?_groups, Option.map_some]

/-! ### Round trip -/

theorem read?_joinGroups (ip : Ipv6) : read? (joinGroups ip.groups) = some (ip, []) := by
  have hall : readGroups 8 true (joinGroups ip.groups ++ []) = (ip.groups, false, []) :=
    readGroups_joinGroups GroupsEnd.nil (Nat.le_of_eq ip.length_eq)
  rw [List.append_nil] at hall
  have hlength : (readGroups 8 true (joinGroups ip.groups)).1.length = 8 := by
    rw [hall]
    exact ip.length_eq
  rw [read?_of_eight hlength]
  simp only [hall]

/-- A run of zeros may be left out, wherever it stands. -/
theorem read?_of_zeros {front back : List UInt16} {zeros : Nat}
    (hgroups : ip.groups = front ++ List.replicate zeros 0 ++ back) (hzeros : 0 < zeros) :
    read? (joinGroups (ip.groups.take front.length) ++ ':' :: ':' ::
      joinGroups (ip.groups.drop (front.length + zeros))) = some (ip, []) := by
  have hlength : front.length + zeros + back.length = 8 := by
    rw [← ip.length_eq, hgroups, List.length_append, List.length_append, List.length_replicate]
  have htake : ip.groups.take front.length = front := by
    rw [hgroups, List.append_assoc, List.take_left]
  have hdrop : ip.groups.drop (front.length + zeros) = back := by
    have hsize : (front ++ List.replicate zeros 0).length = front.length + zeros := by
      rw [List.length_append, List.length_replicate]
    rw [hgroups, ← hsize, List.drop_left]
  have hfront : readGroups 8 true (joinGroups front ++ ':' :: ':' :: joinGroups back) =
      (front, false, ':' :: ':' :: joinGroups back) :=
    readGroups_joinGroups (GroupsEnd.colons _) (by omega)
  have hback : readGroups (7 - front.length) true (joinGroups back ++ []) = (back, false, []) :=
    readGroups_joinGroups GroupsEnd.nil (by omega)
  rw [List.append_nil] at hback
  have hshort : (readGroups 8 true (joinGroups front ++ ':' :: ':' :: joinGroups back)).1.length ≠
      8 := by
    rw [hfront]
    simp only
    omega
  rw [htake, hdrop, read?_of_short hshort (by rw [hfront]), hfront,
    readBack_colons front hback hlength, ← hgroups, ofGroups?_groups, Option.map_some]

/-- The text of an address is read back. -/
theorem read?_chars (ip : Ipv6) : read? ip.chars = some (ip, []) := by
  unfold chars
  split
  · next v4 hv4 =>
    rw [toIpv4?_eq_some_iff.1 hv4]
    exact read?_ofIpv4 v4
  · have hrun := longestZeros_append 0 ip.groups
    generalize longestZeros 0 ip.groups = run at hrun ⊢
    obtain ⟨start, count⟩ := run
    simp only [Nat.zero_add] at hrun ⊢
    split
    · next hcount =>
      obtain ⟨front, back, hgroups, rfl⟩ := hrun (Nat.zero_lt_of_lt hcount)
      exact read?_of_zeros hgroups (Nat.zero_lt_of_lt hcount)
    · exact read?_joinGroups ip

theorem read?_bracket (cs : List Char) : read? ('[' :: cs) = none := rfl

/-! ### Texts of one family only -/

theorem read?_of_ipv4 {found : Ipv4 × List Char} (h : Ipv4.read? cs = some found) :
    read? cs = none := by
  have hdotted : readGroups 8 true cs = (groupsOfIpv4 found.1, true, found.2) :=
    readGroups_of_dotted h
  have htwo : (readGroups 8 true cs).1.length ≠ 8 := by
    rw [hdotted]
    simp [groupsOfIpv4]
  exact read?_of_dotted htwo (by rw [hdotted])

/-- What stands before a group takes a colon, unless it is the first. -/
theorem count_colon_of_skipColon {α : Type} {read : List Char → Option (α × List Char)}
    (hread : Frontal read) {first : Bool} {found : α × List Char}
    (h : (skipColon first cs).bind read = some found) :
    found.2.count ':' + (!first).toNat ≤ cs.count ':' := by
  obtain ⟨inner, hinner, hfound⟩ := Option.bind_eq_some_iff.1 h
  have hcount : found.2.count ':' ≤ inner.count ':' :=
    (hread.suffix hfound).sublist.count_le ':'
  cases first with
  | true =>
    obtain rfl := Option.some.inj hinner
    exact hcount
  | false =>
    by_cases hcolon : cs.head? = some ':'
    · obtain ⟨rest, rfl⟩ := List.head?_eq_some_iff.1 hcolon
      obtain rfl := Option.some.inj hinner
      rw [List.count_cons_self]
      exact Nat.add_le_add_right hcount 1
    · rw [skipColon_false_of_head? hcolon] at hinner
      cases hinner

/-- Every group but the first takes a colon, and a dotted address is two groups. -/
theorem length_readGroups_le (room : Nat) (first : Bool) (cs : List Char) :
    (readGroups room first cs).1.length + (readGroups room first cs).2.2.count ':' +
      (!first).toNat ≤ cs.count ':' + 2 := by
  have hone : (!first).toNat ≤ 1 := Bool.toNat_le _
  -- Behind the first group none is the first, so the colon that is owed here is paid there.
  induction room generalizing first cs with
  | zero =>
    simp only [readGroups_zero, List.length_nil]
    omega
  | succ room ih =>
    cases hdotted : dottedAt room first cs with
    | some found =>
      have hskip : (skipColon first cs).bind Ipv4.read? = some found := by
        unfold dottedAt at hdotted
        split at hdotted
        · cases hdotted
        · exact hdotted
      have hcount := count_colon_of_skipColon Ipv4.frontal_read? hskip
      have htwo : (groupsOfIpv4 found.1).length = 2 := rfl
      rw [readGroups_of_dotted hdotted]
      simp only [htwo]
      omega
    | none =>
      cases hgroup : groupAt first cs with
      | some found =>
        have hcount := count_colon_of_skipColon frontal_readGroup hgroup
        have hrest := ih false found.2 (Nat.le_refl 1)
        rw [Bool.not_false, Bool.toNat_true] at hrest
        rw [readGroups_of_group hdotted hgroup]
        simp only [List.length_cons]
        omega
      | none =>
        rw [readGroups_of_none hdotted hgroup]
        simp only [List.length_nil]
        omega

/-- Every text of an IPv6 address has two colons at least. -/
theorem two_le_count_colon {found : Ipv6 × List Char} (h : read? cs = some found) :
    2 ≤ cs.count ':' := by
  have hlength := length_readGroups_le 8 true cs
  rw [Bool.not_true, Bool.toNat_false] at hlength
  by_cases height : (readGroups 8 true cs).1.length = 8
  · omega
  cases hdotted : (readGroups 8 true cs).2.1 with
  | true =>
    rw [read?_of_dotted height hdotted] at h
    cases h
  | false =>
    rw [read?_of_short height hdotted] at h
    by_cases hcolons : ∃ rest, (readGroups 8 true cs).2.2 = ':' :: ':' :: rest
    · obtain ⟨rest, hrest⟩ := hcolons
      have hcount := (suffix_readGroups 8 true cs).sublist.count_le ':'
      rw [hrest, List.count_cons_self, List.count_cons_self] at hcount
      omega
    · rw [readBack_of_not fun rest hrest => hcolons ⟨rest, hrest⟩] at h
      cases h

theorem colon_mem_of_read? {found : Ipv6 × List Char} (h : read? cs = some found) : ':' ∈ cs :=
  List.count_pos_iff.1 (Nat.zero_lt_of_lt (two_le_count_colon h))

end Ipv6

/-! ## Addresses of either family -/

namespace Ip

theorem parseChars?_eq_some_iff {ip : Ip} :
    parseChars? cs = some ip ↔ read? cs = some (ip, []) := by
  unfold parseChars?
  constructor
  · intro h
    split at h
    · next found hfound =>
      obtain rfl := Option.some.inj h
      exact hfound
    · cases h
  · intro h
    rw [h]

theorem parseChars?_v4 {ip : Ipv4} : parseChars? cs = some (.v4 ip) ↔ cs = ip.chars := by
  have hread : read? cs = some (.v4 ip, []) ↔ Ipv4.read? cs = some (ip, []) := by
    unfold read?
    cases hv4 : Ipv4.read? cs with
    | some found => simp [Prod.ext_iff]
    | none => simp [Option.map_eq_some_iff]
  rw [parseChars?_eq_some_iff, hread, Ipv4.read?_eq_some_iff, List.append_nil]
  exact and_iff_left (Text.endsNumeral_nil 10)

theorem parseChars?_v6 {ip : Ipv6} :
    parseChars? cs = some (.v6 ip) ↔ Ipv6.read? cs = some (ip, []) := by
  rw [parseChars?_eq_some_iff]
  unfold read?
  cases hv4 : Ipv4.read? cs with
  | some found => simp [Ipv6.read?_of_ipv4 hv4]
  | none => simp [Option.map_eq_some_iff]

theorem parseChars?_chars (ip : Ip) : parseChars? ip.chars = some ip := by
  cases ip with
  | v4 ip => exact parseChars?_v4.2 rfl
  | v6 ip => exact parseChars?_v6.2 (Ipv6.read?_chars ip)

/-- The text of an address is read back. -/
theorem parse?_text (ip : Ip) : parse? ip.text = some ip := by
  rw [parse?, text, String.toList_ofList]
  exact parseChars?_chars ip

end Ip
end SplitHorizon
