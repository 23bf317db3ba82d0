/-
What ASCII characters do in international names.

The case of ASCII letters makes no difference to the ASCII spelling of a name.  A
label of ASCII characters that is written in characters again has no other ASCII
characters than its own: those that Punycode puts in are all beyond ASCII.
-/
import SplitHorizon.Idna.Domain
import SplitHorizon.Proofs.NormalNames

namespace SplitHorizon
namespace Idna

open Text

/-! ## Letter case -/

theorem mapChar_lowerChar (c : Char) : mapChar (lowerChar c) = mapChar c := by
  by_cases hcapital : 65 ≤ c.toNat ∧ c.toNat ≤ 90
  · have hascii : c.toNat < tableStart := Nat.lt_of_le_of_lt hcapital.2 (by decide)
    have hlower : (lowerChar c).toNat < tableStart := by
      rw [toNat_lowerChar, if_pos hcapital]
      have hlimit : tableStart = 128 := rfl
      omega
    rw [mapChar, if_pos hlower, mapChar, if_pos hascii, lowerChar_lowerChar]
  · rw [lowerChar_of_not_capital hcapital]

theorem mapChars_lowerChars (cs : List Char) : mapChars (lowerChars cs) = mapChars cs := by
  induction cs with
  | nil => rfl
  | cons c rest ih =>
    change mapChars (lowerChar c :: lowerChars rest) = _
    rw [mapChars, mapChars, mapChar_lowerChar, ih]

theorem toAscii?_lowerChars (cs : List Char) : toAscii? (lowerChars cs) = toAscii? cs := by
  rw [toAscii?, process, mapChars_lowerChars]
  rfl

/-! ## Punycode -/

namespace Punycode

theorem mem_insertAt {α : Type} {xs : List α} {i : Nat} {x y : α} (h : y ∈ insertAt xs i x) :
    y ∈ xs ∨ y = x := by
  rcases List.mem_append.1 h with hfront | hback
  · exact Or.inl (List.mem_of_mem_take hfront)
  · rcases List.mem_cons.1 hback with rfl | hback
    · exact Or.inr rfl
    · exact Or.inl (List.mem_of_mem_drop hback)

theorem toNat_of_charOf? {n : Nat} {c : Char} (h : charOf? n = some c) : c.toNat = n := by
  unfold charOf? at h
  split at h
  · next hvalid =>
    obtain rfl := Option.some.inj h
    rw [Char.ofNat, dif_pos hvalid]
    rfl
  · cases h

/-- The characters that are put in start where ASCII ends. -/
theorem mem_insertions {out cs result : List Char} {next pos bias : Nat} {isFirst : Bool}
    (hnext : initialCode ≤ next) (h : insertions out next pos bias isFirst cs = some result) :
    ∀ c ∈ result, c ∈ out ∨ initialCode ≤ c.toNat := by
  induction out, next, pos, bias, isFirst, cs using insertions.induct with
  | case1 out next pos bias isFirst =>
    rw [insertions, if_pos rfl] at h
    obtain rfl := Option.some.inj h
    exact fun c hc => Or.inl hc
  | case2 out next pos bias isFirst cs hne hread =>
    rw [insertions, if_neg hne] at h
    split at h
    · cases h
    · next hsome =>
      rw [hread] at hsome
      cases hsome
  | case3 out next pos bias isFirst cs hne value rest hread count later hchar =>
    rw [insertions, if_neg hne] at h
    split at h
    · cases h
    · next hsome =>
      obtain ⟨rfl, rfl⟩ := Prod.mk.inj (Option.some.inj (hread.symm.trans hsome))
      simp only [show charOf? (next + value / (out.length + 1)) = none from hchar] at h
      cases h
  | case4 out next pos bias isFirst cs hne value rest hread count bias' later pos' put hchar ih =>
    rw [insertions, if_neg hne] at h
    split at h
    · cases h
    · next hsome =>
      obtain ⟨rfl, rfl⟩ := Prod.mk.inj (Option.some.inj (hread.symm.trans hsome))
      simp only [show charOf? (next + value / (out.length + 1)) = some put from hchar] at h
      have hlater : initialCode ≤ later := Nat.le_trans hnext (Nat.le_add_right next _)
      intro c hc
      rcases ih hlater h c hc with hput | hbeyond
      · rcases mem_insertAt hput with hout | rfl
        · exact Or.inl hout
        · rw [toNat_of_charOf? hchar]
          exact Or.inr hlater
      · exact Or.inr hbeyond

theorem mem_decode? {cs label : List Char} (h : decode? cs = some label) :
    ∀ c ∈ label, c ∈ cs ∨ initialCode ≤ c.toNat := by
  have hfront : ∀ c ∈ (splitAtDelimiter cs).1, c ∈ cs := by
    unfold splitAtDelimiter
    simp only
    split
    · exact fun c hc => List.mem_of_mem_take (List.dropLast_subset _ hc)
    · exact fun c hc => absurd hc List.not_mem_nil
  simp only [decode?] at h
  split at h
  · exact fun c hc => (mem_insertions (Nat.le_refl initialCode) h c hc).imp_left (hfront c)
  · cases h

end Punycode

/-! ## Labels -/

theorem mem_decodedLabel? {denied : Char → Bool} {cs label : List Char}
    (h : decodedLabel? denied cs = some label) :
    ∀ c ∈ label, c ∈ cs ∨ Punycode.initialCode ≤ c.toNat := by
  unfold decodedLabel? at h
  split at h
  · cases h
  · next hdecode =>
    split at h
    · obtain rfl := Option.some.inj h
      exact Punycode.mem_decode? hdecode
    · cases h

theorem mem_label? {denied : Char → Bool} {cs : List Char} {label : DomainLabel}
    (h : label? denied cs = some label) :
    ∀ c ∈ label.unicode, c ∈ cs ∨ Punycode.initialCode ≤ c.toNat := by
  unfold label? at h
  split at h
  · cases h
  · split at h
    · split at h
      · obtain ⟨decoded, hdecoded, hlabel⟩ := Option.bind_eq_some_iff.1 h
        split at hlabel
        · obtain rfl := Option.some.inj hlabel
          exact fun c hc => (mem_decodedLabel? hdecoded c hc).imp_left List.mem_of_mem_drop
        · cases hlabel
      · cases h
    · split at h
      · obtain rfl := Option.some.inj h
        exact fun c hc => Or.inl hc
      · cases h

theorem mem_of_mem_splitDots {cs part : List Char} (h : part ∈ splitDots cs) :
    ∀ c ∈ part, c ∈ cs := by
  induction cs using splitDots.induct generalizing part with
  | case1 =>
    obtain rfl := List.mem_singleton.1 h
    exact fun c hc => hc
  | case2 rest ih =>
    rcases List.mem_cons.1 h with rfl | h
    · exact fun c hc => absurd hc List.not_mem_nil
    · exact fun c hc => List.mem_cons_of_mem '.' (ih h c hc)
  | case3 first rest hdot part' others hrest ih =>
    rw [splitDots, hrest] at h
    · rcases List.mem_cons.1 h with rfl | h
      · intro c hc
        rcases List.mem_cons.1 hc with rfl | hc
        · exact List.mem_cons_self
        · exact List.mem_cons_of_mem first (ih (hrest ▸ List.mem_cons_self) c hc)
      · exact fun c hc => List.mem_cons_of_mem first
          (ih (hrest ▸ List.mem_cons_of_mem part' h) c hc)
    · exact hdot
  | case4 first rest hdot hrest ih =>
    rw [splitDots, hrest] at h
    · obtain rfl := List.mem_singleton.1 h
      intro c hc
      obtain rfl := List.mem_singleton.1 hc
      exact List.mem_cons_self
    · exact hdot

theorem mem_joinDots {labels : List (List Char)} {c : Char} (h : c ∈ joinDots labels) :
    c = '.' ∨ ∃ label ∈ labels, c ∈ label := by
  induction labels using joinDots.induct with
  | case1 => cases h
  | case2 label => exact Or.inr ⟨label, List.mem_singleton_self label, h⟩
  | case3 label rest hrest ih =>
    rw [joinDots] at h
    · rcases List.mem_append.1 h with hlabel | hbehind
      · exact Or.inr ⟨label, List.mem_cons_self, hlabel⟩
      · rcases List.mem_cons.1 hbehind with rfl | hbehind
        · exact Or.inl rfl
        · rcases ih hbehind with hdot | ⟨other, hother, hc⟩
          · exact Or.inl hdot
          · exact Or.inr ⟨other, List.mem_cons_of_mem label hother, hc⟩
    · exact hrest

/-! ## Names -/

theorem mapChars_of_isAscii {cs : List Char} (h : isAscii cs = true) :
    mapChars cs = some (lowerChars cs) := by
  induction cs with
  | nil => rfl
  | cons c rest ih =>
    obtain ⟨hc, hrest⟩ := List.forall_mem_cons.1 (List.all_eq_true.1 h)
    have hlow : c.toNat < tableStart := of_decide_eq_true hc
    rw [mapChars, ih (List.all_eq_true.2 hrest), mapChar, if_pos hlow]
    rfl

theorem composed_of_isAscii {cs : List Char} (h : isAscii cs = true) : composed cs = cs := by
  rw [composed, if_pos]
  rw [List.all_eq_true]
  intro c hc
  have hascii : c.toNat < 0x80 := of_decide_eq_true (List.all_eq_true.1 h c hc)
  exact decide_eq_true (Nat.lt_trans hascii (by decide))

theorem isAscii_lowerChars {cs : List Char} (h : isAscii cs = true) :
    isAscii (lowerChars cs) = true := by
  rw [isAscii, List.all_eq_true]
  intro c hc
  obtain ⟨a, ha, rfl⟩ := List.mem_map.1 hc
  have hascii : a.toNat < 0x80 := of_decide_eq_true (List.all_eq_true.1 h a ha)
  refine decide_eq_true ?_
  rw [toNat_lowerChar]
  split
  · omega
  · exact hascii

theorem exists_of_mem_mapM {α β : Type} {f : α → Option β} {xs : List α} {ys : List β}
    (h : xs.mapM f = some ys) : ∀ y ∈ ys, ∃ x ∈ xs, f x = some y := by
  induction xs generalizing ys with
  | nil =>
    obtain rfl := Option.some.inj h
    exact fun y hy => absurd hy List.not_mem_nil
  | cons x xs ih =>
    rw [List.mapM_cons] at h
    obtain ⟨y, hy, hrest⟩ := Option.bind_eq_some_iff.1 h
    obtain ⟨ys, hys, hlist⟩ := Option.bind_eq_some_iff.1 hrest
    obtain rfl := Option.some.inj hlist
    intro z hz
    rcases List.mem_cons.1 hz with rfl | hz
    · exact ⟨x, List.mem_cons_self, hy⟩
    · obtain ⟨w, hw, hwz⟩ := ih hys z hz
      exact ⟨w, List.mem_cons_of_mem x hw, hwz⟩

theorem process_of_isAscii {denied : Char → Bool} {cs : List Char} {labels : List DomainLabel}
    (hascii : isAscii cs = true) (h : process denied cs = some labels) :
    (splitDots (lowerChars cs)).mapM (label? denied) = some labels := by
  rw [process, mapChars_of_isAscii hascii] at h
  obtain ⟨mapped, hmapped, hcut⟩ := Option.bind_eq_some_iff.1 h
  obtain rfl := Option.some.inj hmapped
  rw [composed_of_isAscii (isAscii_lowerChars hascii)] at hcut
  obtain ⟨found, hlabels, hguard⟩ := Option.bind_eq_some_iff.1 hcut
  obtain ⟨-, -, hfound⟩ := Option.bind_eq_some_iff.1 hguard
  obtain rfl := Option.some.inj hfound
  exact hlabels

/-- Written in characters, an ASCII name keeps to its own letters, dots, and
characters beyond ASCII. -/
theorem mem_toUnicode? {cs text : List Char} (hascii : isAscii cs = true)
    (h : toUnicode? cs = some text) :
    ∀ c ∈ text, c = '.' ∨ c ∈ lowerChars cs ∨ Punycode.initialCode ≤ c.toNat := by
  obtain ⟨labels, hprocess, rfl⟩ := Option.map_eq_some_iff.1 h
  intro c hc
  rcases mem_joinDots hc with hdot | ⟨text, htext, hc⟩
  · exact Or.inl hdot
  · obtain ⟨label, hlabel, rfl⟩ := List.mem_map.1 htext
    obtain ⟨part, hpart, hread⟩ :=
      exists_of_mem_mapM (process_of_isAscii hascii hprocess) label hlabel
    exact Or.inr ((mem_label? hread c hc).imp_left (mem_of_mem_splitDots hpart c))

theorem splitDots_of_not_mem {cs : List Char} (h : '.' ∉ cs) : splitDots cs = [cs] := by
  induction cs with
  | nil => rfl
  | cons c rest ih =>
    rw [List.mem_cons, not_or] at h
    obtain ⟨hc, hrest⟩ := h
    rw [splitDots, ih hrest]
    exact fun hdot => hc hdot.symm

theorem ascii_of_label? {denied : Char → Bool} {cs : List Char} {label : DomainLabel}
    (hascii : isAscii cs = true) (h : label? denied cs = some label) : label.ascii = cs := by
  unfold label? at h
  split at h
  · cases h
  · split at h
    · split at h
      · obtain ⟨found, -, hlabel⟩ := Option.bind_eq_some_iff.1 h
        split at hlabel
        · obtain rfl := Option.some.inj hlabel
          rfl
        · cases hlabel
      · cases h
    · split at h
      · obtain rfl := Option.some.inj h
        exact if_pos hascii
      · cases h

/-- The ASCII spelling of a single ASCII label is the label in lower case. -/
theorem toAscii?_of_isAscii {cs spelled : List Char} (hascii : isAscii cs = true) (hdot : '.' ∉ cs)
    (h : toAscii? cs = some spelled) : spelled = lowerChars cs := by
  obtain ⟨labels, hprocess, rfl⟩ := Option.map_eq_some_iff.1 h
  have hlabels := process_of_isAscii hascii hprocess
  rw [splitDots_of_not_mem (not_mem_lowerChars hdot), List.mapM_cons] at hlabels
  obtain ⟨label, hlabel, hsingle⟩ := Option.bind_eq_some_iff.1 hlabels
  obtain rfl := Option.some.inj hsingle
  exact ascii_of_label? (isAscii_lowerChars hascii) hlabel

theorem not_isAscii_of_decodedLabel? {denied : Char → Bool} {cs label : List Char}
    (h : decodedLabel? denied cs = some label) : isAscii label = false := by
  unfold decodedLabel? at h
  split at h
  · cases h
  · split at h
    · next hchecks =>
      obtain rfl := Option.some.inj h
      simp only [Bool.and_eq_true, Bool.not_eq_true'] at hchecks
      exact hchecks.1.1.1.1
    · cases h

/-- A single label in Punycode never stands for ASCII characters alone. -/
theorem not_isAscii_of_toUnicode? {cs text : List Char} (hascii : isAscii cs = true)
    (hdot : '.' ∉ cs) (hmark : acePrefix.isPrefixOf cs = true)
    (h : toUnicode? cs = some text) : isAscii text = false := by
  obtain ⟨labels, hprocess, rfl⟩ := Option.map_eq_some_iff.1 h
  have hlabels := process_of_isAscii hascii hprocess
  rw [splitDots_of_not_mem (not_mem_lowerChars hdot), List.mapM_cons] at hlabels
  obtain ⟨label, hlabel, hsingle⟩ := Option.bind_eq_some_iff.1 hlabels
  obtain rfl := Option.some.inj hsingle
  have hlowered : acePrefix.isPrefixOf (lowerChars cs) = true := by
    obtain ⟨rest, rfl⟩ := List.isPrefixOf_iff_prefix.1 hmark
    rw [lowerChars, List.map_append]
    exact List.isPrefixOf_iff_prefix.2 (List.prefix_append _ _)
  have hallowed : ¬ ((lowerChars cs).any fun _ => false) = true := by simp
  rw [label?, if_neg hallowed, if_pos hlowered] at hlabel
  split at hlabel
  · obtain ⟨decoded, hdecoded, hfound⟩ := Option.bind_eq_some_iff.1 hlabel
    split at hfound
    · obtain rfl := Option.some.inj hfound
      exact not_isAscii_of_decodedLabel? hdecoded
    · cases hfound
  · cases hlabel

end Idna
end SplitHorizon
