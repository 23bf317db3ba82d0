/-
Addresses in front of texts.

A reader of addresses takes what it can use from the front of a text and leaves the rest.  What
it takes is settled as soon as neither a digit, nor a colon, nor a dot follows, so an address
that is a whole text is also read in front of a bracket or a percent sign.  `Frontal` is this
property of a reader, with one rule for each way in which the readers are put together.
-/
import SplitHorizon.Address.Ip
import SplitHorizon.Proofs.Numerals

namespace SplitHorizon

/-- No address in front of the text goes on in it. -/
def EndsAddress (tail : List Char) : Prop :=
  ∀ c ∈ tail.head?, Text.isDigitOf 16 c = false ∧ c ≠ ':' ∧ c ≠ '.'

theorem endsAddress_cons {c : Char} {tail : List Char} (hdigit : Text.isDigitOf 16 c = false)
    (hcolon : c ≠ ':') (hdot : c ≠ '.') : EndsAddress (c :: tail) := by
  intro d hd
  obtain rfl : c = d := Option.some.inj hd
  exact ⟨hdigit, hcolon, hdot⟩

namespace EndsAddress

variable {tail : List Char}

theorem endsNumeral_sixteen (h : EndsAddress tail) : Text.EndsNumeral 16 tail :=
  fun c hc => (h c hc).1

theorem endsNumeral_ten (h : EndsAddress tail) : Text.EndsNumeral 10 tail := by
  intro c hc
  rw [← Bool.not_eq_true]
  intro hdigit
  exact Bool.false_ne_true ((h c hc).1.symm.trans (Text.isDigitOf_sixteen hdigit))

end EndsAddress

/-! ## Readers -/

/-- What the reader leaves is the end of the text, and a tail in which no address goes on stays
behind it. -/
structure Frontal {α : Type} (read : List Char → Option (α × List Char)) : Prop where
  suffix : ∀ {cs found}, read cs = some found → found.2 <:+ cs
  append : ∀ {tail}, EndsAddress tail → ∀ cs,
    read (cs ++ tail) = (read cs).map fun found => (found.1, found.2 ++ tail)

namespace Frontal

variable {α β : Type} {f : List Char → Option (α × List Char)}

theorem pure (a : α) : Frontal fun cs => some (a, cs) where
  suffix h := by
    obtain rfl := Option.some.inj h
    exact List.suffix_rfl
  append _ _ := rfl

theorem bind {g : α → List Char → Option (β × List Char)} (hf : Frontal f)
    (hg : ∀ a, Frontal (g a)) : Frontal fun cs => (f cs).bind fun found => g found.1 found.2 where
  suffix h := by
    obtain ⟨found, hfound, hrest⟩ := Option.bind_eq_some_iff.1 h
    exact ((hg found.1).suffix hrest).trans (hf.suffix hfound)
  append htail cs := by
    rw [hf.append htail cs]
    cases f cs with
    | none => rfl
    | some found => exact (hg found.1).append htail found.2

/-- A run of digits of which a value is taken. -/
theorem ofSpan {base : Nat} (take : List Char → Option α)
    (hends : ∀ {tail}, EndsAddress tail → Text.EndsNumeral base tail)
    (hread : ∀ cs, f cs =
      (take (Text.spanDigits base cs).1).map fun a => (a, (Text.spanDigits base cs).2)) :
    Frontal f where
  suffix {cs found} h := by
    rw [hread] at h
    obtain ⟨a, -, rfl⟩ := Option.map_eq_some_iff.1 h
    exact List.dropWhile_suffix _
  append htail cs := by
    rw [hread, hread, Text.spanDigits_append_tail (hends htail), Option.map_map]
    rfl

/-- A separator in front, without which nothing is read. -/
theorem after {sep : Char} (hsep : sep = ':' ∨ sep = '.') (hf : Frontal f)
    {g : List Char → Option (α × List Char)} (hcons : ∀ rest, g (sep :: rest) = f rest)
    (hother : ∀ cs, cs.head? ≠ some sep → g cs = none) : Frontal g where
  suffix {cs found} h := by
    match cs with
    | [] =>
      rw [hother [] (by simp)] at h
      cases h
    | c :: rest =>
      by_cases hc : c = sep
      · subst hc
        exact (hf.suffix (hcons rest ▸ h)).trans (List.suffix_cons c rest)
      · rw [hother _ (by simpa using hc)] at h
        cases h
  append {tail} htail cs := by
    match cs with
    | [] =>
      have hnot : tail.head? ≠ some sep := by
        intro hhead
        rcases hsep with rfl | rfl
        · exact (htail _ hhead).2.1 rfl
        · exact (htail _ hhead).2.2 rfl
      rw [List.nil_append, hother tail hnot, hother [] (by simp), Option.map_none]
    | c :: rest =>
      by_cases hc : c = sep
      · subst hc
        rw [List.cons_append, hcons, hcons, hf.append htail]
      · rw [List.cons_append, hother _ (by simpa using hc), hother _ (by simpa using hc),
          Option.map_none]

/-- What is read in front of a tail is what the text before the tail is read as. -/
theorem eq_some_iff (hf : Frontal f) {a : α} {cs tail : List Char} (htail : EndsAddress tail) :
    f cs = some (a, tail) ↔ ∃ front, cs = front ++ tail ∧ f front = some (a, []) := by
  constructor
  · intro h
    obtain ⟨front, rfl⟩ := hf.suffix h
    rw [hf.append htail front] at h
    obtain ⟨found, hfound, hmap⟩ := Option.map_eq_some_iff.1 h
    obtain ⟨rfl, hrest⟩ := Prod.mk.inj hmap
    have hnone : found.2 = [] := List.append_left_eq_self.1 hrest
    exact ⟨front, rfl, by rw [hfound, ← hnone]⟩
  · rintro ⟨front, rfl, hfront⟩
    rw [hf.append htail front, hfront, Option.map_some, List.nil_append]

end Frontal

/-! ## IPv4 addresses -/

namespace Ipv4

theorem frontal_readByte : Frontal readByte := by
  refine Frontal.ofSpan
    (fun digits =>
      if digits = [] ∨ 3 < digits.length ∨ 255 < Text.numeralValue 10 digits ∨
        (digits.head? = some '0' ∧ 1 < digits.length) then none
      else some (UInt8.ofNat (Text.numeralValue 10 digits)))
    EndsAddress.endsNumeral_ten fun cs => ?_
  unfold readByte
  simp only
  split <;> rfl

theorem readDotByte_of_head? {cs : List Char} (h : cs.head? ≠ some '.') :
    readDotByte cs = none := by
  unfold readDotByte
  split
  · exact absurd rfl h
  · rfl

theorem frontal_readDotByte : Frontal readDotByte :=
  frontal_readByte.after (Or.inr rfl) (fun _ => rfl) (fun _ => readDotByte_of_head?)

theorem frontal_read? : Frontal read? :=
  frontal_readByte.bind fun _ => frontal_readDotByte.bind fun _ =>
    frontal_readDotByte.bind fun _ => frontal_readDotByte.bind fun _ => Frontal.pure _

end Ipv4

/-! ## IPv6 addresses -/

namespace Ipv6

variable {room : Nat} {first : Bool} {cs : List Char}

theorem frontal_readGroup : Frontal readGroup := by
  refine Frontal.ofSpan
    (fun digits =>
      if digits = [] ∨ 4 < digits.length then none
      else some (UInt16.ofNat (Text.numeralValue 16 digits)))
    EndsAddress.endsNumeral_sixteen fun cs => ?_
  unfold readGroup
  simp only
  split <;> rfl

theorem skipColon_false_of_head? (h : cs.head? ≠ some ':') : skipColon false cs = none := by
  unfold skipColon
  rw [if_neg Bool.false_ne_true]
  split
  · exact absurd rfl h
  · rfl

theorem frontal_skipColon {α : Type} {f : List Char → Option (α × List Char)} (hf : Frontal f)
    (first : Bool) : Frontal fun cs => (skipColon first cs).bind f := by
  cases first with
  | true => exact hf
  | false =>
    refine hf.after (Or.inl rfl) (fun _ => rfl) fun cs hcs => ?_
    rw [skipColon_false_of_head? hcs]
    rfl

/-- The dotted address that may end a run of groups. -/
def dottedAt (room : Nat) (first : Bool) (cs : List Char) : Option (Ipv4 × List Char) :=
  if room = 0 then none else (skipColon first cs).bind Ipv4.read?

def groupAt (first : Bool) (cs : List Char) : Option (UInt16 × List Char) :=
  (skipColon first cs).bind readGroup

theorem frontal_dottedAt (room : Nat) (first : Bool) : Frontal (dottedAt room first) := by
  unfold dottedAt
  by_cases h : room = 0
  · simp only [if_pos h]
    exact ⟨fun hnone => (nomatch hnone), fun _ _ => rfl⟩
  · simp only [if_neg h]
    exact frontal_skipColon Ipv4.frontal_read? first

theorem frontal_groupAt (first : Bool) : Frontal (groupAt first) :=
  frontal_skipColon frontal_readGroup first

theorem readGroups_of_dotted {ip : Ipv4} {rest : List Char}
    (h : dottedAt room first cs = some (ip, rest)) :
    readGroups (room + 1) first cs = (groupsOfIpv4 ip, true, rest) := by
  unfold dottedAt at h
  simp only [readGroups, h]

theorem readGroups_of_group {group : UInt16} {rest : List Char}
    (hdotted : dottedAt room first cs = none) (h : groupAt first cs = some (group, rest)) :
    readGroups (room + 1) first cs =
      (group :: (readGroups room false rest).1, (readGroups room false rest).2) := by
  unfold dottedAt at hdotted
  unfold groupAt at h
  simp only [readGroups, hdotted, h]

theorem readGroups_of_none (hdotted : dottedAt room first cs = none)
    (h : groupAt first cs = none) : readGroups (room + 1) first cs = ([], false, cs) := by
  unfold dottedAt at hdotted
  unfold groupAt at h
  simp only [readGroups, hdotted, h]

theorem readGroups_zero : readGroups 0 first cs = ([], false, cs) := rfl

theorem suffix_readGroups (room : Nat) (first : Bool) (cs : List Char) :
    (readGroups room first cs).2.2 <:+ cs := by
  induction room generalizing first cs with
  | zero => exact List.suffix_rfl
  | succ room ih =>
    cases hdotted : dottedAt room first cs with
    | some found =>
      rw [readGroups_of_dotted hdotted]
      exact (frontal_dottedAt room first).suffix hdotted
    | none =>
      cases hgroup : groupAt first cs with
      | some found =>
        rw [readGroups_of_group hdotted hgroup]
        exact (ih false found.2).trans ((frontal_groupAt first).suffix hgroup)
      | none =>
        have hrest : (readGroups (room + 1) first cs).2.2 = cs := by
          rw [readGroups_of_none hdotted hgroup]
        exact ⟨[], hrest⟩

theorem readGroups_append {tail : List Char} (htail : EndsAddress tail) (room : Nat)
    (first : Bool) (cs : List Char) :
    readGroups room first (cs ++ tail) = ((readGroups room first cs).1,
      (readGroups room first cs).2.1, (readGroups room first cs).2.2 ++ tail) := by
  -- Each group leaves the room of the next, and the tail stands behind what it leaves.
  induction room generalizing first cs with
  | zero => rfl
  | succ room ih =>
    have hdottedTail := (frontal_dottedAt room first).append htail cs
    have hgroupTail := (frontal_groupAt first).append htail cs
    cases hdotted : dottedAt room first cs with
    | some found =>
      rw [hdotted] at hdottedTail
      rw [readGroups_of_dotted hdottedTail, readGroups_of_dotted hdotted]
    | none =>
      rw [hdotted] at hdottedTail
      cases hgroup : groupAt first cs with
      | some found =>
        rw [hgroup] at hgroupTail
        rw [readGroups_of_group hdottedTail hgroupTail, readGroups_of_group hdotted hgroup, ih]
      | none =>
        rw [hgroup] at hgroupTail
        rw [readGroups_of_none hdottedTail hgroupTail, readGroups_of_none hdotted hgroup]

/-- What stands behind two colons, after the groups in front of them. -/
def readBack (front : List UInt16) (cs : List Char) : Option (Ipv6 × List Char) :=
  match cs with
  | ':' :: ':' :: rest =>
    let (back, _, rest) := readGroups (7 - front.length) true rest
    let zeros := List.replicate (8 - front.length - back.length) 0
    (ofGroups? (front ++ zeros ++ back)).map (·, rest)
  | _ => none

theorem readBack_of_not {front : List UInt16} (h : ∀ rest, cs ≠ ':' :: ':' :: rest) :
    readBack front cs = none := by
  unfold readBack
  split
  · exact absurd rfl (h _)
  · rfl

theorem frontal_readBack (front : List UInt16) : Frontal (readBack front) where
  suffix {cs found} h := by
    unfold readBack at h
    split at h
    · next rest =>
      obtain ⟨ip, -, rfl⟩ := Option.map_eq_some_iff.1 h
      have htwo : rest <:+ ':' :: ':' :: rest := List.suffix_append [':', ':'] rest
      exact (suffix_readGroups _ true rest).trans htwo
    · cases h
  append {tail} htail cs := by
    by_cases hcolons : ∃ rest, cs = ':' :: ':' :: rest
    · obtain ⟨rest, rfl⟩ := hcolons
      simp only [readBack, List.cons_append, readGroups_append htail, Option.map_map]
      rfl
    · have hnot : ∀ rest, cs ≠ ':' :: ':' :: rest := fun rest h => hcolons ⟨rest, h⟩
      -- The tail starts with no colon, so it does not complete a pair of them either.
      have hnot' : ∀ rest, cs ++ tail ≠ ':' :: ':' :: rest := by
        intro rest h
        match cs, hnot, h with
        | [], _, h =>
          rw [List.nil_append] at h
          exact (htail ':' (by rw [h]; rfl)).2.1 rfl
        | [c], _, h =>
          have hcolon : tail = ':' :: rest := (List.cons.inj h).2
          exact (htail ':' (by rw [hcolon]; rfl)).2.1 rfl
        | c :: d :: more, hnot, h =>
          obtain ⟨rfl, hmore⟩ := List.cons.inj h
          obtain ⟨rfl, -⟩ := List.cons.inj hmore
          exact hnot more rfl
      rw [readBack_of_not hnot, readBack_of_not hnot', Option.map_none]

theorem read?_of_eight (h : (readGroups 8 true cs).1.length = 8) :
    read? cs = some ({ groups := (readGroups 8 true cs).1, length_eq := h },
      (readGroups 8 true cs).2.2) := by
  simp only [read?, h, dif_pos]

theorem read?_of_dotted (h : (readGroups 8 true cs).1.length ≠ 8)
    (hdotted : (readGroups 8 true cs).2.1 = true) : read? cs = none := by
  simp only [read?, dif_neg h, hdotted, if_true]

theorem read?_of_short (h : (readGroups 8 true cs).1.length ≠ 8)
    (hdotted : (readGroups 8 true cs).2.1 = false) :
    read? cs = readBack (readGroups 8 true cs).1 (readGroups 8 true cs).2.2 := by
  simp only [read?, dif_neg h, hdotted, Bool.false_eq_true, if_false]
  rfl

theorem frontal_read? : Frontal read? where
  suffix {cs found} h := by
    have hgroups := suffix_readGroups 8 true cs
    by_cases height : (readGroups 8 true cs).1.length = 8
    · rw [read?_of_eight height] at h
      obtain rfl := Option.some.inj h
      exact hgroups
    · cases hdotted : (readGroups 8 true cs).2.1 with
      | true =>
        rw [read?_of_dotted height hdotted] at h
        cases h
      | false =>
        rw [read?_of_short height hdotted] at h
        exact ((frontal_readBack _).suffix h).trans hgroups
  append {tail} htail cs := by
    have hgroups := readGroups_append htail 8 true cs
    have hfront : (readGroups 8 true (cs ++ tail)).1 = (readGroups 8 true cs).1 := by
      rw [hgroups]
    have hflag : (readGroups 8 true (cs ++ tail)).2.1 = (readGroups 8 true cs).2.1 := by
      rw [hgroups]
    have hrest : (readGroups 8 true (cs ++ tail)).2.2 = (readGroups 8 true cs).2.2 ++ tail := by
      rw [hgroups]
    by_cases height : (readGroups 8 true cs).1.length = 8
    · rw [read?_of_eight height, read?_of_eight (hfront ▸ height)]
      simp only [hfront, hrest, Option.map_some]
    · cases hdotted : (readGroups 8 true cs).2.1 with
      | true =>
        rw [read?_of_dotted height hdotted,
          read?_of_dotted (hfront ▸ height) (hflag.trans hdotted), Option.map_none]
      | false =>
        rw [read?_of_short height hdotted,
          read?_of_short (hfront ▸ height) (hflag.trans hdotted), hfront, hrest]
        exact (frontal_readBack _).append htail _

end Ipv6
end SplitHorizon
