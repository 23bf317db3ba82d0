/-
The spelling of a name after it went over the wire.

A configured name is kept in the normal form of its text; a name that is asked for
is looked up in the normal form of the text that the decoded labels print as.  Where
the two agree, the kept text reads as the same name, up to letter case.
-/
import SplitHorizon.Proofs.Wire.Escapes
import SplitHorizon.Proofs.Wire.LetterCase

namespace SplitHorizon
namespace Wire

open Text

/-! ## Printing -/

theorem isPlainByte_of_isLabelChar {isFirst : Bool} {c : Char} (h : isLabelChar isFirst c = true)
    (hdot : c ≠ '.') : isPlainByte isFirst c = true := by
  unfold isPlainByte
  rcases isLabelChar_iff.1 h with halnum | rfl | rfl | ⟨rfl, rfl⟩ | ⟨rfl, rfl⟩
  · rw [halnum]
    rfl
  · rfl
  · exact absurd rfl hdot
  · rfl
  · rfl

theorem ne_backslash_of_isLabelChar {isFirst : Bool} {c : Char}
    (h : isLabelChar isFirst c = true) : c ≠ '\\' := by
  rintro rfl
  cases isFirst with
  | false => cases h
  | true => cases h

theorem toNat_ofNat_of_isLabelChar {isFirst : Bool} {c : Char}
    (h : isLabelChar isFirst c = true) : (UInt8.ofNat c.toNat).toNat = c.toNat := by
  have hlow : c.toNat < 0x80 := toNat_lt_of_isLabelChar h
  rw [UInt8.toNat_ofNat']
  omega

theorem byteText_of_ne_dot {isFirst : Bool} {c : Char} (h : isLabelChar isFirst c = true)
    (hdot : c ≠ '.') : byteText isFirst (UInt8.ofNat c.toNat) = [c] := by
  unfold byteText
  simp only [toNat_ofNat_of_isLabelChar h, Char.ofNat_toNat]
  rw [if_pos (isPlainByte_of_isLabelChar h hdot)]

/-- Of the characters that labels are read from, the dot alone prints behind a
backslash. -/
theorem dotEscaped_byteText {isFirst : Bool} {c : Char} (h : isLabelChar isFirst c = true) :
    DotEscaped (byteText isFirst (UInt8.ofNat c.toNat)) := by
  by_cases hdot : c = '.'
  · subst hdot
    cases isFirst with
    | false => exact DotEscaped.escape DotEscaped.nil
    | true => exact DotEscaped.escape DotEscaped.nil
  · rw [byteText_of_ne_dot h hdot]
    exact DotEscaped.plain (ne_backslash_of_isLabelChar h) DotEscaped.nil

theorem asciiLabel?_eq_some {cs : List Char} {label : Label} (h : asciiLabel? cs = some label) :
    ∃ first rest, cs = first :: rest ∧ isLabelChar true first = true ∧
      (∀ c ∈ rest, isLabelChar false c = true) ∧
      label.bytes = cs.map fun c => UInt8.ofNat c.toNat := by
  cases cs with
  | nil => cases h
  | cons first rest =>
    rw [asciiLabel?] at h
    split at h
    · next hchars =>
      rw [Bool.and_eq_true, List.all_eq_true] at hchars
      unfold Label.ofBytes? at h
      split at h
      · obtain rfl := Option.some.inj h
        exact ⟨first, rest, rfl, hchars.1, hchars.2, rfl⟩
      · cases h
    · cases h

theorem utf8Encode_of_isAscii {cs : List Char} (h : Idna.isAscii cs = true) :
    cs.flatMap String.utf8EncodeChar = cs.map fun c => UInt8.ofNat c.toNat := by
  induction cs with
  | nil => rfl
  | cons c rest ih =>
    obtain ⟨hc, hrest⟩ := List.forall_mem_cons.1 (List.all_eq_true.1 h)
    have hlow : c.toNat < 0x80 := of_decide_eq_true hc
    have hsize : c.utf8Size = 1 := by
      rw [Char.utf8Size_eq_one_iff, UInt32.le_iff_toNat_le]
      exact Nat.le_of_lt_succ hlow
    rw [List.flatMap_cons, String.utf8EncodeChar_eq_singleton hsize, ih (List.all_eq_true.2 hrest)]
    rfl

/-- ASCII bytes are the text of their characters. -/
theorem ofUtf8?_of_isAscii {cs : List Char} (h : Idna.isAscii cs = true) :
    ofUtf8? (cs.map fun c => UInt8.ofNat c.toNat) = some (String.ofList cs) := by
  have hbytes : ByteArray.mk (cs.map fun c => UInt8.ofNat c.toNat).toArray =
      (String.ofList cs).toByteArray := by
    rw [String.toByteArray_ofList, List.utf8Encode, utf8Encode_of_isAscii h]
    exact ByteArray.ext List.data_toByteArray.symm
  rw [ofUtf8?, hbytes, String.fromUTF8?, dif_pos (String.ofList cs).isValidUTF8]
  rfl

/-- The label prints byte for byte, and not as the characters that it stands for in
Punycode. -/
def Label.PrintsAsSpelled (label : Label) : Prop :=
  label.chars = bytesText label.bytes

theorem Label.printsAsSpelled_of_prefix {label : Label}
    (h : acePrefixBytes.isPrefixOf label.bytes = false) : label.PrintsAsSpelled := by
  rw [PrintsAsSpelled, chars, h]
  rfl

section

variable {cs : List Char} {label : Label}

theorem isLabelChar_of_asciiLabel? (h : asciiLabel? cs = some label) :
    ∀ c ∈ cs, ∃ isFirst, isLabelChar isFirst c = true := by
  obtain ⟨first, rest, rfl, hfirst, hrest, -⟩ := asciiLabel?_eq_some h
  intro c hc
  rcases List.mem_cons.1 hc with rfl | hc
  · exact ⟨true, hfirst⟩
  · exact ⟨false, hrest c hc⟩

theorem isAscii_of_asciiLabel? (h : asciiLabel? cs = some label) : Idna.isAscii cs = true := by
  rw [Idna.isAscii, List.all_eq_true]
  intro c hc
  obtain ⟨isFirst, hchar⟩ := isLabelChar_of_asciiLabel? h c hc
  exact decide_eq_true (toNat_lt_of_isLabelChar hchar)

/-- A label in Punycode prints as what its characters stand for, if they can be read. -/
theorem chars_of_asciiLabel? (h : asciiLabel? cs = some label)
    (hmark : acePrefixBytes.isPrefixOf label.bytes = true) :
    label.chars = (Idna.toUnicode? cs).getD (bytesText label.bytes) := by
  obtain ⟨_, _, _, _, _, hbytes⟩ := asciiLabel?_eq_some h
  have hread : ofUtf8? label.bytes = some (String.ofList cs) := by
    rw [hbytes]
    exact ofUtf8?_of_isAscii (isAscii_of_asciiLabel? h)
  rw [Label.chars, if_pos hmark, hread, Option.bind_some, String.toList_ofList]

theorem dotEscaped_bytesText (h : asciiLabel? cs = some label) :
    DotEscaped (bytesText label.bytes) := by
  obtain ⟨first, rest, rfl, hfirst, hrest, hbytes⟩ := asciiLabel?_eq_some h
  rw [hbytes, List.map_cons, bytesText, List.flatMap_map]
  exact DotEscaped.append (dotEscaped_byteText hfirst)
    (DotEscaped.flatMap fun c hc => dotEscaped_byteText (hrest c hc))

/-- A label that was read prints with its dots escaped, or in other characters
without any backslash. -/
theorem dotEscaped_chars (h : asciiLabel? cs = some label) : DotEscaped label.chars := by
  by_cases hmark : acePrefixBytes.isPrefixOf label.bytes = true
  · rw [chars_of_asciiLabel? h hmark]
    cases htext : Idna.toUnicode? cs with
    | none => exact dotEscaped_bytesText h
    | some text =>
      refine DotEscaped.of_not_mem fun hmem => ?_
      rcases Idna.mem_toUnicode? (isAscii_of_asciiLabel? h) htext _ hmem with
        hdot | hlower | hbeyond
      · cases hdot
      · obtain ⟨c, hc, hslash⟩ := List.mem_map.1 hlower
        obtain ⟨isFirst, hchar⟩ := isLabelChar_of_asciiLabel? h c hc
        exact ne_backslash_of_isLabelChar hchar ((lowerChar_eq_iff (by decide)).1 hslash)
      · revert hbeyond
        decide
  · have hprints : label.PrintsAsSpelled :=
      Label.printsAsSpelled_of_prefix (Bool.eq_false_iff.2 hmark)
    rw [hprints]
    exact dotEscaped_bytesText h

end

/-! ## Names that were read -/

theorem asciiLabel?_of_internationalLabel? {cs : List Char} {label : Label}
    (h : internationalLabel? cs = some label) : ∃ spelled, asciiLabel? spelled = some label := by
  unfold internationalLabel? at h
  split at h
  · exact ⟨cs, h⟩
  · obtain ⟨spelled, -, hlabel⟩ := Option.bind_eq_some_iff.1 h
    exact ⟨spelled, hlabel⟩

theorem mapM_of_ofTexts? {read : List Char → Option Label} {texts : List (List Char)}
    {name : Name} (h : Name.ofTexts? read texts = some name) :
    texts.mapM read = some name.labels := by
  obtain ⟨labels, hlabels, hname⟩ := Option.bind_eq_some_iff.1 h
  unfold Name.ofLabels? at hname
  split at hname
  · obtain rfl := Option.some.inj hname
    exact hlabels
  · cases hname

theorem parse?_of_ne_dot {s : String} (hs : s ≠ ".") :
    Name.parse? s = (splitLabels [] s.toList).bind fun texts =>
      Name.ofTexts? internationalLabel? texts <|> Name.ofTexts? asciiLabel? texts := by
  rw [Name.parse?, WrittenName.parse?, if_neg hs, splitLabels]
  cases cutLabels [] s.toList with
  | none => rfl
  | some labels =>
    simp only [Option.bind_eq_bind, Option.bind_some, Option.map_some]
    cases Name.ofTexts? internationalLabel? labels.all <|>
        Name.ofTexts? asciiLabel? labels.all with
    | none => rfl
    | some name => rfl

/-- The labels of a name were all read in one of the two ways. -/
theorem mapM_of_parse? {s : String} {name : Name} (hs : s ≠ ".") (h : Name.parse? s = some name) :
    ∃ texts, splitLabels [] s.toList = some texts ∧
      (texts.mapM internationalLabel? = some name.labels ∨
        texts.mapM asciiLabel? = some name.labels) := by
  rw [parse?_of_ne_dot hs] at h
  obtain ⟨texts, htexts, hname⟩ := Option.bind_eq_some_iff.1 h
  refine ⟨texts, htexts, ?_⟩
  cases hinternational : Name.ofTexts? internationalLabel? texts with
  | some found =>
    rw [hinternational] at hname
    obtain rfl := Option.some.inj hname
    exact Or.inl (mapM_of_ofTexts? hinternational)
  | none =>
    rw [hinternational] at hname
    exact Or.inr (mapM_of_ofTexts? hname)

theorem dotEscaped_of_parse? {s : String} {name : Name} (h : Name.parse? s = some name) :
    ∀ label ∈ name.labels, DotEscaped label.chars := by
  by_cases hs : s = "."
  · subst hs
    obtain rfl := Option.some.inj h
    exact fun label hlabel => absurd hlabel List.not_mem_nil
  · intro label hlabel
    obtain ⟨texts, -, hlabels | hlabels⟩ := mapM_of_parse? hs h
    · obtain ⟨cs, -, hread⟩ := Idna.exists_of_mem_mapM hlabels label hlabel
      obtain ⟨spelled, hspelled⟩ := asciiLabel?_of_internationalLabel? hread
      exact dotEscaped_chars hspelled
    · obtain ⟨cs, -, hread⟩ := Idna.exists_of_mem_mapM hlabels label hlabel
      exact dotEscaped_chars hread

/-- A dot between all and one behind them is a dot behind each. -/
theorem intercalate_append_dot {texts : List (List Char)} (h : texts ≠ []) :
    List.intercalate ['.'] texts ++ ['.'] = texts.flatMap (· ++ ['.']) := by
  induction texts with
  | nil => exact absurd rfl h
  | cons first rest ih =>
    cases rest with
    | nil => simp [List.intercalate]
    | cons second rest =>
      rw [List.flatMap_cons, ← ih (List.cons_ne_nil second rest)]
      simp [List.intercalate]

theorem Name.toList_text {name : Name} (h : name.labels ≠ []) :
    name.text.toList = name.labels.flatMap fun label => label.chars ++ ['.'] := by
  have hchars : name.labels.map Label.chars ≠ [] := fun hnil => h (List.map_eq_nil_iff.1 hnil)
  rw [Name.text, WrittenName.text, String.toList_ofList, Name.absolute, if_pos rfl,
    intercalate_append_dot hchars, List.flatMap_map]

theorem Name.text_of_root {name : Name} (h : name.labels = []) : name.text = "." := by
  rw [Name.text, WrittenName.text, Name.absolute, h]
  rfl

/-- The text of a name that was read ends with a dot, and the backslashes before it
stand before dots. -/
theorem toList_text_of_parse? {s : String} {name : Name} (h : Name.parse? s = some name) :
    ∃ body, name.text.toList = body ++ ['.'] ∧ DotEscaped body := by
  have hescaped := dotEscaped_of_parse? h
  rcases List.eq_nil_or_concat name.labels with hroot | ⟨front, last, hlabels⟩
  · rw [Name.text_of_root hroot]
    exact ⟨[], rfl, DotEscaped.nil⟩
  · rw [Name.toList_text (by simp [hlabels]), hlabels]
    rw [hlabels] at hescaped
    refine ⟨front.flatMap (fun label => label.chars ++ ['.']) ++ last.chars, by simp, ?_⟩
    refine DotEscaped.append (DotEscaped.flatMap fun label hlabel => ?_) ?_
    · exact DotEscaped.append (hescaped label (by simp [hlabel])) DotEscaped.dot
    · exact hescaped last (by simp)

theorem normalizeChars_append_dot {body : List Char} (h : DotEscaped body) :
    ∃ rest, Fqdn.normalizeChars (body ++ ['.']) = rest ++ ['.'] ∧ DotEscaped rest := by
  have hfront : ∃ rest, trimFront (body ++ ['.']) = rest ++ ['.'] ∧ DotEscaped rest := by
    induction body with
    | nil => exact ⟨[], rfl, h⟩
    | cons c rest ih =>
      cases hblank : isBlank c with
      | true =>
        have htrim : trimFront (c :: rest ++ ['.']) = trimFront (rest ++ ['.']) := by
          simp [trimFront, hblank]
        rw [htrim]
        exact ih h.tail
      | false => exact ⟨c :: rest, by simp [trimFront, hblank], h⟩
  obtain ⟨rest, hrest, hescaped⟩ := hfront
  have hback : trimBack (rest ++ ['.']) = rest ++ ['.'] := by
    rw [trimBack, List.reverse_append, trimFront_eq_self, ← List.reverse_append,
      List.reverse_reverse]
    rintro c hc
    obtain rfl : '.' = c := by simpa using hc
    decide
  refine ⟨lowerChars rest, ?_, hescaped.lowerChars⟩
  rw [Fqdn.normalizeChars, trimChars, hrest, hback, ← Fqdn.lowerChars_closeDot,
    Fqdn.closeDot_eq_self (by simp), lowerChars, List.map_append]
  rfl

/-- A text that starts or ends with a blank is no name, unless a backslash stands
before the blank. -/
theorem trimChars_of_splitLabels {cs : List Char} {texts : List (List Char)}
    (hescaped : DotEscaped (trimChars cs)) (h : splitLabels [] cs = some texts) :
    trimChars cs = cs := by
  have hfront : trimFront cs = cs := by
    refine trimFront_eq_self fun c hc => ?_
    cases hblank : isBlank c with
    | false => rfl
    | true =>
      obtain ⟨rest, rfl⟩ : ∃ rest, cs = c :: rest := List.head?_eq_some_iff.1 hc
      have hnone : splitLabels [] ([] ++ c :: rest) = none :=
        splitLabels_blank DotEscaped.nil hblank
      rw [List.nil_append, h] at hnone
      cases hnone
  rw [trimChars, hfront] at hescaped ⊢
  obtain ⟨blanks, hblanks, hblank⟩ := trimBack_append_blanks cs
  cases blanks with
  | nil => rw [List.append_nil] at hblanks; exact hblanks
  | cons c rest =>
    have hnone : splitLabels [] (trimBack cs ++ c :: rest) = none :=
      splitLabels_blank hescaped (hblank c List.mem_cons_self)
    rw [hblanks, h] at hnone
    cases hnone

/-- The normal form of a text reads as the same labels in lower case, if backslashes
stand before dots only. -/
theorem splitLabels_normalizeChars {cs : List Char} {texts : List (List Char)}
    (hescaped : DotEscaped (trimChars cs)) (hne : cs ≠ []) (h : splitLabels [] cs = some texts) :
    splitLabels [] (Fqdn.normalizeChars cs) = some (texts.map lowerChars) := by
  have htrim := trimChars_of_splitLabels hescaped h
  rw [htrim] at hescaped
  have hlower : splitLabels [] (lowerChars cs) = some (texts.map lowerChars) := by
    have hcut := @splitLabels_lowerChars [] cs hescaped
    rw [h] at hcut
    exact hcut
  rw [Fqdn.normalizeChars, htrim, Fqdn.closeDot]
  split
  · exact hlower
  · next hlast =>
    have hlowerNe : lowerChars cs ≠ [] := fun h => hne (List.map_eq_nil_iff.1 h)
    rw [splitLabels_closing_dot hescaped.lowerChars (Or.inl hlowerNe) hlast, hlower]

theorem dotEscaped_of_closeDot {cs rest : List Char} (hrest : DotEscaped rest)
    (h : Fqdn.closeDot cs = rest ++ ['.']) : DotEscaped cs := by
  unfold Fqdn.closeDot at h
  split at h
  · rw [h]
    exact hrest.append DotEscaped.dot
  · rwa [List.append_cancel_right h]

theorem parse?_of_splitLabels {s : String} {texts : List (List Char)}
    (h : splitLabels [] s.toList = some texts) :
    Name.parse? s =
      (Name.ofTexts? internationalLabel? texts <|> Name.ofTexts? asciiLabel? texts) := by
  have hs : s ≠ "." := by
    rintro rfl
    cases h
  rw [parse?_of_ne_dot hs, h]
  rfl

/-- Where the normal form of a text agrees with the normal form of the name that is
read from it, it reads as that name up to letter case. -/
theorem parse?_normalize {s : String} {name : Name} (h : Name.parse? s = some name)
    (hsame : Fqdn.normalize name.text = Fqdn.normalize s) :
    ∃ stored, Name.parse? (Fqdn.normalize s) = some stored ∧ stored.lower = name.lower := by
  by_cases hroot : s = "." ∨ s = ""
  · rcases hroot with rfl | rfl
    · exact ⟨name, h, rfl⟩
    · exact ⟨name, h, rfl⟩
  · obtain ⟨hdot, hempty⟩ := not_or.1 hroot
    obtain ⟨body, hbody, hescaped⟩ := toList_text_of_parse? h
    obtain ⟨rest, hrest, hrestEscaped⟩ := normalizeChars_append_dot hescaped
    have htrimmed : DotEscaped (trimChars s.toList) := by
      refine DotEscaped.of_lowerChars (dotEscaped_of_closeDot hrestEscaped ?_)
      rw [← hrest, ← hbody, ← Fqdn.toList_normalize, hsame, Fqdn.toList_normalize,
        Fqdn.normalizeChars]
    rw [parse?_of_ne_dot hdot] at h
    obtain ⟨texts, htexts, hname⟩ := Option.bind_eq_some_iff.1 h
    have hne : s.toList ≠ [] := fun hnil => hempty (String.toList_eq_nil_iff.1 hnil)
    have hlowered := splitLabels_normalizeChars htrimmed hne htexts
    rw [← Fqdn.toList_normalize] at hlowered
    have hlower := nameOfTexts_lowerChars texts
    rw [hname, Option.map_some, Option.map_eq_some_iff] at hlower
    rwa [parse?_of_splitLabels hlowered]

end Wire
end SplitHorizon
