/-
Names that differ in the case of their letters.

Such names have one lowered form.  They print alike, letter case left aside, if the same
labels are read as Punycode, and are looked up as one then.  A label is read as Punycode
only behind a mark in small letters; what stands behind the mark is read without regard to
case, and so is a label without the mark.

A label need not be ASCII for this.  Bytes that are a text stay one when letters change
their case, since the other characters have no bytes in ASCII.
-/
import SplitHorizon.Proofs.Wire.LoweredNames

namespace SplitHorizon

/-! ## Texts in other letters -/

namespace Text

theorem ofUtf8?_eq_some_iff {bytes : List UInt8} {s : String} :
    ofUtf8? bytes = some s ↔ bytes = s.toList.flatMap String.utf8EncodeChar := by
  have hbytes : s.toByteArray = (s.toList.flatMap String.utf8EncodeChar).toByteArray := by
    rw [← List.utf8Encode, ← String.toByteArray_ofList, String.ofList_toList]
  constructor
  · intro h
    rw [ofUtf8?, String.fromUTF8?] at h
    split at h
    · obtain rfl := Option.some.inj h
      have hdata := congrArg (fun b : ByteArray => b.data.toList) hbytes
      simpa [String.fromUTF8] using hdata
    · cases h
  · rintro rfl
    have hread : ByteArray.mk (s.toList.flatMap String.utf8EncodeChar).toArray = s.toByteArray := by
      rw [hbytes]
      exact ByteArray.ext List.data_toByteArray.symm
    rw [ofUtf8?, hread, String.fromUTF8?, dif_pos s.isValidUTF8]
    rfl

theorem utf8EncodeChar_of_ascii {c : Char} (h : c.toNat < 0x80) :
    String.utf8EncodeChar c = [UInt8.ofNat c.toNat] := by
  rw [String.utf8EncodeChar]
  exact if_pos (Nat.le_of_lt_succ h)

/-- A character beyond ASCII has no byte in ASCII. -/
theorem le_toNat_of_mem_utf8EncodeChar {c : Char} (h : 0x80 ≤ c.toNat) :
    ∀ b ∈ String.utf8EncodeChar c, 0x80 ≤ b.toNat := by
  have hbeyond : ¬ c.val.toNat ≤ 127 := Nat.not_le.2 h
  intro b hb
  simp only [String.utf8EncodeChar, if_neg hbeyond] at hb
  split at hb
  · simp only [List.mem_cons, List.not_mem_nil, or_false] at hb
    rcases hb with rfl | rfl
    all_goals
      rw [UInt8.toNat_ofNat']
      omega
  · split at hb
    · simp only [List.mem_cons, List.not_mem_nil, or_false] at hb
      rcases hb with rfl | rfl | rfl
      all_goals
        rw [UInt8.toNat_ofNat']
        omega
    · simp only [List.mem_cons, List.not_mem_nil, or_false] at hb
      rcases hb with rfl | rfl | rfl | rfl
      all_goals
        rw [UInt8.toNat_ofNat']
        omega

theorem lowerByte_of_le {b : UInt8} (h : 0x80 ≤ b.toNat) : lowerByte b = b := by
  rw [← UInt8.toNat_inj, toNat_lowerByte, if_neg (by omega)]

/-- A byte that is lowered to one beyond ASCII is that byte. -/
theorem eq_lowerByte_of_le {b : UInt8} (h : 0x80 ≤ (lowerByte b).toNat) : b = lowerByte b := by
  rw [← UInt8.toNat_inj]
  rw [toNat_lowerByte] at h ⊢
  split at h
  · omega
  · next hcapital => rw [if_neg hcapital]

/-- The bytes of a character, with letters in another case, are those of a character. -/
theorem exists_char_of_map_lowerByte {c : Char} {bytes : List UInt8}
    (h : bytes.map lowerByte = (String.utf8EncodeChar c).map lowerByte) :
    ∃ d, lowerChar d = lowerChar c ∧ bytes = String.utf8EncodeChar d := by
  by_cases hascii : c.toNat < 0x80
  · rw [utf8EncodeChar_of_ascii hascii, List.map_singleton, List.map_eq_singleton_iff] at h
    obtain ⟨b, rfl, hb⟩ := h
    have hlower := congrArg UInt8.toNat hb
    rw [toNat_lowerByte, toNat_lowerByte, UInt8.toNat_ofNat'] at hlower
    have hlow : b.toNat < 0x80 := by
      split at hlower
      · omega
      · split at hlower
        · omega
        · omega
    have hd : (Char.ofNat b.toNat).toNat = b.toNat := by
      rw [Char.ofNat, dif_pos (Or.inl (by omega))]
      rfl
    refine ⟨Char.ofNat b.toNat, ?_, ?_⟩
    · rw [← Char.toNat_inj, toNat_lowerChar, toNat_lowerChar, hd]
      rwa [Nat.mod_eq_of_lt (by omega)] at hlower
    · rw [utf8EncodeChar_of_ascii (by rwa [hd]), hd, UInt8.ofNat_toNat]
  · have hbeyond := le_toNat_of_mem_utf8EncodeChar (Nat.not_lt.1 hascii)
    have hsame : (String.utf8EncodeChar c).map lowerByte = String.utf8EncodeChar c := by
      rw [List.map_congr_left fun b hb => lowerByte_of_le (hbeyond b hb), List.map_id']
    have heach : ∀ b ∈ bytes, b = lowerByte b := by
      intro b hb
      have hmem : lowerByte b ∈ String.utf8EncodeChar c := by
        rw [← hsame, ← h]
        exact List.mem_map_of_mem hb
      exact eq_lowerByte_of_le (hbeyond _ hmem)
    refine ⟨c, rfl, ?_⟩
    rw [← hsame, ← h, ← List.map_congr_left heach, List.map_id']

theorem exists_chars_of_map_lowerByte {cs : List Char} {bytes : List UInt8}
    (h : bytes.map lowerByte = (cs.flatMap String.utf8EncodeChar).map lowerByte) :
    ∃ ds, lowerChars ds = lowerChars cs ∧ bytes = ds.flatMap String.utf8EncodeChar := by
  induction cs generalizing bytes with
  | nil => exact ⟨[], rfl, List.map_eq_nil_iff.1 h⟩
  | cons c rest ih =>
    rw [List.flatMap_cons, List.map_append] at h
    obtain ⟨front, back, rfl, hfront, hback⟩ := List.map_eq_append_iff.1 h
    obtain ⟨d, hd, rfl⟩ := exists_char_of_map_lowerByte hfront
    obtain ⟨ds, hds, rfl⟩ := ih hback
    refine ⟨d :: ds, ?_, rfl⟩
    rw [lowerChars, lowerChars, List.map_cons, List.map_cons, hd]
    exact congrArg (lowerChar c :: ·) hds

/-- Bytes that are a text are one in every letter case. -/
theorem ofUtf8?_of_map_lowerByte {bytes other : List UInt8} {s : String}
    (h : bytes.map lowerByte = other.map lowerByte) (hs : ofUtf8? other = some s) :
    ∃ t, ofUtf8? bytes = some t ∧ lowerChars t.toList = lowerChars s.toList := by
  rw [ofUtf8?_eq_some_iff.1 hs] at h
  obtain ⟨ds, hds, rfl⟩ := exists_chars_of_map_lowerByte h
  refine ⟨String.ofList ds, ?_, ?_⟩
  · rw [ofUtf8?_eq_some_iff, String.toList_ofList]
  · rw [String.toList_ofList, hds]

end Text

/-! ## Labels in other letters -/

theorem Idna.toUnicode?_lowerChars (cs : List Char) :
    Idna.toUnicode? (Text.lowerChars cs) = Idna.toUnicode? cs := by
  rw [toUnicode?, process, mapChars_lowerChars]
  rfl

namespace Wire

open Text

/-- The characters that the label stands for in Punycode, if it is read as that. -/
def Label.international? (label : Label) : Option (List Char) :=
  if acePrefixBytes.isPrefixOf label.bytes then
    (ofUtf8? label.bytes).bind fun s => Idna.toUnicode? s.toList
  else none

theorem Label.international?_eq_none {label : Label} (h : ¬ label.IsPunycode) :
    label.international? = none :=
  if_neg fun hmark => h (Label.IsPunycode.of_prefix hmark)

theorem Label.chars_eq_getD (label : Label) :
    label.chars = label.international?.getD (bytesText label.bytes) :=
  rfl

section

variable {label other : Label}

theorem map_lowerByte_of_lower_eq (h : label.lower = other.lower) :
    label.bytes.map lowerByte = other.bytes.map lowerByte :=
  congrArg Label.bytes h

theorem lowerChars_bytesText (h : label.lower = other.lower) :
    lowerChars (bytesText label.bytes) = lowerChars (bytesText other.bytes) := by
  rw [← bytesText_lower, ← bytesText_lower, map_lowerByte_of_lower_eq h]

/-- Labels in different letters that are read as Punycode stand for the same. -/
theorem eq_of_international? (h : label.lower = other.lower) {text otherText : List Char}
    (htext : label.international? = some text) (hother : other.international? = some otherText) :
    text = otherText := by
  have hbytes : other.bytes.map lowerByte = label.bytes.map lowerByte :=
    (map_lowerByte_of_lower_eq h).symm
  rw [Label.international?, Option.ite_none_right_eq_some, Option.bind_eq_some_iff] at htext hother
  obtain ⟨-, s, hs, htext⟩ := htext
  obtain ⟨-, t, ht, hother⟩ := hother
  obtain ⟨t', ht', hsame⟩ := ofUtf8?_of_map_lowerByte hbytes hs
  obtain rfl := Option.some.inj (ht.symm.trans ht')
  rw [← Idna.toUnicode?_lowerChars, hsame, Idna.toUnicode?_lowerChars, htext] at hother
  exact Option.some.inj hother

theorem lowerChars_chars_of_lower_eq (h : label.lower = other.lower)
    (hread : label.international?.isSome = other.international?.isSome) :
    lowerChars label.chars = lowerChars other.chars := by
  rw [label.chars_eq_getD, other.chars_eq_getD]
  cases htext : label.international? with
  | none =>
    rw [htext, Option.isSome_none, eq_comm, Option.isSome_eq_false_iff, Option.isNone_iff_eq_none]
      at hread
    rw [hread]
    exact lowerChars_bytesText h
  | some text =>
    rw [htext, Option.isSome_some, eq_comm, Option.isSome_iff_exists] at hread
    obtain ⟨otherText, hother⟩ := hread
    rw [hother, eq_of_international? h htext hother]
    rfl

end

/-! ## Names in other letters -/

/-- The same labels of both names are read as Punycode. -/
def Name.ReadAlike (name other : Name) : Prop :=
  name.labels.map (·.international?.isSome) = other.labels.map (·.international?.isSome)

/-- Names without Punycode are read alike, whatever the case of their letters. -/
theorem Name.ReadAlike.of_not_isPunycode {name other : Name} (h : name.lower = other.lower)
    (hplain : ∀ label ∈ name.labels, ¬ label.IsPunycode) : name.ReadAlike other := by
  have hlabels : name.labels.map Label.lower = other.labels.map Label.lower :=
    congrArg Name.labels h
  have hother : ∀ label ∈ other.labels, ¬ label.IsPunycode := by
    intro label hlabel
    have hmem : label.lower ∈ name.labels.map Label.lower :=
      hlabels ▸ List.mem_map_of_mem hlabel
    obtain ⟨first, hfirst, hsame⟩ := List.mem_map.1 hmem
    rw [Label.IsPunycode, ← hsame]
    exact hplain first hfirst
  have hnone : ∀ labels : List Label, (∀ label ∈ labels, ¬ label.IsPunycode) →
      labels.map (·.international?.isSome) = List.replicate labels.length false := by
    intro labels hall
    refine List.eq_replicate_iff.2 ⟨List.length_map _, fun isRead hmem => ?_⟩
    obtain ⟨label, hlabel, rfl⟩ := List.mem_map.1 hmem
    rw [Label.international?_eq_none (hall label hlabel)]
    rfl
  have hlength : name.labels.length = other.labels.length := by
    rw [← List.length_map Label.lower, hlabels, List.length_map]
  rw [Name.ReadAlike, hnone _ hplain, hnone _ hother, hlength]

theorem lowerChars_labels_of_lower_eq {labels others : List Label}
    (h : labels.map Label.lower = others.map Label.lower)
    (hread : labels.map (·.international?.isSome) = others.map (·.international?.isSome)) :
    lowerChars (labels.flatMap fun label => label.chars ++ ['.']) =
      lowerChars (others.flatMap fun label => label.chars ++ ['.']) := by
  induction labels generalizing others with
  | nil =>
    obtain rfl := List.map_eq_nil_iff.1 h.symm
    rfl
  | cons label rest ih =>
    obtain ⟨other, more, rfl, hother, hmore⟩ := List.map_eq_cons_iff.1 h.symm
    obtain ⟨hfirstRead, hrest⟩ := List.cons.inj hread
    have hfirst := lowerChars_chars_of_lower_eq hother.symm hfirstRead
    have hlater := ih hmore.symm hrest
    simp only [lowerChars, List.map_append, List.flatMap_cons] at hfirst hlater ⊢
    rw [hfirst, hlater]

theorem lower_text_of_lower_eq {name other : Name} (h : name.lower = other.lower)
    (hread : name.ReadAlike other) : Text.lower name.text = Text.lower other.text := by
  have hlabels : name.labels.map Label.lower = other.labels.map Label.lower :=
    congrArg Name.labels h
  have hchars := lowerChars_labels_of_lower_eq hlabels hread
  by_cases hroot : name.labels = []
  · rw [hroot] at hlabels
    have hother : other.labels = [] := List.map_eq_nil_iff.1 hlabels.symm
    rw [Name.text_of_root hroot, Name.text_of_root hother]
  · have hother : other.labels ≠ [] := by
      intro hnil
      rw [hnil] at hlabels
      exact hroot (List.map_eq_nil_iff.1 hlabels)
    rw [Text.lower, Text.lower, Name.toList_text hroot, Name.toList_text hother, hchars]

/-- Names that differ in the case of their letters are looked up as one, if the same labels
are read as Punycode. -/
theorem normalize_text_of_lower_eq {name other : Name} (h : name.lower = other.lower)
    (hread : name.ReadAlike other) :
    Fqdn.normalize name.text = Fqdn.normalize other.text := by
  rw [← Fqdn.normalize_lower, lower_text_of_lower_eq h hread, Fqdn.normalize_lower]

theorem Name.lower_lower (name : Name) : name.lower.lower = name.lower := by
  simp only [Name.lower, List.map_map, Function.comp_def, Label.lower_lower]

/-- A name without Punycode and its lowered form are looked up as one. -/
theorem normalize_text_lower {name : Name} (h : ∀ label ∈ name.labels, ¬ label.IsPunycode) :
    Fqdn.normalize name.lower.text = Fqdn.normalize name.text := by
  have hlower : name.lower = name.lower.lower := name.lower_lower.symm
  exact (normalize_text_of_lower_eq hlower (Name.ReadAlike.of_not_isPunycode hlower h)).symm

end Wire
end SplitHorizon
