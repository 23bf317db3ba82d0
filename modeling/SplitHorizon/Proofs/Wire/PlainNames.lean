/-
Names in plain spelling.

A spelling is plain when it is ASCII and has no backslashes.  It is cut at its dots
and nowhere else, and what stands between them are the labels, perhaps lowered.  So
the name prints as it was spelled, except for letter case and the closing dot, unless
one of its labels is in Punycode (`text_munich`).
-/
import Mathlib.Data.List.Basic
import SplitHorizon.Proofs.Wire.Spelling

namespace SplitHorizon
namespace Wire

open Text

/-! ## Labels -/

/-- The bytes of a label print as the text without dots that they were read from. -/
theorem bytesText_of_asciiLabel? {cs : List Char} {label : Label}
    (h : asciiLabel? cs = some label) (hdot : '.' ∉ cs) : bytesText label.bytes = cs := by
  obtain ⟨first, rest, rfl, hfirst, hrest, hbytes⟩ := asciiLabel?_eq_some h
  rw [List.mem_cons, not_or] at hdot
  have hprinted : rest.flatMap (fun c => byteText false (UInt8.ofNat c.toNat)) =
      rest.flatMap fun c => [c] := by
    refine List.flatMap_congr fun c hc => byteText_of_ne_dot (hrest c hc) ?_
    rintro rfl
    exact hdot.2 hc
  rw [hbytes, List.map_cons]
  change byteText true _ ++ (rest.map _).flatMap _ = _
  rw [List.flatMap_map, hprinted, byteText_of_ne_dot hfirst fun h => hdot.1 h.symm]
  simp

/-- Up to letter case this holds of labels of any script that are spelled in ASCII. -/
theorem chars_of_internationalLabel? {cs : List Char} {label : Label}
    (h : internationalLabel? cs = some label) (hascii : Idna.isAscii cs = true) (hdot : '.' ∉ cs)
    (hprints : label.PrintsAsSpelled) : lowerChars label.chars = lowerChars cs := by
  rw [hprints]
  unfold internationalLabel? at h
  split at h
  · rw [bytesText_of_asciiLabel? h hdot]
  · obtain ⟨spelled, hspelled, hlabel⟩ := Option.bind_eq_some_iff.1 h
    obtain rfl := Idna.toAscii?_of_isAscii hascii hdot hspelled
    rw [bytesText_of_asciiLabel? hlabel (not_mem_lowerChars hdot), lowerChars_lowerChars]

/-- The mark of Punycode at the front of a label stood at the front of its text. -/
theorem acePrefix_of_asciiLabel? {cs : List Char} {label : Label}
    (h : asciiLabel? cs = some label) (hmark : acePrefixBytes.isPrefixOf label.bytes = true) :
    Idna.acePrefix.isPrefixOf cs = true := by
  have hback : label.bytes.map (fun b => Char.ofNat b.toNat) = cs := by
    obtain ⟨_, _, _, _, _, hbytes⟩ := asciiLabel?_eq_some h
    rw [hbytes, List.map_map]
    refine (List.map_congr_left fun c hc => ?_).trans (List.map_id _)
    obtain ⟨isFirst, hchar⟩ := isLabelChar_of_asciiLabel? h c hc
    simp only [Function.comp_apply, toNat_ofNat_of_isLabelChar hchar, Char.ofNat_toNat, id]
  obtain ⟨rest, hrest⟩ := List.isPrefixOf_iff_prefix.1 hmark
  have hmapped := congrArg (List.map fun b : UInt8 => Char.ofNat b.toNat) hrest
  rw [hback, List.map_append] at hmapped
  exact List.isPrefixOf_iff_prefix.2 ⟨_, hmapped⟩

/-- A label that was read from dotless ASCII prints in ASCII only if it prints byte for
byte: what Punycode stands for goes beyond ASCII. -/
theorem printsAsSpelled_of_isAscii {cs : List Char} {label : Label}
    (h : asciiLabel? cs = some label) (hdot : '.' ∉ cs)
    (hchars : Idna.isAscii label.chars = true) : label.PrintsAsSpelled := by
  by_cases hmark : acePrefixBytes.isPrefixOf label.bytes = true
  · have htext := chars_of_asciiLabel? h hmark
    cases hunicode : Idna.toUnicode? cs with
    | none => rw [Label.PrintsAsSpelled, htext, hunicode, Option.getD_none]
    | some text =>
      have hbeyond : Idna.isAscii text = false :=
        Idna.not_isAscii_of_toUnicode? (isAscii_of_asciiLabel? h) hdot
          (acePrefix_of_asciiLabel? h hmark) hunicode
      rw [htext, hunicode, Option.getD_some, hbeyond] at hchars
      cases hchars
  · exact Label.printsAsSpelled_of_prefix (Bool.eq_false_iff.2 hmark)

/-- A label of any script that is spelled in dotless ASCII was read from dotless ASCII. -/
theorem exists_asciiLabel? {cs : List Char} {label : Label}
    (h : internationalLabel? cs = some label) (hascii : Idna.isAscii cs = true)
    (hdot : '.' ∉ cs) : ∃ spelled, asciiLabel? spelled = some label ∧ '.' ∉ spelled := by
  unfold internationalLabel? at h
  split at h
  · exact ⟨cs, h, hdot⟩
  · obtain ⟨spelled, hspelled, hlabel⟩ := Option.bind_eq_some_iff.1 h
    obtain rfl := Idna.toAscii?_of_isAscii hascii hdot hspelled
    exact ⟨_, hlabel, not_mem_lowerChars hdot⟩

/-! ## Cutting -/

/-- A text without backslashes is cut at its dots, and nothing is lost but the
closing one. -/
theorem flatMap_of_splitLabels {label cs : List Char} {texts : List (List Char)}
    (hslash : '\\' ∉ cs) (hlabel : '.' ∉ label) (hne : label ≠ [] ∨ cs ≠ [])
    (h : splitLabels label cs = some texts) :
    (∀ text ∈ texts, '.' ∉ text) ∧
      texts.flatMap (fun text => text ++ ['.']) = Fqdn.closeDot (label.reverse ++ cs) := by
  induction cs generalizing label texts with
  | nil =>
    have hlabelNe : label ≠ [] := hne.resolve_right fun h => h rfl
    have htexts : texts = [label.reverse] := by
      rw [splitLabels_nil, List.isEmpty_eq_false_iff.2 hlabelNe] at h
      exact (Option.some.inj h).symm
    have hlast : label.reverse.getLast? ≠ some '.' :=
      fun hdot => hlabel (List.mem_reverse.1 (List.mem_of_getLast? hdot))
    rw [htexts, List.append_nil, Fqdn.closeDot, if_neg hlast]
    exact ⟨by simpa using hlabel, List.append_nil _⟩
  | cons c rest ih =>
    rw [List.mem_cons, not_or] at hslash
    rw [splitLabels_plain fun h => hslash.1 h.symm] at h
    split at h
    · next hdot =>
      subst hdot
      split at h
      · cases h
      · obtain ⟨others, hothers, rfl⟩ := Option.map_eq_some_iff.1 h
        have hreverse : '.' ∉ label.reverse := by rwa [List.mem_reverse]
        rw [List.forall_mem_cons, List.flatMap_cons]
        cases rest with
        | nil =>
          obtain rfl := Option.some.inj hothers
          rw [Fqdn.closeDot_append (List.cons_ne_nil '.' [])]
          exact ⟨⟨hreverse, fun text htext => absurd htext List.not_mem_nil⟩, List.append_nil _⟩
        | cons d rest =>
          obtain ⟨hdots, hrest⟩ := ih hslash.2 List.not_mem_nil
            (Or.inr (List.cons_ne_nil d rest)) hothers
          refine ⟨⟨hreverse, hdots⟩, ?_⟩
          rw [hrest, List.reverse_nil, List.nil_append, List.append_cons label.reverse '.'
            (d :: rest), Fqdn.closeDot_append (List.cons_ne_nil d rest)]
    · next hdot =>
      split at h
      · cases h
      · have hkept : '.' ∉ c :: label := by
          rw [List.mem_cons, not_or]
          exact ⟨fun h => hdot h.symm, hlabel⟩
        obtain ⟨hdots, hrest⟩ := ih hslash.2 hkept (Or.inl (List.cons_ne_nil c label)) h
        refine ⟨hdots, ?_⟩
        rw [hrest, List.reverse_cons, ← List.append_cons]

/-! ## Names -/

theorem lowerChars_flatMap_chars {read : List Char → Option Label} {texts : List (List Char)}
    {labels : List Label} (h : texts.mapM read = some labels)
    (hread : ∀ cs ∈ texts, ∀ label ∈ labels, read cs = some label →
      lowerChars label.chars = lowerChars cs) :
    lowerChars (labels.flatMap fun label => label.chars ++ ['.']) =
      lowerChars (texts.flatMap fun cs => cs ++ ['.']) := by
  induction texts generalizing labels with
  | nil =>
    obtain rfl := Option.some.inj h
    rfl
  | cons cs rest ih =>
    rw [List.mapM_cons] at h
    obtain ⟨label, hlabel, hrest⟩ := Option.bind_eq_some_iff.1 h
    obtain ⟨others, hothers, hlist⟩ := Option.bind_eq_some_iff.1 hrest
    obtain rfl := Option.some.inj hlist
    have hfirst := hread cs List.mem_cons_self label List.mem_cons_self hlabel
    have htail := ih hothers fun cs hcs label hlabel =>
      hread cs (List.mem_cons_of_mem _ hcs) label (List.mem_cons_of_mem _ hlabel)
    simp only [lowerChars] at hfirst htail ⊢
    rw [List.flatMap_cons, List.flatMap_cons, List.map_append, List.map_append, List.map_append,
      List.map_append, hfirst, htail]

/-- A spelling in ASCII without backslashes. -/
def PlainSpelling (s : String) : Prop :=
  Idna.isAscii s.toList = true ∧ '\\' ∉ s.toList

/-- The texts between the dots of a plain spelling. -/
theorem texts_of_plain {s : String} {texts : List (List Char)} (hplain : PlainSpelling s)
    (hne : s.toList ≠ []) (htexts : splitLabels [] s.toList = some texts) :
    (∀ cs ∈ texts, Idna.isAscii cs = true ∧ '.' ∉ cs) ∧
      texts.flatMap (fun text => text ++ ['.']) = Fqdn.closeDot s.toList := by
  obtain ⟨hdots, hjoined⟩ :=
    flatMap_of_splitLabels hplain.2 List.not_mem_nil (Or.inr hne) htexts
  rw [List.reverse_nil, List.nil_append] at hjoined
  refine ⟨fun cs hcs => ⟨?_, hdots cs hcs⟩, hjoined⟩
  rw [Idna.isAscii, List.all_eq_true]
  intro c hc
  have hmem : c ∈ texts.flatMap fun text => text ++ ['.'] :=
    List.mem_flatMap.2 ⟨cs, hcs, List.mem_append_left _ hc⟩
  rw [hjoined] at hmem
  rcases Fqdn.mem_closeDot hmem with rfl | hmem
  · rfl
  · exact List.all_eq_true.1 hplain.1 c hmem

/-- The labels of a plain spelling, put together, are the spelling up to letter case. -/
theorem lowerChars_labels_of_plain {s : String} {texts : List (List Char)} {name : Name}
    (hplain : PlainSpelling s) (hne : s.toList ≠ []) (htexts : splitLabels [] s.toList = some texts)
    (hlabels : texts.mapM internationalLabel? = some name.labels ∨
      texts.mapM asciiLabel? = some name.labels)
    (hprints : ∀ label ∈ name.labels, label.PrintsAsSpelled) :
    lowerChars (name.labels.flatMap fun label => label.chars ++ ['.']) =
      lowerChars (Fqdn.closeDot s.toList) := by
  obtain ⟨hplainTexts, hjoined⟩ := texts_of_plain hplain hne htexts
  rw [← hjoined]
  rcases hlabels with hlabels | hlabels
  · refine lowerChars_flatMap_chars hlabels fun cs hcs label hlabel hread => ?_
    obtain ⟨hascii, hdot⟩ := hplainTexts cs hcs
    exact chars_of_internationalLabel? hread hascii hdot (hprints label hlabel)
  · refine lowerChars_flatMap_chars hlabels fun cs hcs label hlabel hread => ?_
    rw [hprints label hlabel, bytesText_of_asciiLabel? hread (hplainTexts cs hcs).2]

theorem labels_ne_nil_of_plain {s : String} {texts : List (List Char)} {name : Name}
    (hplain : PlainSpelling s) (hne : s.toList ≠ []) (htexts : splitLabels [] s.toList = some texts)
    (hlabels : texts.mapM internationalLabel? = some name.labels ∨
      texts.mapM asciiLabel? = some name.labels) : name.labels ≠ [] := by
  intro hnil
  have hlower := lowerChars_labels_of_plain hplain hne htexts hlabels fun label hlabel =>
    absurd (hnil ▸ hlabel) List.not_mem_nil
  rw [hnil] at hlower
  exact Fqdn.closeDot_ne_nil _ (List.map_eq_nil_iff.1 hlower.symm)

/-- A name in plain spelling prints as it was spelled, if no label is in Punycode. -/
theorem normalize_text_of_plain {s : String} {name : Name} (h : Name.parse? s = some name)
    (hplain : PlainSpelling s)
    (hace : ∀ label ∈ name.labels, acePrefixBytes.isPrefixOf label.bytes = false) :
    Fqdn.normalize name.text = Fqdn.normalize s := by
  by_cases hroot : s = "." ∨ s = ""
  · rcases hroot with rfl | rfl
    · obtain rfl := Option.some.inj h
      rfl
    · obtain rfl := Option.some.inj h
      rfl
  · obtain ⟨hdot, hempty⟩ := not_or.1 hroot
    have hne : s.toList ≠ [] := fun hnil => hempty (String.toList_eq_nil_iff.1 hnil)
    obtain ⟨texts, htexts, hread⟩ := mapM_of_parse? hdot h
    have hlower := lowerChars_labels_of_plain hplain hne htexts hread fun label hlabel =>
      Label.printsAsSpelled_of_prefix (hace label hlabel)
    have hlabels := labels_ne_nil_of_plain hplain hne htexts hread
    have htrimmed : Trimmed s.toList := by
      have hslash : '\\' ∉ trimChars s.toList := fun hmem => hplain.2 (mem_of_mem_trimChars hmem)
      rw [← trimChars_of_splitLabels (DotEscaped.of_not_mem hslash) htexts]
      exact trimmed_trimChars _
    rw [← Name.toList_text hlabels] at hlower
    rw [← String.toList_inj, Fqdn.toList_normalize, Fqdn.toList_normalize,
      Fqdn.normalizeChars_eq_of_lowerChars htrimmed hlower]

def exampleLabel : Label :=
  ⟨[101, 120, 97, 109, 112, 108, 101], by decide, by decide⟩

/-- A name with a label in Punycode, which prints in other characters than it is spelled
in. -/
def munich : Name where
  labels :=
    [⟨[120, 110, 45, 45, 109, 110, 99, 104, 101, 110, 45, 51, 121, 97], by decide, by decide⟩,
      exampleLabel]
  size_le := by decide

theorem parse?_munich : Name.parse? "xn--mnchen-3ya.example" = some munich := by
  decide +kernel

theorem text_munich : munich.text = "münchen.example." := by
  decide +kernel

/-- If the name that a plain spelling reads as prints in ASCII, all of its labels print
byte for byte. -/
theorem printsAsSpelled_of_text {s : String} {texts : List (List Char)} {name : Name}
    (hplain : PlainSpelling s) (hne : s.toList ≠ []) (htexts : splitLabels [] s.toList = some texts)
    (hlabels : texts.mapM internationalLabel? = some name.labels ∨
      texts.mapM asciiLabel? = some name.labels)
    (hascii : ∀ label ∈ name.labels, Idna.isAscii label.chars = true) :
    ∀ label ∈ name.labels, label.PrintsAsSpelled := by
  obtain ⟨hplainTexts, _⟩ := texts_of_plain hplain hne htexts
  intro label hlabel
  rcases hlabels with hlabels | hlabels
  · obtain ⟨cs, hcs, hread⟩ := Idna.exists_of_mem_mapM hlabels label hlabel
    obtain ⟨hasciiText, hdot⟩ := hplainTexts cs hcs
    obtain ⟨spelled, hspelled, hdotless⟩ := exists_asciiLabel? hread hasciiText hdot
    exact printsAsSpelled_of_isAscii hspelled hdotless (hascii label hlabel)
  · obtain ⟨cs, hcs, hread⟩ := Idna.exists_of_mem_mapM hlabels label hlabel
    exact printsAsSpelled_of_isAscii hread (hplainTexts cs hcs).2 (hascii label hlabel)

end Wire
end SplitHorizon
