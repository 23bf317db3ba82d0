/-
Names from texts in lower case.

Lowering the letters of a text before it is read as a name lowers the name at most:
labels of international names have no capitals to begin with, and labels of ASCII
names keep the case they are written in.
-/
import SplitHorizon.Proofs.Idna.Ascii
import SplitHorizon.Wire.NameCase
import SplitHorizon.Wire.NameText

namespace SplitHorizon
namespace Wire

open Text

/-! ## Characters of labels -/

theorem isAlphanumeric_iff {c : Char} :
    isAlphanumeric c = true ↔ (97 ≤ c.toNat ∧ c.toNat ≤ 122) ∨
      (65 ≤ c.toNat ∧ c.toNat ≤ 90) ∨ (48 ≤ c.toNat ∧ c.toNat ≤ 57) := by
  unfold isAlphanumeric
  rw [decide_eq_true_iff]
  exact Iff.rfl

theorem isLabelChar_iff {isFirst : Bool} {c : Char} :
    isLabelChar isFirst c = true ↔ isAlphanumeric c = true ∨ c = '_' ∨ c = '.' ∨
      (c = '-' ∧ isFirst = false) ∨ c = '*' ∧ isFirst = true := by
  simp [isLabelChar, or_assoc]

theorem toNat_lt_of_isLabelChar {isFirst : Bool} {c : Char} (h : isLabelChar isFirst c = true) :
    c.toNat < 0x80 := by
  rcases isLabelChar_iff.1 h with halnum | rfl | rfl | ⟨rfl, -⟩ | ⟨rfl, -⟩
  · rw [isAlphanumeric_iff] at halnum
    omega
  all_goals decide

theorem isLabelChar_lowerChar (isFirst : Bool) (c : Char) :
    isLabelChar isFirst (lowerChar c) = isLabelChar isFirst c := by
  by_cases hcapital : 65 ≤ c.toNat ∧ c.toNat ≤ 90
  · have hlower : (lowerChar c).toNat = c.toNat + 32 := by rw [toNat_lowerChar, if_pos hcapital]
    have hc : isAlphanumeric c = true := isAlphanumeric_iff.2 (Or.inr (Or.inl hcapital))
    have hletter : isAlphanumeric (lowerChar c) = true :=
      isAlphanumeric_iff.2 (Or.inl (by omega))
    rw [isLabelChar_iff.2 (Or.inl hletter), isLabelChar_iff.2 (Or.inl hc)]
  · rw [lowerChar_of_not_capital hcapital]

theorem lowerByte_ofNat {c : Char} (hc : c.toNat < 0x80) :
    lowerByte (UInt8.ofNat c.toNat) = UInt8.ofNat (lowerChar c).toNat := by
  have hbyte : (UInt8.ofNat c.toNat).toNat = c.toNat := by
    rw [UInt8.toNat_ofNat']
    omega
  rw [← UInt8.toNat_inj, toNat_lowerByte, hbyte, UInt8.toNat_ofNat', toNat_lowerChar]
  split
  · omega
  · omega

/-! ## Labels -/

theorem Label.lower_lower (label : Label) : label.lower.lower = label.lower := by
  simp only [Label.lower, List.map_map, Function.comp_def, lowerByte_lowerByte]

theorem ofBytes?_map_lowerByte (bytes : List UInt8) :
    Label.ofBytes? (bytes.map lowerByte) = (Label.ofBytes? bytes).map Label.lower := by
  unfold Label.ofBytes?
  by_cases h : bytes ≠ [] ∧ bytes.length ≤ 63
  · have hlower : bytes.map lowerByte ≠ [] ∧ (bytes.map lowerByte).length ≤ 63 := by
      simpa using h
    rw [dif_pos h, dif_pos hlower]
    rfl
  · have hlower : ¬ (bytes.map lowerByte ≠ [] ∧ (bytes.map lowerByte).length ≤ 63) := by
      simpa using h
    rw [dif_neg h, dif_neg hlower]
    rfl

theorem asciiLabel?_lowerChars (cs : List Char) :
    asciiLabel? (lowerChars cs) = (asciiLabel? cs).map Label.lower := by
  cases cs with
  | nil => rfl
  | cons first rest =>
    have hall : (lowerChars rest).all (isLabelChar false) = rest.all (isLabelChar false) := by
      rw [lowerChars, List.all_map]
      congr 1
      funext c
      exact isLabelChar_lowerChar false c
    change asciiLabel? (lowerChar first :: lowerChars rest) = _
    rw [asciiLabel?, asciiLabel?, isLabelChar_lowerChar, hall]
    split
    · next hchars =>
      rw [Bool.and_eq_true] at hchars
      have hascii : ∀ c ∈ first :: rest, c.toNat < 0x80 := by
        intro c hc
        rcases List.mem_cons.1 hc with rfl | hc
        · exact toNat_lt_of_isLabelChar hchars.1
        · exact toNat_lt_of_isLabelChar (List.all_eq_true.1 hchars.2 c hc)
      rw [← ofBytes?_map_lowerByte]
      congr 1
      change (lowerChars (first :: rest)).map (fun c => UInt8.ofNat c.toNat) = _
      rw [lowerChars, List.map_map, List.map_map]
      exact List.map_congr_left fun c hc => (lowerByte_ofNat (hascii c hc)).symm
    · rfl

theorem map_lower_map_lower (label? : Option Label) :
    (label?.map Label.lower).map Label.lower = label?.map Label.lower := by
  cases label? with
  | none => rfl
  | some label => exact congrArg some label.lower_lower

theorem asciiLabel?_lowerChars_lower (cs : List Char) :
    (asciiLabel? (lowerChars cs)).map Label.lower = (asciiLabel? cs).map Label.lower := by
  rw [asciiLabel?_lowerChars, map_lower_map_lower]

/-- A label of a text with lowered letters is the label as it was, or lowered. -/
theorem internationalLabel?_lowerChars_lower (cs : List Char) :
    (internationalLabel? (lowerChars cs)).map Label.lower =
      (internationalLabel? cs).map Label.lower := by
  have hscript : (lowerChars cs = ['*'] ∨ (lowerChars cs).head? = some '_') ↔
      (cs = ['*'] ∨ cs.head? = some '_') := by
    cases cs with
    | nil => exact Iff.rfl
    | cons first rest =>
      have hstar : lowerChar first = '*' ↔ first = '*' := lowerChar_eq_iff (by decide)
      have hunderscore : lowerChar first = '_' ↔ first = '_' := lowerChar_eq_iff (by decide)
      simp only [lowerChars, List.map_cons, List.cons.injEq, List.map_eq_nil_iff, List.head?_cons,
        Option.some.injEq, hstar, hunderscore]
  unfold internationalLabel?
  simp only [hscript]
  split
  · exact asciiLabel?_lowerChars_lower cs
  · rw [Idna.toAscii?_lowerChars]

/-! ## Names -/

theorem ofLabels?_map_lower (labels : List Label) :
    Name.ofLabels? (labels.map Label.lower) = (Name.ofLabels? labels).map Name.lower := by
  unfold Name.ofLabels?
  by_cases h : labelsSize labels + 1 ≤ maxNameSize
  · have hlower : labelsSize (labels.map Label.lower) + 1 ≤ maxNameSize := by
      rwa [labelsSize_map_lower]
    rw [dif_pos h, dif_pos hlower]
    rfl
  · have hlower : ¬ labelsSize (labels.map Label.lower) + 1 ≤ maxNameSize := by
      rwa [labelsSize_map_lower]
    rw [dif_neg h, dif_neg hlower]
    rfl

theorem mapM_lowerChars {read : List Char → Option Label}
    (hread : ∀ cs, (read (lowerChars cs)).map Label.lower = (read cs).map Label.lower)
    (texts : List (List Char)) :
    ((texts.map lowerChars).mapM read).map (List.map Label.lower) =
      (texts.mapM read).map (List.map Label.lower) := by
  induction texts with
  | nil => rfl
  | cons cs rest ih =>
    have hfirst := hread cs
    rw [List.map_cons, List.mapM_cons, List.mapM_cons]
    cases hlabel : read cs with
    | none =>
      rw [hlabel, Option.map_none, Option.map_eq_none_iff] at hfirst
      rw [hfirst]
      rfl
    | some label =>
      rw [hlabel, Option.map_some, Option.map_eq_some_iff] at hfirst
      obtain ⟨lowered, hlowered, hsame⟩ := hfirst
      have hcons : ∀ (label : Label) (labels? : Option (List Label)),
          (labels?.bind fun labels => pure (label :: labels)).map (List.map Label.lower) =
            (labels?.map (List.map Label.lower)).map (label.lower :: ·) := by
        intro label labels?
        cases labels? with
        | none => rfl
        | some labels => rfl
      rw [hlowered]
      change ((List.mapM read (rest.map lowerChars)).bind _).map _ =
        ((List.mapM read rest).bind _).map _
      rw [hcons, hcons, ih, hsame]

/-- A name of lowered texts is the name as it was, up to letter case. -/
theorem ofTexts?_lowerChars {read : List Char → Option Label}
    (hread : ∀ cs, (read (lowerChars cs)).map Label.lower = (read cs).map Label.lower)
    (texts : List (List Char)) :
    (Name.ofTexts? read (texts.map lowerChars)).map Name.lower =
      (Name.ofTexts? read texts).map Name.lower := by
  have hbind : ∀ labels? : Option (List Label),
      (labels?.bind Name.ofLabels?).map Name.lower =
        (labels?.map (List.map Label.lower)).bind Name.ofLabels? := by
    intro labels?
    cases labels? with
    | none => rfl
    | some labels => exact (ofLabels?_map_lower labels).symm
  rw [Name.ofTexts?, Name.ofTexts?, hbind, hbind, mapM_lowerChars hread]

theorem nameOfTexts_lowerChars (texts : List (List Char)) :
    (Name.ofTexts? internationalLabel? (texts.map lowerChars) <|>
        Name.ofTexts? asciiLabel? (texts.map lowerChars)).map Name.lower =
      (Name.ofTexts? internationalLabel? texts <|>
        Name.ofTexts? asciiLabel? texts).map Name.lower := by
  have hchoice : ∀ first second : Option Name, (first <|> second).map Name.lower =
      (first.map Name.lower <|> second.map Name.lower) := by
    intro first second
    cases first with
    | none => rfl
    | some name => rfl
  rw [hchoice, hchoice, ofTexts?_lowerChars internationalLabel?_lowerChars_lower,
    ofTexts?_lowerChars asciiLabel?_lowerChars_lower]

end Wire
end SplitHorizon
