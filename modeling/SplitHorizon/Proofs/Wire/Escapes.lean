/-
Texts with escaped dots.

A name that was read prints with a backslash before every dot inside a label and
nowhere else.  A text of this kind is cut into the same labels when its letters are
lowered and when its closing dot is added, and no blank in it can be read over.
-/
import SplitHorizon.Proofs.NormalNames
import SplitHorizon.Wire.NameText

namespace SplitHorizon
namespace Wire

open Text

/-! ## Texts with escaped dots -/

/-- Backslashes stand before dots only. -/
inductive DotEscaped : List Char → Prop
  | nil : DotEscaped []
  | escape {rest : List Char} : DotEscaped rest → DotEscaped ('\\' :: '.' :: rest)
  | plain {c : Char} {rest : List Char} : c ≠ '\\' → DotEscaped rest → DotEscaped (c :: rest)

namespace DotEscaped

theorem of_not_mem {cs : List Char} (h : '\\' ∉ cs) : DotEscaped cs := by
  induction cs with
  | nil => exact nil
  | cons c rest ih =>
    rw [List.mem_cons, not_or] at h
    exact plain (Ne.symm h.1) (ih h.2)

theorem append {xs ys : List Char} (hxs : DotEscaped xs) (hys : DotEscaped ys) :
    DotEscaped (xs ++ ys) := by
  induction hxs with
  | nil => exact hys
  | escape _ ih => exact escape ih
  | plain hc _ ih => exact plain hc ih

theorem flatMap {α : Type} {f : α → List Char} {xs : List α} (h : ∀ x ∈ xs, DotEscaped (f x)) :
    DotEscaped (xs.flatMap f) := by
  induction xs with
  | nil => exact nil
  | cons x rest ih =>
    obtain ⟨hx, hrest⟩ := List.forall_mem_cons.1 h
    exact append hx (ih hrest)

theorem dot : DotEscaped ['.'] :=
  of_not_mem (by decide)

theorem tail {c : Char} {rest : List Char} (h : DotEscaped (c :: rest)) : DotEscaped rest := by
  cases h with
  | escape hrest => exact plain (by decide) hrest
  | plain _ hrest => exact hrest

theorem lowerChars {cs : List Char} (h : DotEscaped cs) : DotEscaped (Text.lowerChars cs) := by
  induction h with
  | nil => exact nil
  | escape _ ih => exact escape ih
  | plain hc _ ih =>
    refine plain ?_ ih
    rwa [Ne, lowerChar_eq_iff (by decide)]

theorem of_lowerChars {cs : List Char} (h : DotEscaped (Text.lowerChars cs)) : DotEscaped cs := by
  generalize hlower : Text.lowerChars cs = lowered at h
  induction h generalizing cs with
  | nil =>
    obtain rfl := List.map_eq_nil_iff.1 hlower
    exact nil
  | escape _ ih =>
    obtain ⟨first, others, rfl, hfirst, hothers⟩ := List.map_eq_cons_iff.1 hlower
    obtain ⟨second, rest, rfl, hsecond, hrest⟩ := List.map_eq_cons_iff.1 hothers
    rw [(lowerChar_eq_iff (by decide)).1 hfirst, (lowerChar_eq_iff (by decide)).1 hsecond]
    exact escape (ih hrest)
  | plain hc _ ih =>
    obtain ⟨first, rest, rfl, rfl, hrest⟩ := List.map_eq_cons_iff.1 hlower
    refine plain ?_ (ih hrest)
    rwa [Ne, lowerChar_eq_iff (by decide)] at hc

end DotEscaped

/-! ## Cutting such texts -/

theorem splitLabels_nil (label : List Char) :
    splitLabels label [] = some (if label.isEmpty then [] else [label.reverse]) := by
  rw [splitLabels, cutLabels, Option.map_some, TextLabels.all, List.isEmpty_reverse]
  rfl

theorem splitLabels_plain {label rest : List Char} {c : Char} (hc : c ≠ '\\') :
    splitLabels label (c :: rest) =
      if c = '.' then
        if label.isEmpty then none else (splitLabels [] rest).map (label.reverse :: ·)
      else if isControl c || isBlank c then none
      else splitLabels (c :: label) rest := by
  have hall : ∀ labels : TextLabels,
      { labels with closed := label.reverse :: labels.closed }.all =
        label.reverse :: labels.all := by
    intro labels
    unfold TextLabels.all
    split
    · rfl
    · rfl
  unfold splitLabels
  rw [cutLabels]
  · split
    · split
      · rfl
      · simp only [Option.map_map, Function.comp_def, hall]
    · split
      · rfl
      · rfl
  · exact fun h _ => absurd h hc
  · exact fun _ _ h _ => absurd h hc

theorem isControl_lowerChar (c : Char) : isControl (lowerChar c) = isControl c := by
  simp only [isControl, toNat_lowerChar]
  split
  · grind
  · rfl

/-- A text with lowered letters has lowered labels. -/
theorem splitLabels_lowerChars {label cs : List Char} (h : DotEscaped cs) :
    splitLabels (lowerChars label) (lowerChars cs) =
      (splitLabels label cs).map (List.map lowerChars) := by
  induction h generalizing label with
  | nil =>
    simp only [lowerChars, List.map_nil, splitLabels_nil, Option.map_some, List.isEmpty_map]
    split
    · rfl
    · simp [lowerChars]
  | escape _ ih => exact @ih ('.' :: label)
  | @plain c rest hc _ ih =>
    have hlower : lowerChar c ≠ '\\' := by rwa [Ne, lowerChar_eq_iff (by decide)]
    change splitLabels (lowerChars label) (lowerChar c :: lowerChars rest) = _
    rw [splitLabels_plain hlower, splitLabels_plain hc, isControl_lowerChar, isBlank_lowerChar]
    simp only [lowerChar_eq_iff (d := '.') (by decide)]
    by_cases hdot : c = '.'
    · have hempty : (lowerChars label).isEmpty = label.isEmpty := List.isEmpty_map
      rw [if_pos hdot, if_pos hdot, hempty]
      cases label.isEmpty with
      | true => rfl
      | false =>
        have hrest := @ih []
        rw [if_neg Bool.false_ne_true, if_neg Bool.false_ne_true]
        rw [show lowerChars [] = [] from rfl] at hrest
        rw [hrest, Option.map_map, Option.map_map]
        congr 1
        funext texts
        simp [lowerChars]
    · rw [if_neg hdot, if_neg hdot]
      cases isControl c || isBlank c with
      | true => rfl
      | false => exact @ih (c :: label)

/-- A blank that is not behind a backslash cannot be read over. -/
theorem splitLabels_blank {label cs rest : List Char} {c : Char} (h : DotEscaped cs)
    (hc : isBlank c = true) : splitLabels label (cs ++ c :: rest) = none := by
  have hslash : c ≠ '\\' := by
    rintro rfl
    cases hc
  have hdot : c ≠ '.' := by
    rintro rfl
    cases hc
  induction h generalizing label with
  | nil =>
    rw [List.nil_append, splitLabels_plain hslash, if_neg hdot, hc, Bool.or_true, if_pos rfl]
  | escape _ ih => exact ih
  | @plain d more hd _ ih =>
    rw [List.cons_append, splitLabels_plain hd, ih, ih]
    split
    · split <;> rfl
    · split <;> rfl

/-- The closing dot may be left out. -/
theorem splitLabels_closing_dot {label cs : List Char} (h : DotEscaped cs)
    (hne : cs ≠ [] ∨ label ≠ []) (hlast : cs.getLast? ≠ some '.') :
    splitLabels label (cs ++ ['.']) = splitLabels label cs := by
  -- A text that goes on behind a character has the last one of what goes on.
  have hmore : ∀ {c : Char} {rest : List Char}, (c :: rest).getLast? ≠ some '.' →
      rest ≠ [] ∨ c ≠ '.' := by
    rintro c rest hlast
    by_cases hrest : rest = []
    · subst hrest
      exact Or.inr fun h => hlast (congrArg some h)
    · exact Or.inl hrest
  have hlater : ∀ {c : Char} {rest : List Char}, (c :: rest).getLast? ≠ some '.' →
      rest.getLast? ≠ some '.' := by
    intro c rest hlast hrest
    rw [List.getLast?_cons, hrest] at hlast
    exact hlast rfl
  induction h generalizing label with
  | nil =>
    have hlabel : label ≠ [] := hne.resolve_left (fun h => h rfl)
    have hempty : label.isEmpty = false := List.isEmpty_eq_false_iff.2 hlabel
    rw [List.nil_append, splitLabels_plain (by decide), if_pos rfl, hempty]
    simp only [splitLabels_nil, hempty]
    rfl
  | escape _ ih =>
    exact ih (Or.inr (List.cons_ne_nil '.' label)) (hlater (hlater hlast))
  | @plain c rest hc _ ih =>
    rw [List.cons_append, splitLabels_plain hc, splitLabels_plain hc]
    by_cases hdot : c = '.'
    · have hrest : rest ≠ [] := (hmore hlast).resolve_right (fun h => h hdot)
      rw [if_pos hdot, if_pos hdot, ih (Or.inl hrest) (hlater hlast)]
    · rw [if_neg hdot, if_neg hdot, ih (Or.inr (List.cons_ne_nil c label)) (hlater hlast)]

end Wire
end SplitHorizon
