/-
Normal names.

A text is in normal form when it has no blanks at its ends, no capital ASCII
letters, and a closing dot.  `normalize` brings every text into this form and
leaves a text alone that has it, so it makes no difference how often a name was
normalized on its way.
-/
import SplitHorizon.Fqdn

namespace SplitHorizon
namespace Text

/-! ## Trimming -/

/-- The text neither starts nor ends with a blank. -/
def Trimmed (cs : List Char) : Prop :=
  (∀ c ∈ cs.head?, isBlank c = false) ∧ ∀ c ∈ cs.getLast?, isBlank c = false

theorem head?_trimFront (cs : List Char) : ∀ c ∈ (trimFront cs).head?, isBlank c = false := by
  intro c hc
  induction cs with
  | nil => cases hc
  | cons first rest ih =>
    cases hfirst : isBlank first with
    | true =>
      have hrest : trimFront (first :: rest) = trimFront rest := by simp [trimFront, hfirst]
      exact ih (hrest ▸ hc)
    | false =>
      have hself : trimFront (first :: rest) = first :: rest := by simp [trimFront, hfirst]
      rw [hself, List.head?_cons, Option.mem_some_iff] at hc
      exact hc ▸ hfirst

theorem trimFront_eq_self {cs : List Char} (h : ∀ c ∈ cs.head?, isBlank c = false) :
    trimFront cs = cs := by
  cases cs with
  | nil => rfl
  | cons first rest =>
    have hfirst : isBlank first = false := h first rfl
    simp [trimFront, hfirst]

/-- Trimming the end of a text takes off blanks only. -/
theorem trimBack_append_blanks (cs : List Char) :
    ∃ blanks, trimBack cs ++ blanks = cs ∧ ∀ c ∈ blanks, isBlank c = true := by
  refine ⟨(cs.reverse.takeWhile isBlank).reverse, ?_, fun c hc => ?_⟩
  · rw [trimBack, trimFront, ← List.reverse_append, List.takeWhile_append_dropWhile,
      List.reverse_reverse]
  · rw [List.mem_reverse] at hc
    exact List.all_eq_true.1 List.all_takeWhile c hc

theorem trimmed_trimChars (cs : List Char) : Trimmed (trimChars cs) := by
  constructor
  · intro c hc
    obtain ⟨blanks, hblanks, -⟩ := trimBack_append_blanks (trimFront cs)
    refine head?_trimFront cs c ?_
    rw [← hblanks, List.head?_append]
    exact Option.mem_def.2 (by rw [show (trimBack (trimFront cs)).head? = some c from hc]; rfl)
  · intro c hc
    rw [trimChars, trimBack, List.getLast?_reverse] at hc
    exact head?_trimFront _ c hc

theorem trimChars_eq_self {cs : List Char} (h : Trimmed cs) : trimChars cs = cs := by
  have hback : ∀ c ∈ cs.reverse.head?, isBlank c = false := by
    rw [List.head?_reverse]
    exact h.2
  rw [trimChars, trimFront_eq_self h.1, trimBack, trimFront_eq_self hback, List.reverse_reverse]

theorem mem_of_mem_trimChars {cs : List Char} {c : Char} (h : c ∈ trimChars cs) : c ∈ cs := by
  obtain ⟨blanks, hblanks, -⟩ := trimBack_append_blanks (trimFront cs)
  have hfront : c ∈ trimFront cs := by
    rw [← hblanks]
    exact List.mem_append_left blanks h
  exact (List.dropWhile_suffix isBlank).subset hfront

/-- Blanks around a text are trimmed away. -/
theorem trimChars_append_blanks {front back : List Char} (hfront : ∀ c ∈ front, isBlank c = true)
    (hback : ∀ c ∈ back, isBlank c = true) (cs : List Char) :
    trimChars (front ++ cs ++ back) = trimChars cs := by
  have hleft : trimFront (front ++ cs ++ back) = trimFront (cs ++ back) := by
    rw [List.append_assoc, trimFront, List.dropWhile_append_of_pos hfront, trimFront]
  have hright : ∀ xs, trimBack (xs ++ back) = trimBack xs := by
    intro xs
    have hreverse : ∀ c ∈ back.reverse, isBlank c = true :=
      fun c hc => hback c (List.mem_reverse.1 hc)
    rw [trimBack, List.reverse_append, trimFront, List.dropWhile_append_of_pos hreverse, trimBack,
      trimFront]
  rw [trimChars, trimChars, hleft]
  by_cases hblank : trimFront cs = []
  · have hall : trimFront (cs ++ back) = [] := by
      refine trimFront_eq_nil_iff.2 fun c hc => ?_
      rcases List.mem_append.1 hc with hc | hc
      · exact trimFront_eq_nil_iff.1 hblank c hc
      · exact hback c hc
    rw [hall, hblank]
  · have hkeep : trimFront (cs ++ back) = trimFront cs ++ back := by
      have hsome : (cs.dropWhile isBlank).isEmpty = false := List.isEmpty_eq_false_iff.2 hblank
      rw [trimFront, List.dropWhile_append, hsome]
      rfl
    rw [hkeep, hright]

/-! ## Letter case -/

theorem toNat_lowerChar (c : Char) :
    (lowerChar c).toNat = if 65 ≤ c.toNat ∧ c.toNat ≤ 90 then c.toNat + 32 else c.toNat := by
  have hcapital : ('A' ≤ c ∧ c ≤ 'Z') ↔ (65 ≤ c.toNat ∧ c.toNat ≤ 90) := Iff.rfl
  unfold lowerChar
  simp only [hcapital]
  split
  · have hvalid : (c.toNat + 32).isValidChar := Or.inl (by omega)
    rw [Char.ofNat, dif_pos hvalid]
    rfl
  · rfl

theorem lowerChar_of_not_capital {c : Char} (h : ¬ (65 ≤ c.toNat ∧ c.toNat ≤ 90)) :
    lowerChar c = c := by
  rw [← Char.toNat_inj, toNat_lowerChar, if_neg h]

theorem lowerChar_lowerChar (c : Char) : lowerChar (lowerChar c) = lowerChar c := by
  refine Char.toNat_inj.1 ?_
  rw [toNat_lowerChar (lowerChar c), toNat_lowerChar c]
  by_cases hcapital : 65 ≤ c.toNat ∧ c.toNat ≤ 90
  · rw [if_pos hcapital, if_neg (by omega)]
  · rw [if_neg hcapital, if_neg hcapital]

/-- Lowering neither makes nor changes a character that is no letter. -/
theorem lowerChar_eq_iff {c d : Char} (hd : d.toNat < 65 ∨ 91 ≤ d.toNat ∧ d.toNat < 97) :
    lowerChar c = d ↔ c = d := by
  rw [← Char.toNat_inj, toNat_lowerChar, ← Char.toNat_inj]
  split <;> omega

theorem not_mem_lowerChars {cs : List Char} (h : '.' ∉ cs) : '.' ∉ lowerChars cs := by
  intro hmem
  obtain ⟨c, hc, hlower⟩ := List.mem_map.1 hmem
  exact h ((lowerChar_eq_iff (by decide)).1 hlower ▸ hc)

@[simp]
theorem lowerChars_lowerChars (cs : List Char) : lowerChars (lowerChars cs) = lowerChars cs := by
  simp only [lowerChars, List.map_map, Function.comp_def, lowerChar_lowerChar]

theorem toNat_lowerByte (b : UInt8) :
    (lowerByte b).toNat = if 65 ≤ b.toNat ∧ b.toNat ≤ 90 then b.toNat + 32 else b.toNat := by
  have hcapital : (65 ≤ b ∧ b ≤ 90) ↔ (65 ≤ b.toNat ∧ b.toNat ≤ 90) := by
    rw [UInt8.le_iff_toNat_le, UInt8.le_iff_toNat_le]
    exact Iff.rfl
  unfold lowerByte
  simp only [hcapital]
  split
  · rw [UInt8.toNat_add]
    change (b.toNat + 32) % 256 = _
    omega
  · rfl

theorem lowerByte_lowerByte (b : UInt8) : lowerByte (lowerByte b) = lowerByte b := by
  rw [← UInt8.toNat_inj, toNat_lowerByte (lowerByte b), toNat_lowerByte b]
  by_cases hcapital : 65 ≤ b.toNat ∧ b.toNat ≤ 90
  · rw [if_pos hcapital, if_neg (by omega)]
  · rw [if_neg hcapital, if_neg hcapital]

@[simp]
theorem isBlank_lowerChar (c : Char) : isBlank (lowerChar c) = isBlank c := by
  simp only [isBlank, toNat_lowerChar]
  split
  · have hlow : (c.toNat + 32 : Nat) ≤ 122 := by omega
    grind
  · rfl

theorem trimmed_lowerChars {cs : List Char} : Trimmed (lowerChars cs) ↔ Trimmed cs := by
  have hend : ∀ last : Option Char, (∀ c ∈ last.map lowerChar, isBlank c = false) ↔
      ∀ c ∈ last, isBlank c = false := by
    intro last
    cases last with
    | none => simp
    | some c => simp
  rw [Trimmed, Trimmed, lowerChars, List.head?_map, List.getLast?_map, hend, hend]

end Text

namespace Fqdn

open Text

/-! ## The closing dot -/

@[simp]
theorem getLast?_closeDot (cs : List Char) : (closeDot cs).getLast? = some '.' := by
  unfold closeDot
  split
  · assumption
  · simp

theorem closeDot_eq_self {cs : List Char} (h : cs.getLast? = some '.') : closeDot cs = cs := by
  rw [closeDot, if_pos h]

theorem closeDot_append {xs ys : List Char} (h : ys ≠ []) :
    closeDot (xs ++ ys) = xs ++ closeDot ys := by
  obtain ⟨last, hlast⟩ := Option.ne_none_iff_exists'.1 (mt List.getLast?_eq_none_iff.1 h)
  have hsame : (xs ++ ys).getLast? = ys.getLast? := by
    rw [List.getLast?_append, hlast]
    rfl
  unfold closeDot
  rw [hsame]
  split
  · rfl
  · rw [List.append_assoc]

theorem mem_closeDot {cs : List Char} {c : Char} (h : c ∈ closeDot cs) :
    c = '.' ∨ c ∈ cs := by
  unfold closeDot at h
  split at h
  · exact Or.inr h
  · rcases List.mem_append.1 h with h | h
    · exact Or.inr h
    · exact Or.inl (List.mem_singleton.1 h)

theorem trimmed_closeDot {cs : List Char} (h : Trimmed cs) : Trimmed (closeDot cs) := by
  refine ⟨?_, fun c hc => ?_⟩
  · unfold closeDot
    split
    · exact h.1
    · intro c hc
      cases cs with
      | nil =>
        obtain rfl : '.' = c := by simpa using hc
        decide
      | cons first rest => exact h.1 c (by simpa using hc)
  · obtain rfl : '.' = c := by simpa using hc
    decide

theorem lowerChars_closeDot (cs : List Char) :
    lowerChars (closeDot cs) = closeDot (lowerChars cs) := by
  have hlast : (lowerChars cs).getLast? = some '.' ↔ cs.getLast? = some '.' := by
    rw [lowerChars, List.getLast?_map, Option.map_eq_some_iff]
    constructor
    · rintro ⟨c, hc, hlower⟩
      rw [hc, (lowerChar_eq_iff (by decide)).1 hlower]
    · intro h
      exact ⟨'.', h, rfl⟩
  unfold closeDot
  simp only [hlast]
  split
  · rfl
  · simp only [lowerChars, List.map_append]
    rfl

/-! ## Normal form -/

/-- No blanks at the ends, no capitals, and a dot at the end. -/
structure IsNormal (cs : List Char) : Prop where
  trimmed : Trimmed cs
  lowered : lowerChars cs = cs
  closed : cs.getLast? = some '.'

theorem isNormal_normalizeChars (cs : List Char) : IsNormal (normalizeChars cs) where
  trimmed := trimmed_closeDot (trimmed_lowerChars.2 (trimmed_trimChars cs))
  lowered := by rw [normalizeChars, lowerChars_closeDot, lowerChars_lowerChars]
  closed := getLast?_closeDot _

theorem normalizeChars_eq_self {cs : List Char} (h : IsNormal cs) : normalizeChars cs = cs := by
  rw [normalizeChars, trimChars_eq_self h.trimmed, h.lowered, closeDot_eq_self h.closed]

/-- Letter case and the closing dot make no difference to the normal form. -/
theorem normalizeChars_eq_of_lowerChars {cs ds : List Char} (hcs : Trimmed cs)
    (h : lowerChars ds = lowerChars (closeDot cs)) : normalizeChars ds = normalizeChars cs := by
  have hds : Trimmed ds := by
    rw [← trimmed_lowerChars, h, trimmed_lowerChars]
    exact trimmed_closeDot hcs
  rw [normalizeChars, normalizeChars, trimChars_eq_self hds, trimChars_eq_self hcs, h,
    lowerChars_closeDot, closeDot_eq_self (getLast?_closeDot _)]

/-- A normalized name stays as it is. -/
@[simp]
theorem normalize_normalize (name : String) : normalize (normalize name) = normalize name := by
  rw [← String.toList_inj, toList_normalize, toList_normalize,
    normalizeChars_eq_self (isNormal_normalizeChars _)]

end Fqdn
end SplitHorizon
