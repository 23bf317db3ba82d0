/-
Numbers in texts.

A number that was written is read back, and a run of decimal digits without zeros in front is
what its value is written as.  Readers of numbers take the longest run of digits in front, so
what they take is settled as soon as something else than a digit follows.
-/
import Mathlib.Algebra.Group.Nat.Defs
import Mathlib.Data.List.Basic
import Mathlib.Data.List.Induction
import Mathlib.Data.List.TakeWhile
import SplitHorizon.Text.Blank
import SplitHorizon.Text.Numeral

namespace SplitHorizon
namespace Text

variable {base n room d : Nat} {c : Char} {cs digits rest tail : List Char}

/-! ## Digits -/

theorem digitValue_digitChar (h : d < 36) : digitValue (digitChar d) = some d := by
  have hall : ∀ d < 36, digitValue (digitChar d) = some d := by decide
  exact hall d h

theorem isDigitOf_iff : isDigitOf base c = true ↔ ∃ d, digitValue c = some d ∧ d < base := by
  unfold isDigitOf
  cases digitValue c with
  | none => simp
  | some d => simp

theorem isDigitOf_digitChar (h : d < base) (hbase : base ≤ 36) :
    isDigitOf base (digitChar d) = true :=
  isDigitOf_iff.2 ⟨d, digitValue_digitChar (Nat.lt_of_lt_of_le h hbase), h⟩

/-- The code point of a digit. -/
theorem toNat_of_digitValue (h : digitValue c = some d) :
    c.toNat = 48 + d ∧ d < 10 ∨ 10 ≤ d ∧ (c.toNat = 55 + d ∨ c.toNat = 87 + d) := by
  have hcode : ∀ d : Char, d.val.toNat = d.toNat := fun _ => rfl
  have hbounds : ('0' : Char).toNat = 48 ∧ ('9' : Char).toNat = 57 ∧ ('a' : Char).toNat = 97 ∧
      ('z' : Char).toNat = 122 ∧ ('A' : Char).toNat = 65 ∧ ('Z' : Char).toNat = 90 := by decide
  simp only [digitValue, Char.le_def, UInt32.le_iff_toNat_le, hcode, hbounds] at h
  split at h
  · obtain rfl := Option.some.inj h
    omega
  · split at h
    · obtain rfl := Option.some.inj h
      omega
    · split at h
      · obtain rfl := Option.some.inj h
        omega
      · cases h

theorem digitChar_of_digitValue (h : digitValue c = some d) (hd : d < 10) : digitChar d = c := by
  have hcode : c.toNat = 48 + d := by
    have := toNat_of_digitValue h
    omega
  rw [digitChar, if_pos hd, ← hcode, Char.ofNat_toNat]

theorem isDigitOf_ten {c : Char} (h : isDigitOf 10 c = true) : 48 ≤ c.toNat ∧ c.toNat ≤ 57 := by
  obtain ⟨d, hd, hlt⟩ := isDigitOf_iff.1 h
  have := toNat_of_digitValue hd
  omega

theorem isDigitOf_ten_of_isBlank {c : Char} (h : isBlank c = true) : isDigitOf 10 c = false := by
  rw [← Bool.not_eq_true]
  intro hdigit
  have hbounds := isDigitOf_ten hdigit
  simp only [isBlank, Bool.or_eq_true, Bool.and_eq_true, decide_eq_true_eq, beq_iff_eq] at h
  omega

theorem isBlank_of_isDigitOf_ten {c : Char} (h : isDigitOf 10 c = true) : isBlank c = false := by
  rw [← Bool.not_eq_true]
  intro hblank
  rw [isDigitOf_ten_of_isBlank hblank] at h
  cases h

/-- A decimal digit is a hexadecimal one. -/
theorem isDigitOf_sixteen (h : isDigitOf 10 c = true) : isDigitOf 16 c = true := by
  obtain ⟨d, hd, hlt⟩ := isDigitOf_iff.1 h
  exact isDigitOf_iff.2 ⟨d, hd, by omega⟩

/-! ## Runs of digits -/

/-- No number in front of the text goes on in it. -/
def EndsNumeral (base : Nat) (tail : List Char) : Prop :=
  ∀ c ∈ tail.head?, isDigitOf base c = false

theorem endsNumeral_nil (base : Nat) : EndsNumeral base [] :=
  fun _ h => nomatch h

theorem endsNumeral_cons (h : isDigitOf base c = false) : EndsNumeral base (c :: tail) := by
  intro d hd
  obtain rfl : c = d := Option.some.inj hd
  exact h

theorem endsNumeral_spanDigits (base : Nat) (cs : List Char) :
    EndsNumeral base (spanDigits base cs).2 := by
  intro c hc
  have hhead : (cs.dropWhile (isDigitOf base)).head? = some c := hc
  rw [← List.find?_not_eq_head?_dropWhile] at hhead
  simpa using List.find?_some hhead

/-- At least one digit, and nothing else. -/
structure IsNumeral (base : Nat) (digits : List Char) : Prop where
  ne_nil : digits ≠ []
  digits : ∀ c ∈ digits, isDigitOf base c = true

theorem IsNumeral.notMem (h : IsNumeral base digits) (hc : isDigitOf base c = false) :
    c ∉ digits :=
  fun hmem => Bool.false_ne_true (hc.symm.trans (h.digits c hmem))

theorem spanDigits_of_digits (h : ∀ c ∈ digits, isDigitOf base c = true)
    (hrest : EndsNumeral base rest) : spanDigits base (digits ++ rest) = (digits, rest) := by
  have hstop : rest.takeWhile (isDigitOf base) = [] ∧ rest.dropWhile (isDigitOf base) = rest := by
    cases rest with
    | nil => exact ⟨rfl, rfl⟩
    | cons first rest =>
      have hfirst : isDigitOf base first = false := hrest first rfl
      simp [hfirst]
  rw [spanDigits, List.takeWhile_append_of_pos h, List.dropWhile_append_of_pos h, hstop.1,
    hstop.2, List.append_nil]

/-- A tail that does not go on with the number stays behind it. -/
theorem spanDigits_append_tail (h : EndsNumeral base tail) (cs : List Char) :
    spanDigits base (cs ++ tail) = ((spanDigits base cs).1, (spanDigits base cs).2 ++ tail) := by
  have hdigits : ∀ c ∈ (spanDigits base cs).1, isDigitOf base c = true :=
    fun c hc => List.all_eq_true.1 List.all_takeWhile c hc
  have hends : EndsNumeral base ((spanDigits base cs).2 ++ tail) := by
    intro c hc
    cases hrest : (spanDigits base cs).2 with
    | nil =>
      rw [hrest] at hc
      exact h c hc
    | cons first rest =>
      rw [hrest] at hc
      exact endsNumeral_spanDigits base cs c (hrest ▸ hc)
  have hspan := spanDigits_of_digits hdigits hends
  rwa [← List.append_assoc, spanDigits_append] at hspan

/-- A number in front of a text is the whole run of digits there. -/
theorem readNumber_eq_some_iff {max : Nat} :
    readNumber base max cs = some (n, rest) ↔
      ∃ digits, IsNumeral base digits ∧ cs = digits ++ rest ∧ EndsNumeral base rest ∧
        n = numeralValue base digits ∧ n ≤ max := by
  unfold readNumber
  constructor
  · intro h
    simp only at h
    split at h
    · cases h
    · next hnot =>
      obtain ⟨rfl, rfl⟩ := Prod.mk.inj (Option.some.inj h)
      rw [not_or, Nat.not_lt] at hnot
      exact ⟨_, ⟨hnot.1, fun c hc => List.all_eq_true.1 List.all_takeWhile c hc⟩,
        (spanDigits_append base cs).symm, endsNumeral_spanDigits base cs, rfl, hnot.2⟩
  · rintro ⟨digits, hnumeral, rfl, hrest, rfl, hmax⟩
    have hnot : ¬ (digits = [] ∨ max < numeralValue base digits) :=
      not_or.2 ⟨hnumeral.ne_nil, Nat.not_lt.2 hmax⟩
    simp only [spanDigits_of_digits hnumeral.digits hrest, if_neg hnot]

/-- The text behind the plus sign that a number may have in front. -/
def withoutPlus : List Char → List Char
  | '+' :: rest => rest
  | cs => cs

theorem withoutPlus_of_head? (h : cs.head? ≠ some '+') : withoutPlus cs = cs := by
  unfold withoutPlus
  split
  · exact absurd rfl h
  · rfl

theorem readUnsigned_eq_some_iff {max : Nat} {s : String} :
    readUnsigned max s = some n ↔ readNumber 10 max (withoutPlus s.toList) = some (n, []) := by
  unfold readUnsigned
  simp only
  constructor
  · intro h
    split at h
    · next found hfound =>
      obtain rfl := Option.some.inj h
      exact hfound
    · cases h
  · intro h
    split
    · next found hfound =>
      exact congrArg some (Prod.mk.inj (Option.some.inj (hfound.symm.trans h))).1
    · next hnot => exact absurd h (hnot n)

/-! ## Written numbers -/

theorem numeralValue_append_digit (base : Nat) (digits : List Char) (c : Char) :
    numeralValue base (digits ++ [c]) =
      numeralValue base digits * base + (digitValue c).getD 0 := by
  rw [numeralValue, numeralValue, List.foldl_append, List.foldl_cons, List.foldl_nil]

theorem digitsUpTo_of_lt (h : n < base) : digitsUpTo base (room + 1) n = [digitChar n] := by
  rw [digitsUpTo, if_pos h]

theorem digitsUpTo_of_le (h : base ≤ n) :
    digitsUpTo base (room + 1) n = digitsUpTo base room (n / base) ++ [digitChar (n % base)] := by
  rw [digitsUpTo, if_neg (Nat.not_lt.2 h)]

/-- Enough room is enough. -/
theorem digitsUpTo_eq {more : Nat} (hbase : 2 ≤ base) (hroom : n < room) (hmore : n < more) :
    digitsUpTo base room n = digitsUpTo base more n := by
  induction room generalizing n more with
  | zero => omega
  | succ room ih =>
    cases more with
    | zero => omega
    | succ more =>
      by_cases h : n < base
      · rw [digitsUpTo_of_lt h, digitsUpTo_of_lt h]
      · have hsmaller : n / base < n := Nat.div_lt_self (by omega) (by omega)
        have hfront : digitsUpTo base room (n / base) = digitsUpTo base more (n / base) :=
          ih (by omega) (by omega)
        rw [digitsUpTo_of_le (Nat.not_lt.1 h), digitsUpTo_of_le (Nat.not_lt.1 h), hfront]

theorem isNumeral_digitsUpTo (hbase : 2 ≤ base) (hdigits : base ≤ 36) (hroom : n < room) :
    IsNumeral base (digitsUpTo base room n) := by
  induction room generalizing n with
  | zero => omega
  | succ room ih =>
    by_cases h : n < base
    · rw [digitsUpTo_of_lt h]
      exact ⟨List.cons_ne_nil _ _, List.forall_mem_singleton.2 (isDigitOf_digitChar h hdigits)⟩
    · have hsmaller : n / base < n := Nat.div_lt_self (by omega) (by omega)
      have hlast : n % base < base := Nat.mod_lt _ (by omega)
      rw [digitsUpTo_of_le (Nat.not_lt.1 h)]
      refine ⟨by simp, fun c hc => ?_⟩
      rcases List.mem_append.1 hc with hc | hc
      · exact (ih (by omega)).digits c hc
      · exact List.mem_singleton.1 hc ▸ isDigitOf_digitChar hlast hdigits

/-- A number that was written has its value. -/
theorem numeralValue_digitsUpTo (hbase : 2 ≤ base) (hdigits : base ≤ 36) (hroom : n < room) :
    numeralValue base (digitsUpTo base room n) = n := by
  induction room generalizing n with
  | zero => omega
  | succ room ih =>
    by_cases h : n < base
    · have hdigit := digitValue_digitChar (Nat.lt_of_lt_of_le h hdigits)
      rw [digitsUpTo_of_lt h, ← List.nil_append [digitChar n], numeralValue_append_digit, hdigit,
        Option.getD_some]
      have hnothing : numeralValue base [] * base = 0 := Nat.zero_mul base
      omega
    · have hsmaller : n / base < n := Nat.div_lt_self (by omega) (by omega)
      have hlast : n % base < base := Nat.mod_lt _ (by omega)
      rw [digitsUpTo_of_le (Nat.not_lt.1 h), numeralValue_append_digit, ih (by omega),
        digitValue_digitChar (Nat.lt_of_lt_of_le hlast hdigits), Option.getD_some]
      exact Nat.div_add_mod' n base

theorem length_digitsUpTo_le {count : Nat} (hcount : n < base ^ (count + 1)) :
    (digitsUpTo base room n).length ≤ count + 1 := by
  induction count generalizing n room with
  | zero =>
    rw [Nat.pow_succ, Nat.pow_zero, Nat.one_mul] at hcount
    cases room with
    | zero => exact Nat.zero_le _
    | succ room =>
      rw [digitsUpTo_of_lt hcount, List.length_singleton]
  | succ count ih =>
    cases room with
    | zero => exact Nat.zero_le _
    | succ room =>
      by_cases h : n < base
      · rw [digitsUpTo_of_lt h, List.length_singleton]
        omega
      · have hsmaller : n / base < base ^ (count + 1) :=
          Nat.div_lt_of_lt_mul (by rwa [Nat.mul_comm, ← Nat.pow_succ])
        have hfront : (digitsUpTo base room (n / base)).length ≤ count + 1 := ih hsmaller
        rw [digitsUpTo_of_le (Nat.not_lt.1 h), List.length_append, List.length_singleton]
        omega

/-- Only zero is written with a zero in front. -/
theorem eq_zero_of_head?_digitsUpTo (hbase : 2 ≤ base) (hdigits : base ≤ 36) (hroom : n < room)
    (h : (digitsUpTo base room n).head? = some '0') : n = 0 := by
  induction room generalizing n with
  | zero => omega
  | succ room ih =>
    by_cases hn : n < base
    · rw [digitsUpTo_of_lt hn] at h
      have hzero : digitChar n = '0' := Option.some.inj h
      have hvalue := digitValue_digitChar (Nat.lt_of_lt_of_le hn hdigits)
      rw [hzero] at hvalue
      exact (Option.some.inj hvalue).symm
    · have hsmaller : n / base < n := Nat.div_lt_self (by omega) (by omega)
      have hne := (isNumeral_digitsUpTo hbase hdigits (show n / base < room by omega)).ne_nil
      rw [digitsUpTo_of_le (Nat.not_lt.1 hn), List.head?_append_of_ne_nil _ hne] at h
      have hquotient := ih (by omega) h
      rw [Nat.div_eq_zero_iff] at hquotient
      omega

/-! ## Decimal numbers -/

theorem isNumeral_decimalChars (n : Nat) : IsNumeral 10 (decimalChars n) :=
  isNumeral_digitsUpTo (by decide) (by decide) (Nat.lt_succ_self n)

theorem numeralValue_decimalChars (n : Nat) : numeralValue 10 (decimalChars n) = n :=
  numeralValue_digitsUpTo (by decide) (by decide) (Nat.lt_succ_self n)

theorem head?_decimalChars (h : (decimalChars n).head? = some '0') : n = 0 :=
  eq_zero_of_head?_digitsUpTo (by decide) (by decide) (Nat.lt_succ_self n) h

theorem decimalChars_zero : decimalChars 0 = ['0'] := rfl

/-- A decimal number without zeros in front is what its value is written as. -/
theorem decimalChars_numeralValue (h : IsNumeral 10 digits)
    (hzero : digits.head? = some '0' → digits.length = 1) :
    decimalChars (numeralValue 10 digits) = digits := by
  induction digits using List.reverseRecOn with
  | nil => exact absurd rfl h.ne_nil
  | append_singleton front c ih =>
    obtain ⟨d, hvalue, hd⟩ := isDigitOf_iff.1 (h.digits c (by simp))
    have hchar := digitChar_of_digitValue hvalue hd
    rw [numeralValue_append_digit, hvalue, Option.getD_some]
    by_cases hfront : front = []
    · subst hfront
      have hsmall : numeralValue 10 [] * 10 + d = d := Nat.zero_add d
      rw [hsmall, decimalChars, digitsUpTo_of_lt hd, hchar, List.nil_append]
    · have hhead : (front ++ [c]).head? = front.head? := List.head?_append_of_ne_nil _ hfront
      have hlength : 0 < front.length := List.length_pos_iff.2 hfront
      have hfirst : front.head? ≠ some '0' := by
        intro hhas
        have hone := hzero (hhead.trans hhas)
        rw [List.length_append, List.length_singleton] at hone
        omega
      have hdecimal := ih ⟨hfront, fun c hc => h.digits c (List.mem_append_left _ hc)⟩
        fun hhas => absurd hhas hfirst
      have hpositive : numeralValue 10 front ≠ 0 := by
        intro hnone
        rw [hnone, decimalChars_zero] at hdecimal
        exact hfirst (hdecimal ▸ rfl)
      rw [decimalChars, digitsUpTo_of_le (by omega)]
      have hquotient : (numeralValue 10 front * 10 + d) / 10 = numeralValue 10 front := by omega
      have hlast : (numeralValue 10 front * 10 + d) % 10 = d := by omega
      have hroom : digitsUpTo 10 (numeralValue 10 front * 10 + d) (numeralValue 10 front) =
          decimalChars (numeralValue 10 front) :=
        digitsUpTo_eq (by decide) (by omega) (Nat.lt_succ_self _)
      rw [hquotient, hlast, hchar, hroom, hdecimal]

end Text
end SplitHorizon
