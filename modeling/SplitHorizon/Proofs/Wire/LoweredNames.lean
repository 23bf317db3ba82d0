/-
Names and their texts in lower case.

Lowering commutes with what is done to a text before it is looked up, and with the print
of a label byte by byte.  A label in Punycode prints as other characters; whether it is in
Punycode is told by a mark at its front.
-/
import SplitHorizon.Proofs.Wire.Spelling

namespace SplitHorizon

/-! ## Normal forms of lowered texts -/

namespace Text

theorem trimFront_lowerChars (cs : List Char) :
    trimFront (lowerChars cs) = lowerChars (trimFront cs) := by
  rw [trimFront, trimFront, lowerChars, List.dropWhile_map, lowerChars]
  simp only [Function.comp_def, isBlank_lowerChar]

theorem trimChars_lowerChars (cs : List Char) :
    trimChars (lowerChars cs) = lowerChars (trimChars cs) := by
  have hreverse : ∀ ds : List Char, (lowerChars ds).reverse = lowerChars ds.reverse := fun ds =>
    (List.map_reverse).symm
  rw [trimChars, trimChars, trimBack, trimBack, trimFront_lowerChars, hreverse,
    trimFront_lowerChars, hreverse]

end Text

theorem Fqdn.normalize_lower (name : String) :
    Fqdn.normalize (Text.lower name) = Fqdn.normalize name := by
  rw [← String.toList_inj, toList_normalize, toList_normalize, Text.lower, String.toList_ofList,
    normalizeChars, normalizeChars, Text.trimChars_lowerChars, Text.lowerChars_lowerChars]

namespace Wire

open Text

/-! ## Labels -/

theorem byteText_lowerByte (isFirst : Bool) (b : UInt8) :
    byteText isFirst (lowerByte b) = lowerChars (byteText isFirst b) := by
  have hall : ∀ (isFirst : Bool) (n : Fin 256),
      byteText isFirst (lowerByte (UInt8.ofNat n.val)) =
        lowerChars (byteText isFirst (UInt8.ofNat n.val)) := by
    decide +kernel
  have hb : UInt8.ofNat b.toNat = b := UInt8.ofNat_toNat
  exact hb ▸ hall isFirst ⟨b.toNat, b.toNat_lt⟩

theorem bytesText_lower (bytes : List UInt8) :
    bytesText (bytes.map lowerByte) = lowerChars (bytesText bytes) := by
  cases bytes with
  | nil => rfl
  | cons b rest =>
    have hrest : (rest.map lowerByte).flatMap (byteText false) =
        lowerChars (rest.flatMap (byteText false)) := by
      rw [List.flatMap_map, lowerChars, List.map_flatMap]
      exact congrArg (rest.flatMap ·) (funext fun b => byteText_lowerByte false b)
    rw [List.map_cons, bytesText, bytesText, byteText_lowerByte, hrest]
    exact List.map_append.symm

/-- The label starts with the mark of Punycode, in any case. -/
def Label.IsPunycode (label : Label) : Prop :=
  acePrefixBytes.isPrefixOf label.lower.bytes = true

theorem Label.IsPunycode.of_prefix {label : Label}
    (h : acePrefixBytes.isPrefixOf label.bytes = true) : label.IsPunycode := by
  obtain ⟨rest, hrest⟩ := List.isPrefixOf_iff_prefix.1 h
  have hlower : label.lower.bytes = (acePrefixBytes ++ rest).map lowerByte :=
    congrArg (List.map lowerByte) hrest.symm
  rw [List.map_append] at hlower
  exact List.isPrefixOf_iff_prefix.2 ⟨rest.map lowerByte, hlower.symm⟩

end Wire
end SplitHorizon
