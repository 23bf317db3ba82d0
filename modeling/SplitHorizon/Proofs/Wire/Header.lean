/-
Written headers read back.

Of a response code only the low half stands in the header; everything else comes
back as it was.
-/
import SplitHorizon.Proofs.Wire.Reading
import SplitHorizon.Wire.Header

namespace SplitHorizon
namespace Wire

namespace ResponseCode

/-- The code as far as a header carries it. -/
def inHeader (code : ResponseCode) : ResponseCode :=
  ofParts 0 code.low

theorem inHeader_of_lt {code : ResponseCode} (h : code.val < 16) : code.inHeader = code := by
  apply Fin.ext
  change 0 * 16 + code.val % 16 = code.val
  omega

theorem noError_lt : noError.val < 16 := by
  decide

theorem serverFailure_lt : serverFailure.val < 16 := by
  decide

theorem inHeader_inHeader (code : ResponseCode) : code.inHeader.inHeader = code.inHeader := by
  refine inHeader_of_lt ?_
  change 0 * 16 + code.val % 16 < 16
  omega

end ResponseCode

namespace Header

variable {message : List UInt8} {pos : Nat}

theorem ofFlags_flagBytes (header : Header) {high low : UInt8}
    (h : header.flagBytes = [high, low]) :
    ofFlags header.id high low = { header with code := header.code.inHeader } := by
  obtain ⟨id, isResponse, opcode, authoritative, truncated, desired, available, disabled, code⟩ :=
    header
  -- Each flag is a number of at most one, times its weight; what is read back is that number.
  have hweight : ∀ (b : Bool) (weight : Nat), (if b then weight else 0) = weight * b.toNat := by
    intro b weight
    cases b with
    | false => rfl
    | true => exact (Nat.mul_one weight).symm
  have hle : ∀ b : Bool, b.toNat ≤ 1 := Bool.toNat_le
  have hflag : ∀ (b : Bool) (n : Nat), n = b.toNat → decide (n = 1) = b := by
    rintro b _ rfl
    cases b with
    | false => rfl
    | true => rfl
  have hopcode : opcode.val < 16 := opcode.isLt
  have hcode : code.low.val < 16 := code.low.isLt
  have h₁ := hle isResponse
  have h₂ := hle authoritative
  have h₃ := hle truncated
  have h₄ := hle desired
  have h₅ := hle available
  have h₆ := hle disabled
  simp only [flagBytes, List.cons.injEq, and_true, hweight] at h
  obtain ⟨rfl, rfl⟩ := h
  simp only [ofFlags, Header.mk.injEq, true_and, Nat.testBit_eq_decide_div_mod_eq,
    UInt8.toNat_ofNat']
  refine ⟨hflag _ _ (by omega), Fin.ext ?_, hflag _ _ (by omega), hflag _ _ (by omega),
    hflag _ _ (by omega), hflag _ _ (by omega), hflag _ _ (by omega), ?_⟩
  · rw [Fin.val_ofNat]
    omega
  · refine congrArg (ResponseCode.ofParts 0) (Fin.ext ?_)
    rw [Fin.val_ofNat]
    omega

theorem length_bytes (header : Header) (counts : Counts) :
    (header.bytes counts).length = size := rfl

/-- The header and counts that can be told from the bytes of a header. -/
theorem reads_bytes {header : Header} {counts : Counts} (hquestions : counts.questions < 65536)
    (hanswers : counts.answers < 65536) (hauthorities : counts.authorities < 65536)
    (hadditionals : counts.additionals < 65536)
    (hstands : StandsAt message pos (header.bytes counts)) :
    Reads message read pos ({ header with code := header.code.inHeader }, counts) (pos + size) := by
  have hcount : ∀ {n : Nat}, n < 65536 → (UInt16.ofNat n).toNat = n := by
    intro n hn
    rw [UInt16.toNat_ofNat']
    exact Nat.mod_eq_of_lt hn
  obtain ⟨questions, answers, authorities, additionals⟩ := counts
  rw [bytes] at hstands
  have hid := hstands.left.left.left.left.left
  have hflags := hstands.left.left.left.left.right
  have hread : Reads message read pos _ (pos + size) :=
    Reads.bind (Reads.word16 hid) <|
      Reads.bind (Reads.byte (StandsAt.head hflags)) <|
      Reads.bind (Reads.byte (StandsAt.tail hflags)) <|
      Reads.bind (Reads.word16 hstands.left.left.left.right) <|
      Reads.bind (Reads.word16 hstands.left.left.right) <|
      Reads.bind (Reads.word16 hstands.left.right) <|
      Reads.bind (Reads.word16 hstands.right) (Reads.pure _)
  rwa [ofFlags_flagBytes header rfl, hcount hquestions, hcount hanswers, hcount hauthorities,
    hcount hadditionals] at hread

end Header
end Wire
end SplitHorizon
