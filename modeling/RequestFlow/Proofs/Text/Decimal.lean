import Mathlib.Data.List.Induction
import RequestFlow.Text.Ascii

/-!
Contract: decimal digits and the numbers that they write.

Owns: the value of the decimal text of a number; and the one way in which other digits can
write the same number, which is by zeros in front of it.
-/

namespace RequestFlow.Text

theorem isDigit_eq (char : Char) : isDigit char = char.isDigit := by
  simp only [isDigit, Char.isDigit, Char.le_def]

theorem digitsValue_eq (digits : List Char) :
    digitsValue digits = Nat.ofDigitChars 10 digits 0 := by
  simp only [digitsValue, Nat.ofDigitChars, Nat.mul_comm, digitValue]

theorem digitsValue_concat (digits : List Char) (digit : Char) :
    digitsValue (digits ++ [digit]) = 10 * digitsValue digits + digitValue digit := by
  rw [digitsValue, List.foldl_append, List.foldl_cons, List.foldl_nil, Nat.mul_comm]
  rfl

/-- Zeros in front do not count. -/
theorem digitsValue_zeros_natDigits (zeros value : Nat) :
    digitsValue (List.replicate zeros '0' ++ natDigits 10 value) = value := by
  rw [digitsValue_eq, Nat.ofDigitChars_append, Nat.ofDigitChars_replicate_zero, Nat.mul_zero,
    natDigits, Nat.ofDigitChars_ten_toDigits]

theorem isDigit_of_mem_natDigits {value : Nat} {char : Char}
    (member : char ∈ natDigits 10 value) : isDigit char = true := by
  rw [isDigit_eq]
  exact Nat.isDigit_of_mem_toDigits (by decide) (by decide) member

theorem natDigits_ne_nil (value : Nat) : natDigits 10 value ≠ [] := Nat.toDigits_ne_nil

/-- Only zero has a text that starts with a zero. -/
theorem head?_natDigits {value : Nat} (positive : 0 < value) :
    (natDigits 10 value).head? ≠ some '0' := by
  induction value using Nat.strongRecOn with
  | ind value inductionHypothesis =>
      rw [natDigits, Nat.toDigits_eq_if (by decide)]
      split
      case isTrue small => simp; omega
      case isFalse large =>
        have shorter := inductionHypothesis (value / 10) (by omega) (by omega)
        have nonempty := natDigits_ne_nil (value / 10)
        unfold natDigits at shorter nonempty
        cases front : Nat.toDigits 10 (value / 10) with
        | nil => exact absurd front nonempty
        | cons first rest => rwa [front] at shorter

theorem digitValue_bounds {digit : Char} (isOne : isDigit digit = true) :
    digitValue digit < 10 ∧ 48 + digitValue digit = digit.toNat := by
  have bounds : 48 ≤ digit.toNat ∧ digit.toNat ≤ 57 :=
    Char.isDigit_iff_toNat.1 ((isDigit_eq digit).symm.trans isOne)
  have value : digitValue digit = digit.toNat - 48 := rfl
  omega

theorem natDigits_digitValue {digit : Char} (isOne : isDigit digit = true) :
    natDigits 10 (digitValue digit) = [digit] := by
  obtain ⟨small, place⟩ := digitValue_bounds isOne
  rw [natDigits, Nat.toDigits_of_lt_base small, List.singleton_inj, ← Char.toNat_inj,
    Nat.toNat_digitChar_of_lt_ten small, place]

/-- Digits write a number by its decimal text, with some zeros in front. -/
theorem exists_zeros_natDigits {digits : List Char} (nonempty : digits ≠ [])
    (allDigits : ∀ char ∈ digits, isDigit char = true) :
    ∃ zeros, digits = List.replicate zeros '0' ++ natDigits 10 (digitsValue digits) := by
  induction digits using List.reverseRecOn with
  | nil => exact absurd rfl nonempty
  | append_singleton front digit inductionHypothesis =>
      have last : isDigit digit = true := allDigits digit (by simp)
      have before : ∀ char ∈ front, isDigit char = true := fun char member =>
        allDigits char (by simp [member])
      rw [digitsValue_concat]
      by_cases isEmpty : front = []
      · subst isEmpty
        refine ⟨0, (natDigits_digitValue last).symm.trans ?_⟩
        rw [show digitsValue [] = 0 from rfl, Nat.mul_zero, Nat.zero_add]
        rfl
      obtain ⟨zeros, split⟩ := inductionHypothesis isEmpty before
      rcases Nat.eq_zero_or_pos (digitsValue front) with isZero | positive
      · -- The digits in front are zeros, down to the one that is the text of zero.
        refine ⟨zeros + 1, ?_⟩
        rw [isZero] at split ⊢
        rw [split, Nat.mul_zero, Nat.zero_add, natDigits_digitValue last, List.replicate_succ']
        rfl
      · refine ⟨zeros, ?_⟩
        have joined := Nat.toDigits_append_toDigits (by decide) positive (digitValue_bounds last).1
        unfold natDigits at split
        rw [natDigits, ← joined, ← List.append_assoc, ← split, ← natDigits,
          natDigits_digitValue last]

/-- The texts of a number in digits are its decimal text and those with zeros in front of it. -/
theorem digits_write_iff {digits : List Char} {value : Nat} :
    (digits ≠ [] ∧ (∀ char ∈ digits, isDigit char = true) ∧ digitsValue digits = value) ↔
      ∃ zeros, digits = List.replicate zeros '0' ++ natDigits 10 value := by
  constructor
  · rintro ⟨nonempty, allDigits, rfl⟩
    exact exists_zeros_natDigits nonempty allDigits
  · rintro ⟨zeros, rfl⟩
    refine ⟨fun empty => ?_, fun char member => ?_, digitsValue_zeros_natDigits zeros value⟩
    · exact natDigits_ne_nil value (List.append_eq_nil_iff.1 empty).2
    · rcases List.mem_append.1 member with isZero | inText
      · rw [List.eq_of_mem_replicate isZero]
        rfl
      · exact isDigit_of_mem_natDigits inText

end RequestFlow.Text
