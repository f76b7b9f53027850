import Mathlib.Data.List.TakeWhile
import StatementPad.Json.Token

/-! # Numbers that are read back

The decimal form of a number that a word of 64 bits can hold is read back as that number: it has no zero in
front, and it is far from what is out of range.
-/
namespace StatementPad
open Text Text.Decimal

namespace Text.Decimal

theorem value_write (n : Nat) : value (write n) = n := Nat.ofDigitChars_toDigits (by decide) (by decide)

theorem isDigit_of_mem_write {n : Nat} {c : Char} (h : c ∈ write n) : c.isDigit = true :=
  Nat.isDigit_of_mem_toDigits (by decide) (by decide) h

theorem write_ne_nil (n : Nat) : write n ≠ [] := Nat.toDigits_ne_nil

/-- Only a single digit may be a zero in front. -/
theorem head_write_ne_zero {n : Nat} (h : 1 < (write n).length) : (write n).head? ≠ some '0' := by
  induction n using Nat.strongRecOn with
  | _ n ih =>
    rcases Nat.lt_or_ge n 10 with hn | hn
    · rw [write, Nat.toDigits_of_lt_base hn] at h
      cases h with
      | step h => cases h
    · have hsplit : write n = write (n / 10) ++ [(n % 10).digitChar] := Nat.toDigits_of_base_le (by decide) hn
      obtain ⟨c,rest,hc⟩ := List.exists_cons_of_ne_nil (write_ne_nil (n / 10))
      have hhead : (write n).head? = (write (n / 10)).head? := by rw [hsplit, hc]; rfl
      rw [hhead]
      rcases Nat.lt_or_ge (n / 10) 10 with hq | hq
      · rw [write, Nat.toDigits_of_lt_base hq, List.head?_cons]
        have hpos : 1 ≤ n / 10 := by omega
        have hdigit : ∀ d < 10, 1 ≤ d → some (Nat.digitChar d) ≠ some '0' := by decide
        exact hdigit _ hq hpos
      · refine ih (n / 10) (by omega) ?_
        have hlong : ¬ (write (n / 10)).length ≤ 1 := by
          rw [write, Nat.length_toDigits_le_iff (by decide) (by decide)]
          omega
        omega

theorem le_value (digits : Text) (n : Nat) : n ≤ Nat.ofDigitChars 10 digits n := by
  induction digits generalizing n with
  | nil => exact le_rfl
  | cons digit rest ih =>
    refine le_trans ?_ (ih (10 * n + (digit.toNat - '0'.toNat)))
    omega

end Text.Decimal

namespace Json

theorem appendDigits_of_lt {digits : Text} {n : Nat} (h : Nat.ofDigitChars 10 digits n < wordBound) :
    appendDigits n digits = (Nat.ofDigitChars 10 digits n,[]) := by
  induction digits generalizing n with
  | nil => rfl
  | cons digit rest ih =>
    have hnext : 10 * n + (digit.toNat - '0'.toNat) < wordBound := (le_value rest _).trans_lt h
    rw [appendDigits, if_pos hnext]
    exact ih h

/-- Rounding at most doubles a number. -/
theorem roundBits_le (n : Nat) : roundBits n ≤ 2 * n := by
  have hunit : n ≠ 0 → Nat.pow 2 (Nat.log2 n - 52) ≤ n := fun h =>
    (Nat.pow_le_pow_right (by decide) (Nat.sub_le ..)).trans (Nat.log2_self_le h)
  rcases Nat.eq_zero_or_pos n with rfl | hpos
  · decide
  · have hunit := hunit hpos.ne'
    have hmul := Nat.div_mul_le_self n (Nat.pow 2 (Nat.log2 n - 52))
    simp only [roundBits]
    split
    · rw [Nat.add_mul, Nat.one_mul]
      omega
    · omega

theorem not_outOfRange {digits : Text} (h : value digits < wordBound) : outOfRange digits [] 0 = false := by
  have happend : appendDigits 0 digits = (value digits,[]) := appendDigits_of_lt h
  have hround := roundBits_le (value digits)
  have hone : roundBits (Nat.pow 10 0) = 1 := by decide
  have hfar : 2 * wordBound < infiniteBound := by decide +kernel
  simp only [outOfRange, happend, appendDigits]
  split
  · rfl
  · rw [if_neg (by simp [maxExponent])]
    change decide (infiniteBound ≤ roundBits (value digits) * roundBits (Nat.pow 10 0)) = false
    rw [hone, Nat.mul_one, decide_eq_false_iff_not]
    omega

theorem number?_write {n : Nat} (h : n < wordBound) : number? (Decimal.write n) = some (.integer n) := by
  have hdigits : ∀ c ∈ Decimal.write n, c.isDigit = true := fun c => isDigit_of_mem_write
  have hwhole : (Decimal.write n).takeWhile Char.isDigit = Decimal.write n := List.takeWhile_eq_self_iff.mpr hdigits
  have hrest : (Decimal.write n).dropWhile Char.isDigit = [] := List.dropWhile_eq_nil_iff.mpr hdigits
  have hplus : ((Decimal.write n).head? == some '-') = false := by
    cases hw : Decimal.write n with
    | nil => rfl
    | cons c rest =>
      have hc := hdigits c (by simp [hw])
      rw [beq_eq_false_iff_ne, List.head?_cons]
      rintro ⟨⟩
      cases hc
  have hzero : ((Decimal.write n).isEmpty ||
      (Decimal.write n).head? == some '0' && decide (1 < (Decimal.write n).length)) = false := by
    rw [List.isEmpty_eq_false_iff.mpr (write_ne_nil n), Bool.false_or, Bool.and_eq_false_iff]
    by_cases hl : 1 < (Decimal.write n).length
    · exact .inl (beq_eq_false_iff_ne.mpr (head_write_ne_zero hl))
    · exact .inr (decide_eq_false hl)
  have hrange : outOfRange (Decimal.write n) [] 0 = false := not_outOfRange (by rwa [value_write])
  simp only [number?, hplus, Bool.false_eq_true, if_false, hwhole, hrest, hzero, places?, exponent?,
    Option.bind_eq_bind, Option.bind_some, hrange, List.isEmpty_nil, Bool.not_true, Bool.not_false, if_true,
    value_write]

end Json
end StatementPad
