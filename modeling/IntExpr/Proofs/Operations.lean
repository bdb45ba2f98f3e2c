/-
This file proves that the operations are exact on unbounded integers. Division goes toward zero:
it leaves the one remainder that is smaller than the divisor and whose sign is that of the
dividend. A shift to the right rounds down at every count, also where it does not look at the
digits any more. The bitwise operators act on each binary digit alone, where a negative integer is
an endless row of ones to the left. And an operation is refused in no other cases than a division
by zero, a shift by a negative count, and a shift of a nonzero integer to the left by a count above
the limit.
-/

import IntExpr.Proofs.Failures
import Mathlib.Data.Nat.Bitwise
import Mathlib.Data.Rat.Floor

namespace IntExpr

namespace Arithmetic

/-! ### Quotients -/

/-- Dividing the magnitudes and setting the sign is division toward zero. -/
theorem truncatingDivide_eq_tdiv (dividend divisor : Int) :
    truncatingDivide dividend divisor = dividend.tdiv divisor := by
  have magnitudes : (dividend.natAbs / divisor.natAbs : Int) = |dividend|.tdiv |divisor| := by
    rw [Int.natCast_natAbs, Int.natCast_natAbs, Int.tdiv_eq_ediv_of_nonneg (abs_nonneg dividend)]
  rw [truncatingDivide, magnitudes]
  rcases lt_or_ge dividend 0 with negative | positive <;>
    rcases lt_or_ge divisor 0 with divisorNegative | divisorPositive
  · simp [negative, divisorNegative, abs_of_neg]
  · simp [negative, divisorPositive, abs_of_neg, abs_of_nonneg, Int.not_lt.2]
  · simp [positive, divisorNegative, abs_of_neg, abs_of_nonneg, Int.not_lt.2]
  · simp [positive, divisorPositive, abs_of_nonneg, Int.not_lt.2]

/-- A quotient toward zero is the one that leaves a remainder which is smaller than the divisor and
has the sign of the dividend. -/
theorem eq_tdiv_iff {dividend divisor quotient : Int} :
    (divisor ≠ 0 ∧ dividend.tdiv divisor = quotient) ↔
      ∃ remainder, dividend = quotient * divisor + remainder ∧
        remainder.natAbs < divisor.natAbs ∧
        (remainder = 0 ∨ remainder.sign = dividend.sign) := by
  constructor
  · rintro ⟨nonzero, rfl⟩
    refine ⟨dividend.tmod divisor, ?_, ?_, ?_⟩
    · rw [Int.mul_comm, Int.mul_tdiv_add_tmod]
    · rw [Int.natAbs_tmod]
      exact Nat.mod_lt _ (Int.natAbs_pos.2 nonzero)
    · by_cases divides : divisor ∣ dividend
      · exact .inl (Int.tmod_eq_zero_of_dvd divides)
      · exact .inr (by rw [Int.sign_tmod, if_neg divides])
  · rintro ⟨remainder, split, small, sign⟩
    have nonzero : divisor ≠ 0 := by
      rintro rfl
      exact Nat.not_lt_zero _ small
    have sum : remainder + divisor * quotient = dividend := by
      rw [split, Int.mul_comm, Int.add_comm]
    -- A remainder may have either sign, so the quotient is found on each side of zero by itself.
    rcases Int.le_total 0 dividend with positive | negative
    · have notBelow : 0 ≤ remainder := by
        rcases sign with rfl | same
        · exact Int.le_refl 0
        · rwa [← Int.sign_nonneg_iff, same, Int.sign_nonneg_iff]
      exact ⟨nonzero,
        ((Int.tdiv_tmod_unique positive nonzero).2 ⟨sum, notBelow, by omega⟩).1⟩
    · have notAbove : remainder ≤ 0 := by
        rcases sign with rfl | same
        · exact Int.le_refl 0
        · rwa [← Int.sign_nonpos_iff, same, Int.sign_nonpos_iff]
      exact ⟨nonzero,
        ((Int.tdiv_tmod_unique' negative nonzero).2 ⟨sum, by omega, notAbove⟩).1⟩

/-! ### Shifts to the right -/

theorem natAbs_lt_of_bitLength_le {value : Int} {count : Nat} (gone : bitLength value ≤ count) :
    value.natAbs < 2 ^ count := by
  unfold bitLength at gone
  split at gone
  · rename_i zero
    rw [zero, Int.natAbs_zero]
    exact Nat.two_pow_pos count
  · rename_i nonzero
    exact (Nat.log2_lt (Int.natAbs_ne_zero.2 nonzero)).1 gone

/-- A shift to the right is a division that rounds down, whether or not it looks at the digits. -/
theorem shiftRight_eq_div (value : Int) (count : Nat) :
    shiftRight value count = value / (2 ^ count : Nat) := by
  have positive : (0 : Int) < (2 ^ count : Nat) := Int.natCast_pos.2 (Nat.two_pow_pos count)
  unfold shiftRight
  split
  · rename_i gone
    have small := natAbs_lt_of_bitLength_le gone
    split
    · rename_i negative
      refine (Int.ediv_eq_iff_of_pos positive).2 ?_ |>.symm
      omega
    · rename_i notNegative
      exact (Int.ediv_eq_zero_of_lt (by omega) (by omega)).symm
  · exact Int.fdiv_eq_ediv_of_nonneg value (Int.le_of_lt positive)

theorem shiftRight_eq_floor (value : Int) (count : Nat) :
    shiftRight value count = ⌊(value : ℚ) / 2 ^ count⌋ := by
  have floor := Rat.floor_intCast_div_natCast value (2 ^ count)
  rw [Nat.cast_pow, Nat.cast_ofNat] at floor
  rw [shiftRight_eq_div, floor]

/-! ### Binary digits -/

/-- The digit of an integer at a binary position. To the left the row of digits has no end: there
they are all zeros, or all ones for a negative integer. -/
def bit (value : Int) (position : Nat) : Bool :=
  value / (2 ^ position : Nat) % 2 = 1

@[simp] theorem bit_ofNat (magnitude position : Nat) :
    bit (.ofNat magnitude) position = magnitude.testBit position := by
  rw [bit, Nat.testBit_eq_decide_div_mod_eq, Int.ofNat_eq_natCast]
  congr 1
  norm_cast

@[simp] theorem bit_negSucc (magnitude position : Nat) :
    bit (.negSucc magnitude) position = !magnitude.testBit position := by
  have positive : (0 : Int) < (2 ^ position : Nat) := Int.natCast_pos.2 (Nat.two_pow_pos position)
  have quotient : Int.negSucc magnitude / (2 ^ position : Nat) =
      -((magnitude / 2 ^ position : Nat) + 1 : Int) := Int.negSucc_ediv magnitude positive
  rw [bit, quotient, Nat.testBit_eq_decide_div_mod_eq, ← decide_not, decide_eq_decide]
  omega

/-- No two integers have the same digits. -/
theorem eq_of_bit_eq {first second : Int}
    (same : ∀ position, bit first position = bit second position) : first = second := by
  -- Far enough to the left a digit tells the sign.
  have differ (positive negative : Nat) :
      ¬ ∀ position, positive.testBit position = !negative.testBit position := by
    intro same
    have far := same (positive + negative)
    have within (magnitude : Nat) (bound : magnitude ≤ positive + negative) :
        magnitude.testBit (positive + negative) = false :=
      Nat.testBit_lt_two_pow (bound.trans_lt Nat.lt_two_pow_self)
    rw [within positive (Nat.le_add_right _ _), within negative (Nat.le_add_left _ _)] at far
    exact Bool.false_ne_true far
  cases first with
  | ofNat first =>
    cases second with
    | ofNat second =>
      simp only [bit_ofNat] at same
      exact congrArg Int.ofNat (Nat.eq_of_testBit_eq same)
    | negSucc second =>
      simp only [bit_ofNat, bit_negSucc] at same
      exact absurd same (differ first second)
  | negSucc first =>
    cases second with
    | ofNat second =>
      simp only [bit_ofNat, bit_negSucc] at same
      exact absurd (fun position => (same position).symm) (differ second first)
    | negSucc second =>
      simp only [bit_negSucc, Bool.not_inj_iff] at same
      exact congrArg Int.negSucc (Nat.eq_of_testBit_eq same)

@[simp] theorem bit_bitAnd (first second : Int) (position : Nat) :
    bit (bitAnd first second) position = (bit first position && bit second position) := by
  cases first <;> cases second <;>
    simp only [bitAnd, bit_ofNat, bit_negSucc, Nat.testBit_and, Nat.testBit_or, Nat.testBit_xor,
      Bool.not_or] <;>
    cases Nat.testBit _ position <;> cases Nat.testBit _ position <;> rfl

@[simp] theorem bit_bitOr (first second : Int) (position : Nat) :
    bit (bitOr first second) position = (bit first position || bit second position) := by
  cases first <;> cases second <;>
    simp only [bitOr, bit_ofNat, bit_negSucc, Nat.testBit_and, Nat.testBit_or, Nat.testBit_xor,
      Bool.not_and] <;>
    cases Nat.testBit _ position <;> cases Nat.testBit _ position <;> rfl

end Arithmetic

/-! ### Operators -/

namespace Operator

open Arithmetic

variable {first second value : Int}

theorem divide_eq_ok_iff :
    divide.apply first second = .ok value ↔
      ∃ remainder, first = value * second + remainder ∧ remainder.natAbs < second.natAbs ∧
        (remainder = 0 ∨ remainder.sign = first.sign) := by
  rw [← eq_tdiv_iff, apply, truncatingDivide_eq_tdiv]
  split
  · rename_i zero
    simp [zero]
  · rename_i nonzero
    simp [nonzero]

theorem shiftRight_eq_ok_iff :
    shiftRight.apply first second = .ok value ↔
      0 ≤ second ∧ value = ⌊(first : ℚ) / 2 ^ second.toNat⌋ := by
  rw [apply, ← shiftRight_eq_floor]
  split
  · rename_i negative
    simp [Int.not_le.2 negative]
  · rename_i notNegative
    simp [Int.not_lt.1 notNegative, eq_comm]

theorem shiftLeft_eq_ok_iff :
    shiftLeft.apply first second = .ok value ↔
      0 ≤ second ∧ (first = 0 ∨ second ≤ 4096) ∧ value = first * 2 ^ second.toNat := by
  rw [apply]
  split_ifs with negative zero large
  · simp [Int.not_le.2 negative]
  · simp [Int.not_lt.1 negative, zero, eq_comm]
  · have above : ¬ second ≤ 4096 := Int.not_le.2 large
    simp [zero, above]
  · have within : second ≤ 4096 := Int.not_lt.1 large
    simp [Int.not_lt.1 negative, within, eq_comm]

theorem bitAnd_eq_ok_iff :
    bitAnd.apply first second = .ok value ↔
      ∀ position, bit value position = (bit first position && bit second position) := by
  simp only [apply, Except.ok.injEq, ← bit_bitAnd]
  constructor
  · rintro rfl position
    rfl
  · exact fun same => (eq_of_bit_eq same).symm

theorem bitOr_eq_ok_iff :
    bitOr.apply first second = .ok value ↔
      ∀ position, bit value position = (bit first position || bit second position) := by
  simp only [apply, Except.ok.injEq, ← bit_bitOr]
  constructor
  · rintro rfl position
    rfl
  · exact fun same => (eq_of_bit_eq same).symm

theorem apply_eq_error_iff {op : Operator} {refusal : Refusal} :
    op.apply first second = .error refusal ↔
      (op = .divide ∧ second = 0 ∧ refusal = .zeroDivisor) ∨
        ((op = .shiftLeft ∨ op = .shiftRight) ∧ second < 0 ∧
          refusal = .negativeShift second) ∨
        op = .shiftLeft ∧ first ≠ 0 ∧ 4096 < second ∧ refusal = .shiftTooLarge second := by
  refine ⟨refusal_cases, ?_⟩
  rintro (⟨rfl, rfl, rfl⟩ | ⟨rfl | rfl, negative, rfl⟩ | ⟨rfl, nonzero, large, rfl⟩)
  · rfl
  · rw [apply, if_pos negative]
  · rw [apply, if_pos negative]
  · have notNegative : ¬ second < 0 := by omega
    have above : (shiftLimit : Int) < second := large
    rw [apply, if_neg notNegative, if_neg nonzero, if_pos above]

/-- The operators are exact on all integers. A quotient leaves a remainder that is smaller than
the divisor and has the sign of the dividend; a shift to the right rounds down, at every count as
if all digits were looked at; a shift to the left multiplies by a power of two; the bitwise
operators act on each digit alone; and no other operations are refused than those listed. -/
theorem exact_on_integers (first second : Int) :
    (∀ quotient, divide.apply first second = .ok quotient ↔
      ∃ remainder, first = quotient * second + remainder ∧
        remainder.natAbs < second.natAbs ∧ (remainder = 0 ∨ remainder.sign = first.sign)) ∧
    (∀ value, shiftRight.apply first second = .ok value ↔
      0 ≤ second ∧ value = ⌊(first : ℚ) / 2 ^ second.toNat⌋) ∧
    (∀ count : Nat, Arithmetic.shiftRight first count = first >>> count) ∧
    (∀ value, shiftLeft.apply first second = .ok value ↔
      0 ≤ second ∧ (first = 0 ∨ second ≤ 4096) ∧ value = first * 2 ^ second.toNat) ∧
    (∀ value, bitAnd.apply first second = .ok value ↔
      ∀ position, bit value position = (bit first position && bit second position)) ∧
    (∀ value, bitOr.apply first second = .ok value ↔
      ∀ position, bit value position = (bit first position || bit second position)) ∧
    ∀ (op : Operator) (refusal : Refusal), op.apply first second = .error refusal ↔
      (op = .divide ∧ second = 0 ∧ refusal = .zeroDivisor) ∨
        ((op = .shiftLeft ∨ op = .shiftRight) ∧ second < 0 ∧
          refusal = .negativeShift second) ∨
        op = .shiftLeft ∧ first ≠ 0 ∧ 4096 < second ∧ refusal = .shiftTooLarge second := by
  refine ⟨fun quotient => divide_eq_ok_iff, fun value => shiftRight_eq_ok_iff, fun count => ?_,
    fun value => shiftLeft_eq_ok_iff, fun value => bitAnd_eq_ok_iff,
    fun value => bitOr_eq_ok_iff, fun op refusal => apply_eq_error_iff⟩
  rw [shiftRight_eq_div, Int.shiftRight_eq_div_pow]

/-- A quotient goes toward zero where a shift goes down. -/
example : divide.apply (-7) 2 = .ok (-3) ∧ shiftRight.apply (-7) 1 = .ok (-4) := ⟨rfl, rfl⟩

end Operator

end IntExpr
