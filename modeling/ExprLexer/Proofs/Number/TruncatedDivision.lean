import ExprLexer.Proofs.Number.ExactRuns
import Mathlib.Data.Rat.Floor
import Mathlib.Tactic.Positivity

/-! Integers are divided with the quotient truncated toward zero. The remainder belongs to
that quotient, and is given also for the two integers whose quotient is past the range. -/

set_option autoImplicit false

namespace ExprLexer.Integer

/-! ## Remainders -/

/-- A remainder is smaller than the divisor, of the sign of the dividend unless it is
zero, and off the dividend by a multiple of the divisor. -/
structure IsRemainder (dividend divisor remainder : Int) : Prop where
  small : |remainder| < |divisor|
  sign : remainder = 0 ∨ remainder.sign = dividend.sign
  multiple : divisor ∣ dividend - remainder

section Whole

variable {dividend divisor first second : Int}

theorem isRemainder_tmod (dividend : Int) (nonzero : divisor ≠ 0) :
    IsRemainder dividend divisor (dividend.tmod divisor) := by
  refine ⟨?_, ?_, Int.dvd_self_sub_tmod⟩
  · rw [Int.abs_eq_natAbs, Int.abs_eq_natAbs, Int.natAbs_tmod, Nat.cast_lt]
    exact Nat.mod_lt _ (Int.natAbs_pos.mpr nonzero)
  · by_cases divides : divisor ∣ dividend
    · exact .inl (Int.tmod_eq_zero_of_dvd divides)
    · right
      rw [Int.sign_tmod, if_neg divides]

theorem IsRemainder.abs_sub_lt (left : IsRemainder dividend divisor first)
    (right : IsRemainder dividend divisor second) : |first - second| < |divisor| := by
  obtain ⟨leftSmall, leftSign, -⟩ := left
  obtain ⟨rightSmall, rightSign, -⟩ := right
  rw [abs_lt] at leftSmall rightSmall ⊢
  rcases leftSign with rfl | leftSign
  · omega
  · rcases rightSign with rfl | rightSign
    · omega
    · rcases lt_trichotomy dividend 0 with negative | rfl | positive
      · rw [Int.sign_eq_neg_one_of_neg negative, Int.sign_eq_neg_one_iff_neg] at leftSign rightSign
        omega
      · rw [Int.sign_zero, Int.sign_eq_zero_iff_zero] at leftSign rightSign
        omega
      · rw [Int.sign_eq_one_of_pos positive, Int.sign_eq_one_iff_pos] at leftSign rightSign
        omega

theorem IsRemainder.unique (left : IsRemainder dividend divisor first)
    (right : IsRemainder dividend divisor second) : first = second := by
  have divides : divisor ∣ first - second := by
    have difference := Int.dvd_sub right.multiple left.multiple
    rwa [sub_sub_sub_cancel_left] at difference
  have none := Int.eq_zero_of_abs_lt_dvd ((abs_dvd divisor _).mpr divides) (left.abs_sub_lt right)
  exact sub_eq_zero.mp none

/-! ## Quotients -/

/-- The whole number next to a number on the side of zero. -/
def towardZero (number : ℚ) : Int := if 0 ≤ number then ⌊number⌋ else ⌈number⌉

/-- The quotient of the magnitudes, negative when only one of the two numbers is. Zero
counts as positive here. -/
def quotientOfMagnitudes (dividend divisor : Int) : Int :=
  let quotient : Int := (dividend.natAbs / divisor.natAbs : Nat)
  if 0 ≤ dividend ↔ 0 ≤ divisor then quotient else -quotient

theorem towardZero_neg (number : ℚ) : towardZero (-number) = -towardZero number := by
  unfold towardZero
  rcases lt_trichotomy number 0 with negative | rfl | positive
  · rw [if_pos (by linarith), if_neg (by linarith), Int.floor_neg]
  · simp
  · rw [if_neg (by linarith), if_pos positive.le, Int.ceil_neg]

theorem towardZero_natCast_div (dividend divisor : Nat) :
    towardZero ((dividend : ℚ) / divisor) = (dividend : Int).tdiv divisor := by
  rw [towardZero, if_pos (by positivity), Rat.floor_natCast_div_natCast]
  rfl

theorem towardZero_div (dividend divisor : Int) :
    towardZero ((dividend : ℚ) / divisor) = dividend.tdiv divisor := by
  obtain ⟨dividend, rfl | rfl⟩ := dividend.eq_nat_or_neg <;>
    obtain ⟨divisor, rfl | rfl⟩ := divisor.eq_nat_or_neg <;>
    push_cast <;>
    simp only [neg_div, div_neg, towardZero_neg, Int.neg_tdiv, Int.tdiv_neg,
      towardZero_natCast_div]

theorem quotientOfMagnitudes_eq (dividend divisor : Int) :
    quotientOfMagnitudes dividend divisor = dividend.tdiv divisor := by
  unfold quotientOfMagnitudes
  by_cases dividendSign : 0 ≤ dividend
  · obtain ⟨dividend, rfl⟩ := Int.eq_ofNat_of_zero_le dividendSign
    by_cases divisorSign : 0 ≤ divisor
    · obtain ⟨divisor, rfl⟩ := Int.eq_ofNat_of_zero_le divisorSign
      rw [if_pos (iff_of_true dividendSign divisorSign)]
      rfl
    · obtain ⟨divisor, rfl⟩ := Int.exists_eq_neg_ofNat (Int.le_of_not_le divisorSign)
      rw [if_neg (by tauto), Int.tdiv_neg, Int.natAbs_neg]
      rfl
  · obtain ⟨dividend, rfl⟩ := Int.exists_eq_neg_ofNat (Int.le_of_not_le dividendSign)
    by_cases divisorSign : 0 ≤ divisor
    · obtain ⟨divisor, rfl⟩ := Int.eq_ofNat_of_zero_le divisorSign
      rw [if_neg (by tauto), Int.neg_tdiv, Int.natAbs_neg]
      rfl
    · obtain ⟨divisor, rfl⟩ := Int.exists_eq_neg_ofNat (Int.le_of_not_le divisorSign)
      rw [if_pos (iff_of_false dividendSign divisorSign), Int.neg_tdiv, Int.tdiv_neg,
        Int.natAbs_neg, Int.natAbs_neg, neg_neg]
      rfl

end Whole

/-! ## Checked division -/

section Checked

variable {left right : Integer}

theorem div_of_zero (zero : right.value = 0) : left.div right = .error .divisionByZero :=
  if_pos zero

theorem mod_of_zero (zero : right.value = 0) : left.mod right = .error .divisionByZero :=
  if_pos zero

theorem div_of_ne_zero (nonzero : right.value ≠ 0) :
    left.div right = ofInt (left.value.tdiv right.value) :=
  if_neg nonzero

theorem mod_of_ne_zero (left : Integer) (nonzero : right.value ≠ 0) :
    ∃ inRange, left.mod right = .ok ⟨left.value.tmod right.value, inRange⟩ := by
  have remainder := isRemainder_tmod left.value nonzero
  have divisor := right.natAbs_le
  have inRange : InRange (left.value.tmod right.value) := by
    have small := remainder.small
    rw [Int.abs_eq_natAbs, Int.abs_eq_natAbs] at small
    simp only [InRange, least, greatest]
    omega
  refine ⟨inRange, ?_⟩
  rw [mod, if_neg nonzero, ← Int.tmod_def, ofInt_of_inRange inRange]

/-- Only the least integer divided by minus one has a quotient past the range. -/
theorem inRange_tdiv_iff (nonzero : right.value ≠ 0) :
    InRange (left.value.tdiv right.value) ↔ ¬(left.value = least ∧ right.value = -1) := by
  have range := left.inRange
  simp only [InRange, least, greatest] at range ⊢
  by_cases unit : right.value.natAbs = 1
  · obtain one | minusOne : right.value = 1 ∨ right.value = -1 := by omega
    · rw [one, Int.tdiv_one]
      omega
    · rw [minusOne, Int.tdiv_neg, Int.tdiv_one]
      omega
  · have half : left.value.natAbs / right.value.natAbs ≤ left.value.natAbs / 2 :=
      Nat.div_le_div_left (by omega) (by decide)
    have quotient : (left.value.tdiv right.value).natAbs =
        left.value.natAbs / right.value.natAbs := Int.natAbs_tdiv _ _
    omega

theorem eq_of_neg_eq_ok {integer negated : Integer} (negates : integer.neg = .ok negated) :
    negated.value = -integer.value := by
  unfold neg ofInt at negates
  split at negates
  · cases negates
    rfl
  · cases negates

theorem eq_tdiv_of_div_eq_ok {quotient : Integer} (divides : left.div right = .ok quotient) :
    right.value ≠ 0 ∧ quotient.value = left.value.tdiv right.value := by
  by_cases zero : right.value = 0
  · rw [div_of_zero zero] at divides
    cases divides
  · refine ⟨zero, ?_⟩
    rw [div_of_ne_zero zero, ofInt] at divides
    split at divides
    · cases divides
      rfl
    · cases divides

/-- A sign may be taken out of a quotient, wherever it stands. -/
theorem div_neg_eq {quotient negated : Integer} (divides : left.div right = .ok quotient) :
    (left.neg = .ok negated → negated.div right = quotient.neg) ∧
      (right.neg = .ok negated → left.div negated = quotient.neg) := by
  obtain ⟨nonzero, value⟩ := eq_tdiv_of_div_eq_ok divides
  constructor
  · intro negates
    rw [div_of_ne_zero nonzero, neg, eq_of_neg_eq_ok negates, value, Int.neg_tdiv]
  · intro negates
    have opposite := eq_of_neg_eq_ok negates
    rw [div_of_ne_zero (by omega), neg, opposite, value, Int.tdiv_neg]

end Checked

/-- Division by zero is a fault. Any other two integers have the one remainder of truncated
division, and as quotient the exact one truncated toward zero, which is also that of the
magnitudes with the sign put back. Only the least integer divided by minus one is refused a
quotient, and its remainder is zero. Where a quotient and a negation are given, the negation
may be taken of a term or of the quotient. -/
theorem div_mod_truncated (left right : Integer) :
    (right.value = 0 →
      left.div right = .error .divisionByZero ∧ left.mod right = .error .divisionByZero) ∧
    (right.value ≠ 0 →
      ∃ (quotient : Int) (remainder : Integer),
        left.mod right = .ok remainder ∧
        (∀ other, IsRemainder left.value right.value other ↔ other = remainder.value) ∧
        left.value = quotient * right.value + remainder.value ∧
        quotient = towardZero ((left.value : ℚ) / right.value) ∧
        quotient = quotientOfMagnitudes left.value right.value ∧
        (left.value = least ∧ right.value = -1 →
          left.div right = .error (.outOfRange quotient) ∧ remainder.value = 0) ∧
        (¬(left.value = least ∧ right.value = -1) →
          ∃ result : Integer, left.div right = .ok result ∧ result.value = quotient)) ∧
    (∀ quotient negated : Integer, left.div right = .ok quotient →
      (left.neg = .ok negated → negated.div right = quotient.neg) ∧
        (right.neg = .ok negated → left.div negated = quotient.neg)) := by
  refine ⟨fun zero => ⟨div_of_zero zero, mod_of_zero zero⟩, fun nonzero => ?_,
    fun quotient negated divides => div_neg_eq divides⟩
  obtain ⟨inRange, remainder⟩ := mod_of_ne_zero left nonzero
  have isRemainder := isRemainder_tmod left.value nonzero
  refine ⟨left.value.tdiv right.value, _, remainder, fun other => ⟨?_, ?_⟩, ?_, ?_, ?_, ?_, ?_⟩
  · exact fun isOther => isOther.unique isRemainder
  · rintro rfl
    exact isRemainder
  · exact (Int.tdiv_mul_add_tmod left.value right.value).symm
  · exact (towardZero_div left.value right.value).symm
  · exact (quotientOfMagnitudes_eq left.value right.value).symm
  · intro overflows
    have past : ¬InRange (left.value.tdiv right.value) := fun inside =>
      (inRange_tdiv_iff nonzero).mp inside overflows
    have none : left.value.tmod right.value = 0 := by
      rw [overflows.2, Int.tmod_neg, Int.tmod_one]
    exact ⟨by rw [div_of_ne_zero nonzero, ofInt_of_not_inRange past], none⟩
  · intro ordinary
    have inside := (inRange_tdiv_iff nonzero).mpr ordinary
    exact ⟨_, by rw [div_of_ne_zero nonzero, ofInt_of_inRange inside], rfl⟩

end ExprLexer.Integer
