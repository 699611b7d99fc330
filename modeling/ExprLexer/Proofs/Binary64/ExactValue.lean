import ExprLexer.Binary64.Power
import ExprLexer.Proofs.Binary64.NearestEven
import Mathlib.Algebra.Ring.Int.Parity

/-! Finite values as exact numbers. Whole and odd numbers are recognised by the
magnitude in units. -/

set_option autoImplicit false

namespace ExprLexer.Binary64

def isFinite : Binary64 → Bool
  | .finite _ _ _ => true
  | _ => false

def number (value : Binary64) : ℚ := value.signedUnits / unitsPerOne

/-- A finite value that is the whole number. -/
def IsWholeNumber (value : Binary64) (whole : Int) : Prop :=
  value.isFinite = true ∧ value.number = whole

/-- A finite value that is an odd whole number. -/
def IsOddNumber (value : Binary64) : Prop := ∃ whole, value.IsWholeNumber whole ∧ Odd whole

section Finite

variable {value : Binary64} {negative : Bool} {units : Nat} {representable : Representable units}
  {whole : Int}

theorem isFinite_iff : value.isFinite = true ↔
    ∃ negative units representable, value = .finite negative units representable := by
  constructor
  · intro finite
    cases value with
    | nan | infinity => cases finite
    | finite negative units representable => exact ⟨negative, units, representable, rfl⟩
  · rintro ⟨negative, units, representable, rfl⟩
    rfl

theorem ne_nan_of_isFinite (finite : value.isFinite = true) : value ≠ .nan := by
  rintro rfl
  cases finite

theorem eq_infinity_of_isInfinite (isInfinite : value.isInfinite = true) :
    ∃ negative, value = .infinity negative := by
  cases value with
  | nan | finite => cases isInfinite
  | infinity negative => exact ⟨negative, rfl⟩

theorem isZero_finite_iff :
    (Binary64.finite negative units representable).isZero = true ↔ units = 0 :=
  beq_iff_eq

theorem eq_zero_of_isZero (isZero : value.isZero = true) : ∃ negative, value = zero negative := by
  cases value with
  | nan | infinity => cases isZero
  | finite negative units _ =>
      obtain rfl := isZero_finite_iff.mp isZero
      exact ⟨negative, rfl⟩

theorem natAbs_signedUnits :
    (signedUnits (.finite negative units representable)).natAbs = units := by
  cases negative with
  | false => exact Int.natAbs_natCast units
  | true => exact (Int.natAbs_neg _).trans (Int.natAbs_natCast units)

theorem abs_number :
    |number (.finite negative units representable)| = (units : ℚ) / unitsPerOne := by
  rw [number, abs_div, abs_of_pos unitsPerOne_pos, ← Int.cast_abs, Int.abs_eq_natAbs,
    natAbs_signedUnits]
  rfl

theorem abs_number_eq_one_iff :
    |number (.finite negative units representable)| = 1 ↔ units = unitsPerOne := by
  rw [abs_number, div_eq_one_iff_eq unitsPerOne_pos.ne', Nat.cast_inj]

theorem abs_number_lt_one_iff :
    |number (.finite negative units representable)| < 1 ↔ units < unitsPerOne := by
  rw [abs_number, div_lt_one unitsPerOne_pos, Nat.cast_lt]

theorem one_lt_abs_number_iff :
    1 < |number (.finite negative units representable)| ↔ unitsPerOne < units := by
  rw [abs_number, one_lt_div unitsPerOne_pos, Nat.cast_lt]

/-! ## Whole numbers -/

theorem isWholeNumber_finite_iff :
    IsWholeNumber (.finite negative units representable) whole ↔
      signedUnits (.finite negative units representable) = whole * unitsPerOne := by
  rw [IsWholeNumber, number, div_eq_iff unitsPerOne_pos.ne']
  constructor
  · rintro ⟨-, same⟩
    exact_mod_cast same
  · intro same
    exact ⟨rfl, by exact_mod_cast same⟩

theorem isWhole_iff : value.isWhole = true ↔ ∃ whole, value.IsWholeNumber whole := by
  cases value with
  | nan | infinity => simp [isWhole, IsWholeNumber, isFinite]
  | finite negative units representable =>
      have divides : (unitsPerOne : Int) ∣ signedUnits (.finite negative units representable) ↔
          unitsPerOne ∣ units := by
        rw [Int.natCast_dvd, natAbs_signedUnits]
      simp only [isWholeNumber_finite_iff]
      rw [isWhole, beq_iff_eq, ← Nat.dvd_iff_mod_eq_zero, ← divides]
      exact dvd_iff_exists_eq_mul_left

theorem IsWholeNumber.units_eq
    (isWhole : IsWholeNumber (.finite negative units representable) whole) :
    units = whole.natAbs * unitsPerOne := by
  have magnitude := @natAbs_signedUnits negative units representable
  rw [← magnitude, isWholeNumber_finite_iff.mp isWhole, Int.natAbs_mul, Int.natAbs_natCast]

theorem isOddWhole_iff : value.isOddWhole = true ↔ value.IsOddNumber := by
  cases value with
  | nan | infinity => simp [isOddWhole, IsOddNumber, IsWholeNumber, isFinite]
  | finite negative units representable =>
      rw [isOddWhole, Bool.and_eq_true, isWhole_iff, beq_iff_eq, ← exists_and_right]
      refine exists_congr fun whole => and_congr_right fun isWhole => ?_
      have quotient : units / unitsPerOne = whole.natAbs := by
        rw [isWhole.units_eq]
        exact Nat.mul_div_cancel _ (Nat.two_pow_pos _)
      rw [quotient, ← Nat.odd_iff, Int.natAbs_odd]

theorem IsOddNumber.isZero_eq_false (odd : value.IsOddNumber) : value.isZero = false := by
  obtain ⟨whole, isWhole, odd⟩ := odd
  obtain ⟨negative, units, representable, rfl⟩ := isFinite_iff.mp isWhole.1
  rw [Bool.eq_false_iff, ne_eq, isZero_finite_iff, isWhole.units_eq, Nat.mul_eq_zero, not_or]
  refine ⟨fun zero => ?_, (Nat.cast_pos.mp unitsPerOne_pos).ne'⟩
  rw [Int.natAbs_eq_zero.mp zero] at odd
  exact absurd odd (by decide)

theorem IsOddNumber.ne_nan (odd : value.IsOddNumber) : value ≠ .nan := by
  obtain ⟨_, ⟨finite, -⟩, -⟩ := odd
  exact ne_nan_of_isFinite finite

theorem isWholeNumber_of_isZero (isZero : value.isZero = true) : value.IsWholeNumber 0 := by
  obtain ⟨negative, rfl⟩ := eq_zero_of_isZero isZero
  rw [zero, isWholeNumber_finite_iff, Int.zero_mul]
  cases negative <;> rfl

end Finite

end ExprLexer.Binary64
