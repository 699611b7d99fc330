import ExprLexer.Proofs.Binary64.ExactValue

/-! Powers of zeros, infinities, NaN and negative bases follow fixed rules, whatever the
rounding of the others. A result that is no such case has a sign, and is not NaN. -/

set_option autoImplicit false

namespace ExprLexer.Binary64

/-- The rules of powers. Results that are rounded are bound only in their sign. -/
structure IsPower (power : Binary64 → Binary64 → Binary64) : Prop where
  exponentZero : ∀ base exponent, exponent.isZero = true → power base exponent = one
  baseOne : ∀ exponent, power one exponent = one
  baseNan : ∀ exponent, exponent.isZero = false → power .nan exponent = .nan
  exponentNan : ∀ base, base ≠ one → power base .nan = .nan
  zeroOdd : ∀ negative exponent, exponent.IsOddNumber →
    power (zero negative) exponent =
      if exponent.isNegative then .infinity negative else zero negative
  zeroOther : ∀ negative exponent, exponent ≠ .nan → exponent.isZero = false →
    ¬exponent.IsOddNumber →
    power (zero negative) exponent =
      if exponent.isNegative then .infinity false else zero false
  infinityOdd : ∀ negative exponent, exponent.IsOddNumber →
    power (.infinity negative) exponent =
      if exponent.isNegative then zero negative else .infinity negative
  infinityOther : ∀ negative exponent, exponent ≠ .nan → exponent.isZero = false →
    ¬exponent.IsOddNumber →
    power (.infinity negative) exponent =
      if exponent.isNegative then zero false else .infinity false
  toInfinityOne : ∀ base negative, base.isFinite = true → |base.number| = 1 →
    power base (.infinity negative) = one
  toInfinityBelow : ∀ base negative, base.isFinite = true → |base.number| < 1 →
    power base (.infinity negative) = if negative then .infinity false else zero false
  toInfinityAbove : ∀ base negative, base.isFinite = true → 1 < |base.number| →
    power base (.infinity negative) = if negative then zero false else .infinity false
  fractional : ∀ base exponent, base.isFinite = true → base.isZero = false →
    base.isNegative = true → exponent.isFinite = true →
    (∀ whole, ¬exponent.IsWholeNumber whole) → power base exponent = .nan
  sign : ∀ base exponent, base.isFinite = true → base.isZero = false →
    exponent.isFinite = true →
    (base.isNegative = false ∨ ∃ whole, exponent.IsWholeNumber whole) →
    power base exponent ≠ .nan ∧
      ((power base exponent).isNegative = true ↔
        base.isNegative = true ∧ exponent.IsOddNumber)

/-! ## Signs of rounded powers -/

/-- A value other than NaN with the given sign. -/
def HasSign (negative : Bool) (value : Binary64) : Prop :=
  value ≠ .nan ∧ value.isNegative = negative

theorem hasSign_nearest (negative : Bool) (numerator denominator : Nat) :
    HasSign negative (nearest negative numerator denominator) := by
  rcases nearest_eq negative numerator denominator with ⟨_, finite⟩ | ⟨_, infinite⟩
  · rw [finite]
    exact ⟨nofun, rfl⟩
  · rw [infinite]
    exact ⟨nofun, rfl⟩

theorem hasSign_powerAt (negative : Bool) (base : Nat) (exponent : Int) (precision : Nat) :
    HasSign negative (powerAt negative base exponent precision).1 := by
  unfold powerAt
  dsimp only
  split
  · exact ⟨nofun, rfl⟩
  · split
    · exact ⟨nofun, rfl⟩
    · dsimp only
      exact hasSign_nearest negative _ _

theorem hasSign_firstSettled {negative : Bool} {attempt : Nat → Binary64 × Bool}
    (signed : ∀ precision, HasSign negative (attempt precision).1) (precision : Nat)
    (further : List Nat) : HasSign negative (firstSettled attempt precision further) := by
  induction further generalizing precision with
  | nil => exact signed precision
  | cons next further ih =>
      rw [firstSettled]
      dsimp only
      split
      · exact signed precision
      · exact ih next

theorem hasSign_positivePower (negative : Bool) (base : Nat) (exponent : Int) :
    HasSign negative (positivePower negative base exponent) :=
  hasSign_firstSettled (hasSign_powerAt negative base exponent) _ _

/-! ## Cases of the power -/

theorem representable_unitsPerOne : Representable unitsPerOne :=
  ⟨by decide +kernel, 1, oneExponent, by decide, by rw [Nat.one_mul, unitsPerOne]⟩

theorem one_eq : one = .finite false unitsPerOne representable_unitsPerOne := by
  have rounded := nearestUnits_mul_self representable_unitsPerOne Nat.one_pos
  rw [Nat.mul_one] at rounded
  exact nearest_of_representable false rounded representable_unitsPerOne

theorem hasSign_one : HasSign false one := by
  rw [one_eq]
  exact ⟨nofun, rfl⟩

theorem hasSign_signedOne (negative : Bool) :
    HasSign negative (if negative then one.neg else one) := by
  rw [one_eq]
  cases negative <;> exact ⟨nofun, rfl⟩

theorem equals_one_iff {base : Binary64} : base.equals one = true ↔ base = one := by
  have positive : unitsPerOne ≠ 0 := (Nat.cast_pos.mp unitsPerOne_pos).ne'
  rw [one_eq]
  cases base with
  | nan | infinity => simp [equals]
  | finite negative units _ =>
      simp only [equals, Bool.and_eq_true, Bool.or_eq_true, beq_iff_eq, Binary64.finite.injEq]
      constructor
      · rintro ⟨same, zero | sign⟩
        · exact absurd (same.symm.trans zero) positive
        · exact ⟨sign, same⟩
      · rintro ⟨sign, same⟩
        exact ⟨same, .inr sign⟩

section Cases

variable {base exponent : Binary64} {negative sign : Bool} {units : Nat}
  {representable : Representable units}

theorem pow_of_fixed (fixed : exponent.isZero = true ∨ base = one) : pow base exponent = one := by
  unfold pow
  rw [if_pos]
  rwa [Bool.or_eq_true, equals_one_iff]

theorem not_fixed (nonzero : exponent.isZero = false) (other : base ≠ one) :
    ¬(exponent.isZero || base.equals one) = true := by
  rw [nonzero, Bool.false_or, equals_one_iff]
  exact other

theorem zero_ne_one (negative : Bool) : zero negative ≠ one := by
  rw [zero, one_eq]
  intro same
  exact (Nat.cast_pos.mp unitsPerOne_pos).ne (Binary64.finite.inj same).2

theorem infinity_ne_one (negative : Bool) : infinity negative ≠ one := by
  rw [one_eq]
  exact nofun

theorem pow_nan_left (nonzero : exponent.isZero = false) : pow .nan exponent = .nan := by
  have other : nan ≠ one := by
    rw [one_eq]
    exact nofun
  unfold pow
  rw [if_neg (not_fixed nonzero other)]

theorem pow_nan_right (other : base ≠ one) : pow base .nan = .nan := by
  unfold pow
  rw [if_neg (not_fixed rfl other)]
  cases base <;> rfl

theorem pow_infinite_right (other : Binary64.finite sign units representable ≠ one)
    (negative : Bool) :
    pow (.finite sign units representable) (.infinity negative) =
      powerToInfinity (compare units unitsPerOne) negative := by
  unfold pow
  rw [if_neg (not_fixed rfl other)]

theorem pow_zero_left (notNan : exponent ≠ .nan) (nonzero : exponent.isZero = false)
    (negative : Bool) :
    pow (zero negative) exponent =
      if exponent.isNegative then .infinity (negative && exponent.isOddWhole)
      else zero (negative && exponent.isOddWhole) := by
  unfold pow
  rw [if_neg (not_fixed nonzero (zero_ne_one negative))]
  cases exponent with
  | nan => exact absurd rfl notNan
  | infinity sign =>
      have below : compare 0 unitsPerOne = .lt :=
        Nat.compare_eq_lt.mpr (Nat.cast_pos.mp unitsPerOne_pos)
      have even : isOddWhole (.infinity sign) = false := rfl
      rw [even, Bool.and_false]
      change powerToInfinity (compare 0 unitsPerOne) sign = _
      rw [below]
      rfl
  | finite sign units representable => exact if_pos rfl

theorem pow_infinite_left (notNan : exponent ≠ .nan) (nonzero : exponent.isZero = false)
    (negative : Bool) :
    pow (.infinity negative) exponent =
      if exponent.isNegative then zero (negative && exponent.isOddWhole)
      else .infinity (negative && exponent.isOddWhole) := by
  unfold pow
  rw [if_neg (not_fixed nonzero (infinity_ne_one negative))]
  cases exponent with
  | nan => exact absurd rfl notNan
  | infinity sign =>
      have even : isOddWhole (.infinity sign) = false := rfl
      rw [even, Bool.and_false]
      rfl
  | finite sign units representable => rfl

theorem ne_one_of_abs_number (other : |base.number| ≠ 1) : base ≠ one := by
  intro same
  rw [same, one_eq, ne_eq, abs_number_eq_one_iff] at other
  exact other rfl

theorem isWhole_of_isZero (zero : exponent.isZero = true) : exponent.isWhole = true :=
  isWhole_iff.mpr ⟨0, isWholeNumber_of_isZero zero⟩

theorem isOddWhole_of_isZero (zero : exponent.isZero = true) : exponent.isOddWhole = false := by
  rw [Bool.eq_false_iff, ne_eq, isOddWhole_iff]
  intro odd
  rw [odd.isZero_eq_false] at zero
  cases zero

theorem pow_fractional (baseFinite : base.isFinite = true) (nonzero : base.isZero = false)
    (negative : base.isNegative = true) (exponentFinite : exponent.isFinite = true)
    (fractional : exponent.isWhole = false) : pow base exponent = .nan := by
  have exponentNonzero : exponent.isZero = false := by
    rw [Bool.eq_false_iff]
    intro zero
    rw [isWhole_of_isZero zero] at fractional
    cases fractional
  have other : base ≠ one := by
    intro same
    rw [same, hasSign_one.2] at negative
    cases negative
  unfold pow
  rw [if_neg (not_fixed exponentNonzero other)]
  obtain ⟨sign, units, _, rfl⟩ := isFinite_iff.mp baseFinite
  obtain ⟨_, _, _, rfl⟩ := isFinite_iff.mp exponentFinite
  obtain rfl : sign = true := negative
  rw [Bool.eq_false_iff, ne_eq, isZero_finite_iff] at nonzero
  dsimp only
  rw [if_neg nonzero, fractional]
  rfl

theorem hasSign_pow (baseFinite : base.isFinite = true) (nonzero : base.isZero = false)
    (exponentFinite : exponent.isFinite = true)
    (real : base.isNegative = false ∨ exponent.isWhole = true) :
    HasSign (base.isNegative && exponent.isOddWhole) (pow base exponent) := by
  by_cases fixed : exponent.isZero = true ∨ base = one
  · have positive : (base.isNegative && exponent.isOddWhole) = false := by
      rcases fixed with zero | same
      · rw [isOddWhole_of_isZero zero, Bool.and_false]
      · rw [same, hasSign_one.2, Bool.false_and]
    rw [pow_of_fixed fixed, positive]
    exact hasSign_one
  · rw [not_or, Bool.not_eq_true] at fixed
    unfold pow
    rw [if_neg (not_fixed fixed.1 fixed.2)]
    obtain ⟨sign, units, _, rfl⟩ := isFinite_iff.mp baseFinite
    obtain ⟨_, _, _, rfl⟩ := isFinite_iff.mp exponentFinite
    rw [Bool.eq_false_iff, ne_eq, isZero_finite_iff] at nonzero
    dsimp only [isNegative]
    rw [if_neg nonzero, if_neg]
    · split
      · exact hasSign_signedOne _
      · exact hasSign_positivePower _ _ _
    · rw [Bool.and_eq_true, Bool.not_eq_true']
      rintro ⟨negative, fractional⟩
      rcases real with positive | whole
      · exact Bool.false_ne_true (positive.symm.trans negative)
      · exact Bool.false_ne_true (fractional.symm.trans whole)

end Cases

theorem isPower_pow : IsPower pow where
  exponentZero _ _ zero := pow_of_fixed (.inl zero)
  baseOne _ := pow_of_fixed (.inr rfl)
  baseNan _ := pow_nan_left
  exponentNan _ := pow_nan_right
  zeroOdd negative exponent odd := by
    rw [pow_zero_left odd.ne_nan odd.isZero_eq_false, isOddWhole_iff.mpr odd, Bool.and_true]
  zeroOther negative exponent notNan nonzero even := by
    rw [pow_zero_left notNan nonzero, Bool.eq_false_iff.mpr (mt isOddWhole_iff.mp even),
      Bool.and_false]
  infinityOdd negative exponent odd := by
    rw [pow_infinite_left odd.ne_nan odd.isZero_eq_false, isOddWhole_iff.mpr odd, Bool.and_true]
  infinityOther negative exponent notNan nonzero even := by
    rw [pow_infinite_left notNan nonzero, Bool.eq_false_iff.mpr (mt isOddWhole_iff.mp even),
      Bool.and_false]
  toInfinityOne base negative finite unit := by
    obtain ⟨sign, units, representable, rfl⟩ := isFinite_iff.mp finite
    by_cases other : Binary64.finite sign units representable ≠ one
    · rw [pow_infinite_right other, Nat.compare_eq_eq.mpr (abs_number_eq_one_iff.mp unit)]
      rfl
    · exact pow_of_fixed (.inr (not_not.mp other))
  toInfinityBelow base negative finite below := by
    obtain ⟨sign, units, representable, rfl⟩ := isFinite_iff.mp finite
    rw [pow_infinite_right (ne_one_of_abs_number below.ne),
      Nat.compare_eq_lt.mpr (abs_number_lt_one_iff.mp below)]
    rfl
  toInfinityAbove base negative finite above := by
    obtain ⟨sign, units, representable, rfl⟩ := isFinite_iff.mp finite
    rw [pow_infinite_right (ne_one_of_abs_number above.ne'),
      Nat.compare_eq_gt.mpr (one_lt_abs_number_iff.mp above)]
    rfl
  fractional base exponent baseFinite nonzero negative exponentFinite fractional :=
    pow_fractional baseFinite nonzero negative exponentFinite
      (Bool.eq_false_iff.mpr fun whole => not_exists.mpr fractional (isWhole_iff.mp whole))
  sign base exponent baseFinite nonzero exponentFinite real := by
    rw [← isWhole_iff] at real
    obtain ⟨notNan, sign⟩ := hasSign_pow baseFinite nonzero exponentFinite real
    rw [sign, Bool.and_eq_true, isOddWhole_iff]
    exact ⟨notNan, Iff.rfl⟩

end ExprLexer.Binary64
