import ExprLexer.Number.Arithmetic
import ExprLexer.Proofs.Binary64.PowerRules

/-! Powers of decimals. A power may fault instead of giving an infinity or NaN. From the fault,
the signs and the parity of the exponent the value is recovered, for every power that follows
the rules, however it rounds. -/

set_option autoImplicit false

namespace ExprLexer

namespace Binary64

/-- A power with faults. Finite terms other than a zero base are past the range when their
power is infinite. Terms are outside the domain when their power is NaN and they are not, or
when they are a zero and a finite negative number. -/
def faulting (power : Binary64 → Binary64 → Binary64) (base exponent : Binary64) :
    Except PowerFault Binary64 :=
  if base.isFinite = true ∧ base.isZero = false ∧ exponent.isFinite = true ∧
      (power base exponent).isInfinite = true then
    .error .range
  else if power base exponent = .nan ∧ base ≠ .nan ∧ exponent ≠ .nan ∨
      base.isZero = true ∧ exponent.isFinite = true ∧ exponent.isZero = false ∧
        exponent.isNegative = true then
    .error .domain
  else .ok (power base exponent)

/-- Whether a value is whole and leaves one when it is divided by two, rounding down. -/
def hasOddRemainder (value : Binary64) : Bool :=
  value.isWhole && value.signedUnits / unitsPerOne % 2 == 1

/-- The value of a power, or what is recovered from its fault. -/
def recovered (base exponent : Binary64) : Except PowerFault Binary64 → Binary64
  | .ok value => value
  | .error .range =>
      if !base.isZero && base.isNegative && exponent.hasOddRemainder then .infinity true
      else .infinity false
  | .error .domain =>
      if !base.isZero then .nan
      else if exponent.hasOddRemainder then .infinity base.isNegative
      else .infinity false

theorem hasOddRemainder_iff {value : Binary64} :
    value.hasOddRemainder = true ↔ value.IsOddNumber := by
  rw [hasOddRemainder, Bool.and_eq_true, isWhole_iff, beq_iff_eq, ← exists_and_right]
  refine exists_congr fun whole => and_congr_right fun isWhole => ?_
  obtain ⟨negative, units, representable, rfl⟩ := isFinite_iff.mp isWhole.1
  have scale : (unitsPerOne : Int) ≠ 0 :=
    Nat.cast_ne_zero.mpr (Nat.cast_pos.mp unitsPerOne_pos).ne'
  rw [isWholeNumber_finite_iff.mp isWhole, Int.mul_ediv_cancel _ scale, ← Int.odd_iff]

section Rules

variable {power : Binary64 → Binary64 → Binary64} {base exponent : Binary64}

theorem IsPower.ne_nan_of_special (rules : IsPower power)
    (special : base.isZero = true ∨ base.isInfinite = true) (notNan : exponent ≠ .nan) :
    power base exponent ≠ .nan := by
  cases exponentZero : exponent.isZero with
  | true =>
      rw [rules.exponentZero _ _ exponentZero]
      exact hasSign_one.1
  | false =>
      rcases special with isZero | isInfinite
      · obtain ⟨negative, rfl⟩ := eq_zero_of_isZero isZero
        by_cases odd : exponent.IsOddNumber
        · rw [rules.zeroOdd negative exponent odd]
          split <;> exact nofun
        · rw [rules.zeroOther negative exponent notNan exponentZero odd]
          split <;> exact nofun
      · obtain ⟨negative, rfl⟩ := eq_infinity_of_isInfinite isInfinite
        by_cases odd : exponent.IsOddNumber
        · rw [rules.infinityOdd negative exponent odd]
          split <;> exact nofun
        · rw [rules.infinityOther negative exponent notNan exponentZero odd]
          split <;> exact nofun

theorem IsPower.to_infinity_ne_nan (rules : IsPower power) (negative : Bool)
    (finite : base.isFinite = true) : power base (.infinity negative) ≠ .nan := by
  rcases lt_trichotomy |base.number| 1 with below | unit | above
  · rw [rules.toInfinityBelow base negative finite below]
    split <;> exact nofun
  · rw [rules.toInfinityOne base negative finite unit]
    exact hasSign_one.1
  · rw [rules.toInfinityAbove base negative finite above]
    split <;> exact nofun

theorem IsPower.isFinite_of_nan (rules : IsPower power) (nan : power base exponent = .nan)
    (baseNotNan : base ≠ .nan) (exponentNotNan : exponent ≠ .nan) :
    base.isFinite = true ∧ exponent.isFinite = true := by
  -- A NaN that no term brings in comes of two finite terms: all else has a rule without NaN.
  cases base with
  | nan => exact absurd rfl baseNotNan
  | infinity negative => exact absurd nan (rules.ne_nan_of_special (.inr rfl) exponentNotNan)
  | finite =>
      cases exponent with
      | nan => exact absurd rfl exponentNotNan
      | infinity negative => exact absurd nan (rules.to_infinity_ne_nan negative rfl)
      | finite => exact ⟨rfl, rfl⟩

theorem IsPower.zero_eq_infinity (rules : IsPower power) (negative : Bool)
    (notNan : exponent ≠ .nan) (nonzero : exponent.isZero = false)
    (below : exponent.isNegative = true) :
    power (zero negative) exponent = .infinity (negative && exponent.hasOddRemainder) := by
  by_cases odd : exponent.IsOddNumber
  · rw [rules.zeroOdd negative exponent odd, if_pos below, hasOddRemainder_iff.mpr odd,
      Bool.and_true]
  · rw [rules.zeroOther negative exponent notNan nonzero odd, if_pos below,
      Bool.eq_false_iff.mpr (mt hasOddRemainder_iff.mp odd), Bool.and_false]

theorem IsPower.below_of_zero (rules : IsPower power) {negative : Bool}
    (notNan : exponent ≠ .nan) (infinite : (power (zero negative) exponent).isInfinite = true) :
    exponent.isZero = false ∧ exponent.isNegative = true := by
  cases isZero : exponent.isZero with
  | true =>
      rw [rules.exponentZero _ _ isZero, one_eq] at infinite
      cases infinite
  | false =>
      refine ⟨rfl, ?_⟩
      by_contra above
      by_cases odd : exponent.IsOddNumber
      · rw [rules.zeroOdd negative exponent odd, if_neg above] at infinite
        cases infinite
      · rw [rules.zeroOther negative exponent notNan isZero odd, if_neg above] at infinite
        cases infinite

/-- An infinite power of finite terms has the sign of an odd power of its base. -/
theorem IsPower.eq_infinity (rules : IsPower power) (baseFinite : base.isFinite = true)
    (exponentFinite : exponent.isFinite = true)
    (infinite : (power base exponent).isInfinite = true) :
    power base exponent = .infinity (base.isNegative && exponent.hasOddRemainder) := by
  cases isZero : base.isZero with
  | true =>
      obtain ⟨negative, rfl⟩ := eq_zero_of_isZero isZero
      have notNan := ne_nan_of_isFinite exponentFinite
      obtain ⟨nonzero, below⟩ := rules.below_of_zero notNan infinite
      exact rules.zero_eq_infinity negative notNan nonzero below
  | false =>
      obtain ⟨negative, found⟩ := eq_infinity_of_isInfinite infinite
      -- A negative base to a fraction would give NaN, so the rule of signs applies.
      have real : base.isNegative = false ∨ ∃ whole, exponent.IsWholeNumber whole := by
        by_contra unreal
        rw [not_or, Bool.not_eq_false, not_exists] at unreal
        have nan := rules.fractional base exponent baseFinite isZero unreal.1 exponentFinite
          unreal.2
        rw [found] at nan
        cases nan
      have sign := (rules.sign base exponent baseFinite isZero exponentFinite real).2
      rw [found] at sign ⊢
      congr 1
      rw [Bool.eq_iff_iff, Bool.and_eq_true, hasOddRemainder_iff]
      exact sign

/-- What is recovered from the faults of a power is the power itself. -/
theorem IsPower.recovered_faulting (rules : IsPower power) (base exponent : Binary64) :
    recovered base exponent (faulting power base exponent) = power base exponent := by
  unfold faulting
  split
  next past =>
    obtain ⟨baseFinite, nonzero, exponentFinite, infinite⟩ := past
    rw [rules.eq_infinity baseFinite exponentFinite infinite, recovered, nonzero]
    cases base.isNegative <;> cases exponent.hasOddRemainder <;> rfl
  next =>
    split
    next outside =>
      rw [recovered]
      rcases outside with ⟨nan, baseNotNan, exponentNotNan⟩ | ⟨isZero, finite, nonzero, below⟩
      · cases isZero : base.isZero with
        | true => exact absurd nan (rules.ne_nan_of_special (.inl isZero) exponentNotNan)
        | false => exact nan.symm
      · obtain ⟨negative, rfl⟩ := eq_zero_of_isZero isZero
        rw [rules.zero_eq_infinity negative (ne_nan_of_isFinite finite) nonzero below, isZero]
        cases negative <;> cases exponent.hasOddRemainder <;> rfl
    next => rfl

end Rules

theorem pow?_eq_faulting (base exponent : Binary64) :
    base.pow? exponent = faulting pow base exponent := by
  have rules := isPower_pow
  unfold pow?
  split
  next nan =>
    rw [faulting, if_neg, if_pos (.inl ⟨nan, ne_nan_of_isFinite rfl, ne_nan_of_isFinite rfl⟩)]
    rintro ⟨-, -, -, infinite⟩
    rw [nan] at infinite
    cases infinite
  next sign units representable _ _ _ _ infinite =>
    have isInfinite := congrArg Binary64.isInfinite infinite
    split
    next none =>
      obtain ⟨negative, isZero⟩ := eq_zero_of_isZero (isZero_finite_iff.mpr none)
      rw [isZero] at isInfinite
      have outside := rules.below_of_zero (ne_nan_of_isFinite rfl) isInfinite
      rw [isZero, faulting, if_neg, if_pos (.inr ⟨rfl, rfl, outside⟩)]
      rintro ⟨-, nonzero, -⟩
      cases nonzero
    next some =>
      have nonzero : (Binary64.finite sign units representable).isZero = false :=
        Bool.eq_false_iff.mpr (mt isZero_finite_iff.mp some)
      rw [faulting, if_pos ⟨rfl, nonzero, rfl, isInfinite⟩]
  next base exponent power noNan noInfinity =>
    -- What would be a fault has finite terms, and its power was met in the cases above.
    rw [faulting, if_neg, if_neg]
    · rintro (⟨nan, baseNotNan, exponentNotNan⟩ | ⟨isZero, finite, nonzero, below⟩)
      · obtain ⟨baseFinite, exponentFinite⟩ := rules.isFinite_of_nan nan baseNotNan exponentNotNan
        obtain ⟨_, _, _, rfl⟩ := isFinite_iff.mp baseFinite
        obtain ⟨_, _, _, rfl⟩ := isFinite_iff.mp exponentFinite
        exact noNan _ _ _ _ _ _ rfl rfl nan
      · obtain ⟨negative, rfl⟩ := eq_zero_of_isZero isZero
        have infinite := rules.zero_eq_infinity negative (ne_nan_of_isFinite finite) nonzero below
        obtain ⟨_, _, _, rfl⟩ := isFinite_iff.mp finite
        exact noInfinity _ _ _ _ _ _ _ rfl rfl infinite
    · rintro ⟨baseFinite, nonzero, exponentFinite, infinite⟩
      have infinite := rules.eq_infinity baseFinite exponentFinite infinite
      obtain ⟨_, _, _, rfl⟩ := isFinite_iff.mp baseFinite
      obtain ⟨_, _, _, rfl⟩ := isFinite_iff.mp exponentFinite
      exact noInfinity _ _ _ _ _ _ _ rfl rfl infinite

end Binary64

namespace Decimal

open Binary64 (IsPower faulting recovered)

theorem hasOddRemainder_eq (value : Binary64) : value.hasOddRemainder = value.isOddWhole := by
  rw [Bool.eq_iff_iff, Binary64.hasOddRemainder_iff, Binary64.isOddWhole_iff]

theorem isZero_of_range {base exponent : Binary64} (range : base.pow? exponent = .error .range) :
    base.isZero = false := by
  rw [Binary64.pow?_eq_faulting, faulting] at range
  split at range
  next past => exact past.2.1
  next => split at range <;> cases range

theorem pow_eq_recovered (base exponent : Decimal) :
    base.pow exponent =
      ⟨recovered base.value exponent.value (base.value.pow? exponent.value)⟩ := by
  unfold pow
  cases attempt : base.value.pow? exponent.value with
  | ok value => rfl
  | error fault =>
      cases fault with
      | range =>
          rw [recovered, isZero_of_range attempt, hasOddRemainder_eq]
          dsimp only
          cases base.value.isNegative <;> cases exponent.value.isOddWhole <;> rfl
      | domain =>
          rw [recovered, hasOddRemainder_eq]
          dsimp only
          cases base.value.isZero <;> cases exponent.value.isOddWhole <;> rfl

theorem pow_eq (base exponent : Decimal) :
    base.pow exponent = ⟨base.value.pow exponent.value⟩ := by
  rw [pow_eq_recovered, Binary64.pow?_eq_faulting,
    Binary64.isPower_pow.recovered_faulting base.value exponent.value]

/-- The power of decimals is given for every two of them, and is the power of their values: what
a fault hides is recovered. The infinite powers of finite terms are negative exactly for a
negative base and an odd exponent. All this holds of any power that follows the rules. -/
theorem pow_recovers_power :
    IsPower Binary64.pow ∧
    (∀ base exponent : Binary64, base.pow? exponent = faulting Binary64.pow base exponent) ∧
    (∀ base exponent : Decimal,
      base.pow exponent =
        ⟨recovered base.value exponent.value (base.value.pow? exponent.value)⟩ ∧
      Operand.apply .pow (.number (.decimal base)) (.number (.decimal exponent)) =
        .ok (.decimal ⟨base.value.pow exponent.value⟩)) ∧
    (∀ power, IsPower power → ∀ base exponent : Binary64,
      recovered base exponent (faulting power base exponent) = power base exponent ∧
      (base.isFinite = true → exponent.isFinite = true →
        (power base exponent).isInfinite = true →
        ((power base exponent).isNegative = true ↔
          base.isNegative = true ∧ exponent.IsOddNumber))) := by
  refine ⟨Binary64.isPower_pow, Binary64.pow?_eq_faulting, ?_, ?_⟩
  · intro base exponent
    refine ⟨pow_eq_recovered base exponent, ?_⟩
    rw [Operand.apply, apply, pow_eq]
  · intro power rules base exponent
    refine ⟨rules.recovered_faulting base exponent, ?_⟩
    intro baseFinite exponentFinite infinite
    rw [rules.eq_infinity baseFinite exponentFinite infinite, ← Binary64.hasOddRemainder_iff,
      ← Bool.and_eq_true]
    rfl

end Decimal

end ExprLexer
