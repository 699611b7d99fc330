import ExprLexer.Number.Calculation
import ExprLexer.Numeral.Reader
import Mathlib.Data.Nat.Digits.Defs

/-! Integers calculate exactly. A step from an integer gives the whole number that
unbounded arithmetic gives when that number is in range, and a fault otherwise, so
a run follows unbounded arithmetic with the results out of range passed over. -/

set_option autoImplicit false

namespace ExprLexer

attribute [local instance (1100)] instPowNat

/-! ## Range and powers -/

namespace Integer

theorem ofInt_of_inRange {value : Int} (inRange : InRange value) :
    ofInt value = .ok ⟨value, inRange⟩ :=
  dif_pos inRange

theorem ofInt_of_not_inRange {value : Int} (past : ¬InRange value) :
    ofInt value = .error (.outOfRange value) :=
  dif_neg past

theorem InRange.natAbs_le {value : Int} (inRange : InRange value) :
    value.natAbs ≤ 2 ^ 63 := by
  obtain ⟨lower, upper⟩ := inRange
  simp only [least, greatest] at lower upper
  omega

theorem natAbs_le (integer : Integer) : integer.value.natAbs ≤ 2 ^ 63 :=
  integer.inRange.natAbs_le

theorem inRange_of_natAbs_le_one {value : Int} (small : value.natAbs ≤ 1) : InRange value := by
  simp only [InRange, least, greatest]
  omega

theorem natAbs_pow_le_one {base : Int} (small : base.natAbs ≤ 1) (exponent : Nat) :
    (base ^ exponent).natAbs ≤ 1 := by
  rw [Int.natAbs_pow]
  exact pow_le_one₀ (Nat.zero_le _) small

/-- The shortcut agrees with the range: it rejects no power that could be represented. -/
theorem not_inRange_pow {base : Int} {exponent : Nat} (large : 1 < base.natAbs)
    (long : 64 ≤ exponent) : ¬InRange (base ^ exponent) := by
  intro inRange
  have lower : 2 ^ 64 ≤ (base ^ exponent).natAbs :=
    calc
      2 ^ 64 ≤ base.natAbs ^ 64 := Nat.pow_le_pow_left large 64
      _ ≤ base.natAbs ^ exponent := Nat.pow_le_pow_right (by omega) long
      _ = (base ^ exponent).natAbs := (Int.natAbs_pow base exponent).symm
  have upper := inRange.natAbs_le
  omega

/-- From the first power on, the powers of `-1`, `0` and `1` have period two. -/
theorem pow_two_add_mod_two {base : Int} (small : base.natAbs ≤ 1) {exponent : Nat}
    (positive : 0 < exponent) : base ^ (2 + exponent % 2) = base ^ exponent := by
  obtain rfl | rfl | rfl : base = -1 ∨ base = 0 ∨ base = 1 := by omega
  · rw [pow_add, even_two.neg_one_pow, one_mul, ← neg_one_pow_eq_pow_mod_two]
  · rw [zero_pow (by omega), zero_pow (by omega)]
  · rw [one_pow, one_pow]

theorem smallPower_eq {base : Int} {exponent : Nat}
    (computed : base.natAbs ≤ 1 ∨ exponent < 64) : smallPower base exponent = base ^ exponent := by
  by_cases short : exponent < 64
  · rw [smallPower, if_pos short]
  · rw [smallPower, if_neg short]
    exact pow_two_add_mod_two (computed.resolve_right short) (by omega)

theorem natAbs_pow_le (base : Integer) {exponent : Nat}
    (computed : base.value.natAbs ≤ 1 ∨ exponent < 64) :
    (base.value ^ exponent).natAbs ≤ (2 ^ 63) ^ 63 := by
  rcases computed with small | short
  · exact (natAbs_pow_le_one small exponent).trans (Nat.one_le_pow _ _ (by decide))
  · calc
      (base.value ^ exponent).natAbs = base.value.natAbs ^ exponent := Int.natAbs_pow _ _
      _ ≤ (2 ^ 63) ^ exponent := Nat.pow_le_pow_left base.natAbs_le exponent
      _ ≤ (2 ^ 63) ^ 63 := Nat.pow_le_pow_right (by decide) (by omega)

theorem length_digits_lt {value : Nat} (bounded : value ≤ (2 ^ 63) ^ 63) :
    (Layout.digits value).length < digitLimit := by
  have below : value < (10 ^ 19) ^ 63 :=
    bounded.trans_lt (Nat.pow_lt_pow_left (by decide) (by decide))
  rw [← pow_mul] at below
  exact (Nat.toDigits_length 10 value _ (by decide) below).trans_lt (by decide)

theorem pow_of_shortcut {base exponent : Integer} (large : 1 < base.value.natAbs)
    (long : 64 ≤ exponent.value) :
    base.pow exponent = .error (.powerOutOfRange base.value exponent.value) := by
  rw [pow, if_neg (by omega), if_pos ⟨large, long⟩]

theorem pow_of_computed {base exponent : Integer} (nonneg : 0 ≤ exponent.value)
    (computed : base.value.natAbs ≤ 1 ∨ exponent.value.toNat < 64) :
    base.pow exponent = ofInt (base.value ^ exponent.value.toNat) := by
  rw [pow, if_neg (by omega), if_neg (by omega), smallPower_eq computed]

theorem not_inRange_of_powerOutOfRange {base exponent : Integer}
    (refused : base.pow exponent = .error (.powerOutOfRange base.value exponent.value)) :
    ¬InRange (base.value ^ exponent.value.toNat) := by
  by_cases negative : exponent.value < 0
  · rw [pow, if_pos negative] at refused
    cases refused
  · by_cases shortcut : 1 < base.value.natAbs ∧ 64 ≤ exponent.value
    · exact not_inRange_pow shortcut.1 (by omega)
    · rw [pow_of_computed (by omega) (by omega), ofInt] at refused
      split at refused <;> cases refused

theorem pow_of_natAbs_le_one {base exponent : Integer} (small : base.value.natAbs ≤ 1)
    (nonneg : 0 ≤ exponent.value) :
    ∃ inRange, base.pow exponent = .ok ⟨base.value ^ exponent.value.toNat, inRange⟩ := by
  have inRange := inRange_of_natAbs_le_one (natAbs_pow_le_one small exponent.value.toNat)
  exact ⟨inRange, by rw [pow_of_computed nonneg (.inl small), ofInt_of_inRange inRange]⟩

end Integer

/-! ## One step -/

namespace CalculationStep

open Integer (InRange)

/-- The whole number that unbounded arithmetic gives for a step. Quotients are
truncated, and a remainder has the sign of its dividend. -/
inductive IsExact (left : Int) : CalculationStep → Int → Prop
  | negate : IsExact left .negate (-left)
  | add {right : Integer} :
      IsExact left (.combine .add (.number (.integer right))) (left + right.value)
  | sub {right : Integer} :
      IsExact left (.combine .sub (.number (.integer right))) (left - right.value)
  | mul {right : Integer} :
      IsExact left (.combine .mul (.number (.integer right))) (left * right.value)
  | div {right : Integer} : right.value ≠ 0 →
      IsExact left (.combine .div (.number (.integer right))) (left.tdiv right.value)
  | mod {right : Integer} : right.value ≠ 0 →
      IsExact left (.combine .mod (.number (.integer right))) (left.tmod right.value)
  | pow {right : Integer} : 0 ≤ right.value →
      IsExact left (.combine .pow (.number (.integer right))) (left ^ right.value.toNat)

/-- How a step reports that its exact result is out of range: by the result, whose
digits can be written, or by the terms of a power that is not computed. -/
inductive ReportsOverflow (left : Integer) (exact : Int) : CalculationStep → NumberFault → Prop
  | result {step : CalculationStep} :
      (Layout.digits exact.natAbs).length < digitLimit →
      ReportsOverflow left exact step (.outOfRange exact)
  | terms {right : Integer} :
      ReportsOverflow left exact (.combine .pow (.number (.integer right)))
        (.powerOutOfRange left.value right.value)

variable {left : Integer} {step : CalculationStep} {exact : Int}

theorem result_combine_integer (operator : Operator) (left right : Integer) :
    (combine operator (.number (.integer right))).result (.integer left) =
      (Integer.apply operator left right).map .integer :=
  rfl

/-- The exact result is looked up in the range unless it is a power past the range. -/
theorem result_of_isExact (isExact : step.IsExact left.value exact) :
    (step.result (.integer left) = (Integer.ofInt exact).map .integer ∧
      exact.natAbs ≤ (2 ^ 63) ^ 63) ∨
    ¬InRange exact ∧ ∃ fault, step.ReportsOverflow left exact fault ∧
      step.result (.integer left) = .error fault := by
  -- All but powers stay within the square of the range.
  have square : (2 ^ 63) ^ 2 ≤ (2 ^ 63) ^ 63 := Nat.pow_le_pow_right (by decide) (by decide)
  have leftBound := left.natAbs_le
  cases isExact with
  | negate => exact .inl ⟨rfl, by omega⟩
  | @add right =>
      have rightBound := right.natAbs_le
      exact .inl ⟨rfl, by omega⟩
  | @sub right =>
      have rightBound := right.natAbs_le
      exact .inl ⟨rfl, by omega⟩
  | @mul right =>
      have product := Nat.mul_le_mul leftBound right.natAbs_le
      rw [← Int.natAbs_mul] at product
      exact .inl ⟨rfl, by omega⟩
  | @div right nonzero =>
      have quotient := Int.natAbs_tdiv_le_natAbs left.value right.value
      refine .inl ⟨?_, by omega⟩
      rw [result_combine_integer, Integer.apply, Integer.div, if_neg nonzero]
  | @mod right nonzero =>
      have remainder := Int.natAbs_tmod left.value right.value
      have smaller := Nat.mod_le left.value.natAbs right.value.natAbs
      refine .inl ⟨?_, by omega⟩
      rw [result_combine_integer, Integer.apply, Integer.mod, if_neg nonzero, ← Int.tmod_def]
  | @pow right nonneg =>
      by_cases computed : left.value.natAbs ≤ 1 ∨ right.value.toNat < 64
      · refine .inl ⟨?_, left.natAbs_pow_le computed⟩
        rw [result_combine_integer, Integer.apply, Integer.pow_of_computed nonneg computed]
      · refine .inr ⟨Integer.not_inRange_pow (by omega) (by omega), _, .terms, ?_⟩
        rw [result_combine_integer, Integer.apply,
          Integer.pow_of_shortcut (by omega) (by omega)]
        rfl

theorem result_of_inRange (isExact : step.IsExact left.value exact) (inRange : InRange exact) :
    step.result (.integer left) = .ok (.integer ⟨exact, inRange⟩) := by
  rcases result_of_isExact isExact with ⟨computed, -⟩ | ⟨past, -⟩
  · rw [computed, Integer.ofInt_of_inRange inRange]
    rfl
  · exact absurd inRange past

theorem result_of_not_inRange (isExact : step.IsExact left.value exact)
    (past : ¬InRange exact) :
    ∃ fault, step.ReportsOverflow left exact fault ∧
      step.result (.integer left) = .error fault := by
  rcases result_of_isExact isExact with ⟨computed, bounded⟩ | ⟨-, reported⟩
  · refine ⟨_, .result (Integer.length_digits_lt bounded), ?_⟩
    rw [computed, Integer.ofInt_of_not_inRange past]
    rfl
  · exact reported

theorem result_of_negative_exponent (base : Integer) {exponent : Integer}
    (negative : exponent.value < 0) :
    (combine .pow (.number (.integer exponent))).result (.integer base) =
      .error .negativeExponent := by
  rw [result_combine_integer, Integer.apply, Integer.pow, if_pos negative]
  rfl

/-- Without an exact result there is no result. -/
theorem result_of_not_isExact (none : ∀ exact, ¬step.IsExact left.value exact) :
    ∃ fault, step.result (.integer left) = .error fault := by
  cases step with
  | negate => exact absurd .negate (none _)
  | combine operator right =>
      rcases right with (decimal | right) | datum
      · exact ⟨_, rfl⟩
      · cases operator with
        | add => exact absurd .add (none _)
        | sub => exact absurd .sub (none _)
        | mul => exact absurd .mul (none _)
        | div =>
            have zero : right.value = 0 := by_contra fun nonzero => none _ (.div nonzero)
            refine ⟨.divisionByZero, ?_⟩
            rw [result_combine_integer, Integer.apply, Integer.div, if_pos zero]
            rfl
        | mod =>
            have zero : right.value = 0 := by_contra fun nonzero => none _ (.mod nonzero)
            refine ⟨.divisionByZero, ?_⟩
            rw [result_combine_integer, Integer.apply, Integer.mod, if_pos zero]
            rfl
        | pow =>
            have negative : right.value < 0 :=
              Int.not_le.mp fun nonneg => none _ (.pow nonneg)
            exact ⟨_, result_of_negative_exponent left negative⟩
      · exact ⟨_, rfl⟩

theorem result_of_decimal (operator : Operator) (left : Integer) (right : Decimal) :
    (combine operator (.number (.decimal right))).result (.integer left) =
      .error (.unsupported operator .integer .decimal) := by
  cases operator <;> rfl

theorem next_of_error {number : Number} {fault : NumberFault}
    (failed : step.result number = .error fault) : step.next number = number := by
  rw [next, failed]

/-! ## Runs -/

/-- A run of unbounded arithmetic that takes the results in range and passes over
the steps without one. -/
inductive IsExactRun : Int → List CalculationStep → Int → Prop
  | nil {value : Int} : IsExactRun value [] value
  | taken {value exact last : Int} {step : CalculationStep} {rest : List CalculationStep} :
      step.IsExact value exact → InRange exact → IsExactRun exact rest last →
      IsExactRun value (step :: rest) last
  | passed {value last : Int} {step : CalculationStep} {rest : List CalculationStep} :
      (∀ exact, step.IsExact value exact → ¬InRange exact) → IsExactRun value rest last →
      IsExactRun value (step :: rest) last

theorem next_integer (left : Integer) (step : CalculationStep) :
    (∃ exact : Integer, step.IsExact left.value exact.value ∧
      step.next (.integer left) = .integer exact) ∨
    (∀ exact, step.IsExact left.value exact → ¬InRange exact) ∧
      step.next (.integer left) = .integer left := by
  by_cases possible : ∃ exact, step.IsExact left.value exact
  · obtain ⟨exact, isExact⟩ := possible
    by_cases inRange : InRange exact
    · refine .inl ⟨⟨exact, inRange⟩, isExact, ?_⟩
      rw [next, result_of_inRange isExact inRange]
    · obtain ⟨fault, -, failed⟩ := result_of_not_inRange isExact inRange
      refine .inr ⟨?_, next_of_error failed⟩
      intro other isOther otherInRange
      have succeeded := result_of_inRange isOther otherInRange
      rw [failed] at succeeded
      cases succeeded
  · have none : ∀ exact, ¬step.IsExact left.value exact := not_exists.mp possible
    obtain ⟨fault, failed⟩ := result_of_not_isExact none
    exact .inr ⟨fun exact isExact => absurd isExact (none exact), next_of_error failed⟩

end CalculationStep

namespace Number

open CalculationStep (IsExactRun)

theorem calculate_append_singleton (start : Number) (steps : List CalculationStep)
    (step : CalculationStep) :
    start.calculate (steps ++ [step]) = step.next (start.calculate steps) := by
  rw [calculate, calculate, List.foldl_append]
  rfl

theorem exists_calculate_integer (start : Integer) (steps : List CalculationStep) :
    ∃ reached : Integer, (Number.integer start).calculate steps = .integer reached ∧
      IsExactRun start.value steps reached.value := by
  induction steps generalizing start with
  | nil => exact ⟨start, rfl, .nil⟩
  | cons step rest ih =>
      rcases CalculationStep.next_integer start step with
        ⟨exact, isExact, next⟩ | ⟨past, next⟩
      · obtain ⟨reached, calculated, run⟩ := ih exact
        refine ⟨reached, ?_, .taken isExact exact.inRange run⟩
        rw [← calculated, calculate, List.foldl_cons, next, calculate]
      · obtain ⟨reached, calculated, run⟩ := ih start
        refine ⟨reached, ?_, .passed past run⟩
        rw [← calculated, calculate, List.foldl_cons, next, calculate]

/-- Every calculation from an integer is exact and checked. It stays an integer; a
step from wherever it stands gives the exact result in range, reports one that is
out of range as such, refuses negative exponents and decimals, and changes nothing
when it fails. A power that is refused without being computed is out of range, and
the powers of `-1`, `0` and `1` are all given. -/
theorem calculate_exact (start : Integer) (steps : List CalculationStep) :
    ∃ reached : Integer, (Number.integer start).calculate steps = .integer reached ∧
      IsExactRun start.value steps reached.value ∧
      (∀ (step : CalculationStep) (exact : Int), step.IsExact reached.value exact →
        (∀ inRange : Integer.InRange exact,
          step.result (.integer reached) = .ok (.integer ⟨exact, inRange⟩)) ∧
        (¬Integer.InRange exact → ∃ fault, step.ReportsOverflow reached exact fault ∧
          step.result (.integer reached) = .error fault)) ∧
      (∀ exponent : Integer, exponent.value < 0 →
        (CalculationStep.combine .pow (.number (.integer exponent))).result (.integer reached) =
          .error .negativeExponent) ∧
      (∀ (operator : Operator) (right : Decimal),
        (CalculationStep.combine operator (.number (.decimal right))).result (.integer reached) =
          .error (.unsupported operator .integer .decimal)) ∧
      (∀ (step : CalculationStep) (fault : NumberFault),
        step.result (.integer reached) = .error fault →
        (Number.integer start).calculate (steps ++ [step]) = .integer reached) ∧
      (∀ base exponent : Integer,
        base.pow exponent = .error (.powerOutOfRange base.value exponent.value) →
        ¬Integer.InRange (base.value ^ exponent.value.toNat)) ∧
      (∀ base exponent : Integer, base.value.natAbs ≤ 1 → 0 ≤ exponent.value →
        ∃ inRange, base.pow exponent = .ok ⟨base.value ^ exponent.value.toNat, inRange⟩) ∧
      Integer.pow ⟨-2, by decide⟩ ⟨63, by decide⟩ = .ok ⟨Integer.least, by decide⟩ := by
  obtain ⟨reached, calculated, run⟩ := exists_calculate_integer start steps
  refine ⟨reached, calculated, run, ?_, ?_, ?_, ?_, ?_, ?_, by decide⟩
  · intro step exact isExact
    exact ⟨CalculationStep.result_of_inRange isExact,
      CalculationStep.result_of_not_inRange isExact⟩
  · intro exponent negative
    exact CalculationStep.result_of_negative_exponent reached negative
  · intro operator right
    exact CalculationStep.result_of_decimal operator reached right
  · intro step fault failed
    rw [calculate_append_singleton, calculated, CalculationStep.next_of_error failed]
  · intro base exponent refused
    exact Integer.not_inRange_of_powerOutOfRange refused
  · intro base exponent small nonneg
    exact Integer.pow_of_natAbs_le_one small nonneg

end Number

end ExprLexer
