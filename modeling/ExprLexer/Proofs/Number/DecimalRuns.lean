import ExprLexer.Proofs.Number.ExactRemainder
import ExprLexer.Proofs.Number.ExactRuns
import ExprLexer.Proofs.Number.RecoveredPower

/-! Calculations with decimals never fail. Quotients, remainders and powers of binary64 values
have faults, and each of them is guarded against or recovered from, whatever the values are
that a calculation has reached. Steps with operands of another kind are refused. -/

set_option autoImplicit false

namespace ExprLexer

namespace Binary64

variable {left right : Binary64}

theorem div_of_isZero (divisor : right.isZero = true) :
    left.div right =
      if left.isZero || left.isNan then .nan
      else .infinity (left.isNegative ^^ right.isNegative) := by
  obtain ⟨sign, rfl⟩ := eq_zero_of_isZero divisor
  cases left with
  | nan | infinity => rfl
  | finite negative units _ =>
      by_cases none : units = 0 <;> simp [zero, div, isZero, isNan, isNegative, none]

theorem infinity_mul_signedOne (negative sign : Bool) :
    (infinity negative).mul (if sign then one.neg else one) = .infinity (negative ^^ sign) := by
  have nonzero : unitsPerOne ≠ 0 := (Nat.cast_pos.mp unitsPerOne_pos).ne'
  rw [one_eq]
  cases sign with
  | false => rw [if_neg Bool.false_ne_true, mul, if_neg nonzero]
  | true => rw [if_pos rfl, neg, mul, if_neg nonzero, Bool.not_false]

end Binary64

namespace Decimal

open Binary64 (Fault)

/-- The quotient by a divisor other than zero, or what takes its place: NaN, or an infinity with
the sign of the dividend times one with the sign of the divisor. -/
def guardedDiv (left right : Decimal) : Except Fault Decimal :=
  if !right.value.isZero then (left.value.div? right.value).map .mk
  else if left.value.isZero || left.value.isNan then .ok ⟨.nan⟩
  else
    .ok ⟨(Binary64.infinity left.value.isNegative).mul
      (if right.value.isNegative then Binary64.one.neg else Binary64.one)⟩

/-- An operator on two decimals, with the faults that are neither prevented nor caught. -/
def evaluate : Operator → Decimal → Decimal → Except Fault Decimal
  | .add, left, right => .ok ⟨left.value.add right.value⟩
  | .sub, left, right => .ok ⟨left.value.sub right.value⟩
  | .mul, left, right => .ok ⟨left.value.mul right.value⟩
  | .div, left, right => left.guardedDiv right
  | .mod, left, right => left.guardedMod right
  | .pow, left, right =>
      .ok ⟨Binary64.recovered left.value right.value (left.value.pow? right.value)⟩

theorem guardedDiv_eq (left right : Decimal) : left.guardedDiv right = .ok (left.div right) := by
  unfold guardedDiv div
  split
  next divisor =>
    rw [Bool.not_eq_true'] at divisor
    rw [Binary64.div?_of_not_isZero (Bool.eq_false_iff.mp divisor)]
    rfl
  next =>
    split
    next => rfl
    next => rw [Binary64.infinity_mul_signedOne]

theorem div_eq (left right : Decimal) : left.div right = ⟨left.value.div right.value⟩ := by
  unfold div
  split
  next => rfl
  next divisor =>
    rw [Bool.not_eq_true', Bool.not_eq_false] at divisor
    rw [Binary64.div_of_isZero divisor]
    split <;> rfl

theorem evaluate_eq (operator : Operator) (left right : Decimal) :
    evaluate operator left right = .ok (apply operator left right) := by
  cases operator with
  | add | sub | mul => rfl
  | div => exact guardedDiv_eq left right
  | mod => exact guardedMod_eq left right
  | pow => rw [evaluate, apply, pow_eq_recovered]

theorem evaluate_div (left right : Decimal) :
    evaluate .div left right = .ok ⟨left.value.div right.value⟩ := by
  rw [evaluate_eq, apply, div_eq]

end Decimal

/-! ## Steps and runs -/

/-- A step whose operand, if it has one, is a decimal. -/
inductive DecimalStep where
  | negate
  | combine (operator : Operator) (right : Decimal)

namespace DecimalStep

open Binary64 (Fault)

def toStep : DecimalStep → CalculationStep
  | .negate => .negate
  | .combine operator right => .combine operator (.number (.decimal right))

/-- The decimal that a step gives, unless there is a fault. -/
def attempt (left : Decimal) : DecimalStep → Except Fault Decimal
  | .negate => .ok left.neg
  | .combine operator right => Decimal.evaluate operator left right

/-- The decimal at the end of a sequence of steps, of which none may have a fault. -/
def run (start : Decimal) (steps : List DecimalStep) : Except Fault Decimal :=
  steps.foldlM attempt start

theorem exists_attempt (left : Decimal) (step : DecimalStep) :
    ∃ next, step.attempt left = .ok next ∧
      step.toStep.result (.decimal left) = .ok (.decimal next) := by
  cases step with
  | negate => exact ⟨_, rfl, rfl⟩
  | combine operator right => exact ⟨_, Decimal.evaluate_eq operator left right, rfl⟩

end DecimalStep

namespace CalculationStep

/-- The step on decimals that a step is, unless its operand is of another kind. -/
def decimal? : CalculationStep → Option DecimalStep
  | .negate => some .negate
  | .combine operator (.number (.decimal right)) => some (.combine operator right)
  | _ => none

theorem decimal?_eq_some {step : CalculationStep} {taken : DecimalStep}
    (isDecimal : step.decimal? = some taken) : step = taken.toStep := by
  rcases step with _ | ⟨operator, (right | right) | datum⟩ <;> cases isDecimal <;> rfl

theorem result_of_not_decimal {step : CalculationStep} (refused : step.decimal? = none)
    (left : Decimal) : ∃ fault, step.result (.decimal left) = .error fault := by
  rcases step with _ | ⟨operator, (right | right) | datum⟩
  · cases refused
  · cases refused
  · exact ⟨_, rfl⟩
  · exact ⟨_, rfl⟩

theorem result_of_integer (operator : Operator) (left : Decimal) (right : Integer) :
    (combine operator (.number (.integer right))).result (.decimal left) =
      .error (.unsupported operator .decimal .integer) := by
  cases operator <;> rfl

theorem next_of_ok {number value : Number} {step : CalculationStep}
    (given : step.result number = .ok value) : step.next number = value := by
  rw [next, given]

end CalculationStep

namespace Number

theorem exists_calculate_decimal (start : Decimal) (steps : List CalculationStep) :
    ∃ reached : Decimal, (Number.decimal start).calculate steps = .decimal reached ∧
      DecimalStep.run start (steps.filterMap CalculationStep.decimal?) = .ok reached := by
  induction steps generalizing start with
  | nil => exact ⟨start, rfl, rfl⟩
  | cons step rest ih =>
      cases isDecimal : step.decimal? with
      | some taken =>
          obtain ⟨next, attempted, given⟩ := taken.exists_attempt start
          obtain ⟨reached, calculated, run⟩ := ih next
          refine ⟨reached, ?_, ?_⟩
          · rw [← calculated, calculate, List.foldl_cons,
              CalculationStep.decimal?_eq_some isDecimal, CalculationStep.next_of_ok given,
              calculate]
          · rw [List.filterMap_cons_some isDecimal, DecimalStep.run, List.foldlM_cons, attempted]
            exact run
      | none =>
          obtain ⟨fault, failed⟩ := CalculationStep.result_of_not_decimal isDecimal start
          obtain ⟨reached, calculated, run⟩ := ih start
          refine ⟨reached, ?_, ?_⟩
          · rw [← calculated, calculate, List.foldl_cons, CalculationStep.next_of_error failed,
              calculate]
          · rw [List.filterMap_cons_none isDecimal]
            exact run

/-- Every calculation from a decimal stays a decimal. From wherever it stands, each step on
decimals gives a decimal and has no fault. The quotient by a zero is NaN for a zero or NaN, and
otherwise the infinity with the sign of the quotient. Integers are refused, and change
nothing. -/
theorem calculate_decimal (start : Decimal) (steps : List CalculationStep) :
    ∃ reached : Decimal, (Number.decimal start).calculate steps = .decimal reached ∧
      DecimalStep.run start (steps.filterMap CalculationStep.decimal?) = .ok reached ∧
      (∀ step : DecimalStep, ∃ next : Decimal,
        step.attempt reached = .ok next ∧
        step.toStep.result (.decimal reached) = .ok (.decimal next) ∧
        (Number.decimal start).calculate (steps ++ [step.toStep]) = .decimal next) ∧
      (∀ divisor : Decimal,
        Decimal.evaluate .div reached divisor = .ok ⟨reached.value.div divisor.value⟩) ∧
      (∀ divisor : Decimal, divisor.value.isZero = true →
        Decimal.evaluate .div reached divisor =
          if reached.value.isZero || reached.value.isNan then .ok ⟨.nan⟩
          else .ok ⟨.infinity (reached.value.isNegative ^^ divisor.value.isNegative)⟩) ∧
      (∀ (operator : Operator) (right : Integer),
        (CalculationStep.combine operator (.number (.integer right))).result
            (.decimal reached) = .error (.unsupported operator .decimal .integer) ∧
        (Number.decimal start).calculate
            (steps ++ [.combine operator (.number (.integer right))]) = .decimal reached) := by
  obtain ⟨reached, calculated, run⟩ := exists_calculate_decimal start steps
  refine ⟨reached, calculated, run, ?_, Decimal.evaluate_div reached, ?_, ?_⟩
  · intro step
    obtain ⟨next, attempted, given⟩ := step.exists_attempt reached
    refine ⟨next, attempted, given, ?_⟩
    rw [calculate_append_singleton, calculated, CalculationStep.next_of_ok given]
  · intro divisor isZero
    rw [Decimal.evaluate_div, Binary64.div_of_isZero isZero]
    split <;> rfl
  · intro operator right
    have refused := CalculationStep.result_of_integer operator reached right
    refine ⟨refused, ?_⟩
    rw [calculate_append_singleton, calculated, CalculationStep.next_of_error refused]

end Number

end ExprLexer
