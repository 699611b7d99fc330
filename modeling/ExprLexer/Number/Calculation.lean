import ExprLexer.Number.Arithmetic

/-!
# Calculations

A calculation goes from number to number by negations and by operators with a
right operand. A step that has no result leaves the number as it was.
-/

set_option autoImplicit false

namespace ExprLexer

inductive CalculationStep where
  | negate
  | combine (operator : Operator) (right : Operand)
  deriving DecidableEq

namespace CalculationStep

def result (number : Number) : CalculationStep → Except NumberFault Number
  | .negate => number.neg
  | .combine operator right => Operand.apply operator (.number number) right

def next (number : Number) (step : CalculationStep) : Number :=
  match step.result number with
  | .ok value => value
  | .error _ => number

end CalculationStep

/-- The number after a sequence of steps. -/
def Number.calculate (start : Number) (steps : List CalculationStep) : Number :=
  steps.foldl CalculationStep.next start

end ExprLexer
