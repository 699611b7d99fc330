import ExprLexer.Binary64.Arithmetic
import Mathlib.Tactic.Tauto

/-! Quotients and remainders that fault. A quotient needs a divisor other than zero, and a
remainder must not be NaN unless a term is. -/

set_option autoImplicit false

namespace ExprLexer.Binary64

inductive Fault where
  | divisionByZero
  | domain
  deriving DecidableEq

def div? (left right : Binary64) : Except Fault Binary64 :=
  if right.isZero then .error .divisionByZero else .ok (left.div right)

/-- The remainder, unless it would be NaN without a term that is. -/
def rem? (left right : Binary64) : Except Fault Binary64 :=
  if left.rem right = .nan ∧ left ≠ .nan ∧ right ≠ .nan then .error .domain
  else .ok (left.rem right)

section Terms

variable {left right : Binary64}

theorem div?_of_not_isZero (divisor : ¬right.isZero = true) :
    left.div? right = .ok (left.div right) :=
  if_neg divisor

theorem rem_eq_nan_iff :
    left.rem right = .nan ↔
      left = .nan ∨ left.isInfinite = true ∨ right = .nan ∨ right.isZero = true := by
  cases left with
  | nan => simp [rem]
  | infinity => cases right <;> simp [rem, isInfinite]
  | finite _ units _ =>
      cases right with
      | nan => simp [rem]
      | infinity => simp [rem, isInfinite, isZero]
      | finite _ divisor _ =>
          by_cases zero : divisor = 0 <;> simp [rem, isInfinite, isZero, zero]

theorem rem?_of_guarded (sound : ¬(right.isZero = true ∨ left.isInfinite = true)) :
    left.rem? right = .ok (left.rem right) := by
  rw [rem?, if_neg]
  rintro ⟨nan, dividend, divisor⟩
  rw [rem_eq_nan_iff] at nan
  tauto

/-- The guard of the remainder stands before the faults and before nothing else. -/
theorem rem?_eq_error_iff (dividend : left ≠ .nan) (divisor : right ≠ .nan) :
    left.rem? right = .error .domain ↔ right.isZero = true ∨ left.isInfinite = true := by
  by_cases guarded : right.isZero = true ∨ left.isInfinite = true
  · have nan : left.rem right = .nan := rem_eq_nan_iff.mpr (by tauto)
    exact iff_of_true (if_pos ⟨nan, dividend, divisor⟩) guarded
  · rw [rem?_of_guarded guarded]
    exact iff_of_false nofun guarded

end Terms

end ExprLexer.Binary64
