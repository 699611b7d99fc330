import ExprLexer.Proofs.Binary64.NearestEven
import ExprLexer.Proofs.Numeral.Value
import Mathlib.Tactic.Ring

/-! The value of a numeral is the one nearest to the number that it denotes. -/

set_option autoImplicit false

namespace ExprLexer.Numeral

attribute [local instance (1100)] instPowNat

/-- The magnitude of the number that a numeral denotes. -/
def magnitude (numeral : Numeral) : ℚ := numeral.significand * (10 : ℚ) ^ numeral.exponent

theorem zpow_ten_eq_div (exponent : Int) :
    (10 : ℚ) ^ exponent = (10 : ℚ) ^ exponent.toNat / (10 : ℚ) ^ (-exponent).toNat := by
  cases exponent with
  | ofNat zeros => simp
  | negSucc lastPlace => simp [zpow_negSucc]

theorem isNearest_toBinary64 (numeral : Numeral) :
    Binary64.IsNearest numeral.negative numeral.magnitude numeral.toBinary64 := by
  rw [toBinary64_eq_nearestBinary64]
  apply Binary64.isNearest_nearest numeral.negative (Nat.pow_pos (by decide))
  rw [magnitude, zpow_ten_eq_div]
  push_cast
  ring

end ExprLexer.Numeral
