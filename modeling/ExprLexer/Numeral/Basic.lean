import ExprLexer.Binary64.Rounding

/-!
# Decimal numerals

A numeral is an exact decimal number with its sign. Its binary64 value is the
nearest one; the exponent may be of any size, since numerals that certainly
overflow or vanish are recognised before a power of ten is formed.
-/

set_option autoImplicit false

namespace ExprLexer

attribute [local instance (1100)] instPowNat

/-- The number `± significand * 10 ^ exponent`. A zero keeps its sign. -/
structure Numeral where
  negative : Bool
  significand : Nat
  exponent : Int
  deriving DecidableEq

namespace Numeral

/-- The numeral is at least `10 ^ 309` and so past the largest finite value. -/
def Overflows (numeral : Numeral) : Prop :=
  numeral.significand ≠ 0 ∧ 309 ≤ numeral.exponent

/-- The numeral is below half a unit: its significand is below
`2 ^ (log2 + 1)`, and each negative decimal place takes off three bits. -/
def Vanishes (numeral : Numeral) : Prop :=
  numeral.significand.log2 + 1 + (Binary64.oneExponent + 1 : Nat) < -3 * numeral.exponent

instance (numeral : Numeral) : Decidable numeral.Overflows :=
  inferInstanceAs (Decidable (_ ∧ _))

instance (numeral : Numeral) : Decidable numeral.Vanishes :=
  inferInstanceAs (Decidable (_ < _))

/-- The nearest binary64 value of the exact number, without regard to cost. -/
def nearestBinary64 (numeral : Numeral) : Binary64 :=
  Binary64.nearest numeral.negative
    (numeral.significand * 10 ^ numeral.exponent.toNat * Binary64.unitsPerOne)
    (10 ^ (-numeral.exponent).toNat)

/-- The nearest binary64 value, ties to the even significand. -/
def toBinary64 (numeral : Numeral) : Binary64 :=
  if numeral.Overflows then .infinity numeral.negative
  else if numeral.significand = 0 ∨ numeral.Vanishes then Binary64.zero numeral.negative
  else numeral.nearestBinary64

end Numeral

end ExprLexer
