import ExprLexer.Binary64.Basic

/-!
# Rounding to binary64

One rounding serves every source of values: the quotient of two whole numbers
of units goes to the nearest representable magnitude, a tie to the even
significand, and to infinity when that magnitude is past the largest finite one.
-/

set_option autoImplicit false

namespace ExprLexer

attribute [local instance (1100)] instPowNat

/-- The whole number nearest to a quotient, the even one of two equally near. -/
def roundHalfEven (numerator denominator : Nat) : Nat :=
  let floor := numerator / denominator
  let twiceRest := 2 * (numerator % denominator)
  if twiceRest < denominator then floor
  else if twiceRest = denominator then floor + floor % 2
  else floor + 1

theorem roundHalfEven_le (numerator denominator : Nat) :
    roundHalfEven numerator denominator ≤ numerator / denominator + 1 := by
  simp only [roundHalfEven]
  split
  · exact Nat.le_succ _
  · split
    · exact Nat.add_le_add_left (Nat.le_of_lt_succ (Nat.mod_lt _ (by decide))) _
    · exact Nat.le_refl _

namespace Binary64

theorem representable_of_le {significand shift : Nat}
    (significand_le : significand ≤ 2 ^ (53 : Nat))
    (below : significand * 2 ^ shift < unitsLimit) :
    Representable (significand * 2 ^ shift) := by
  refine ⟨below, ?_⟩
  rcases Nat.lt_or_eq_of_le significand_le with significand_lt | rfl
  · exact ⟨significand, shift, significand_lt, rfl⟩
  · refine ⟨2 ^ (52 : Nat), shift + 1, by decide, ?_⟩
    rw [Nat.pow_succ 2 52, Nat.pow_succ 2 shift, Nat.mul_assoc, Nat.mul_comm 2]

theorem leading_bits_lt (numerator denominator : Nat) :
    numerator / (denominator * 2 ^ spacing (numerator / denominator)) < 2 ^ (53 : Nat) := by
  rw [← Nat.div_div_eq_div_mul]
  apply Nat.div_lt_of_lt_mul
  rw [← Nat.pow_add]
  calc numerator / denominator
      < 2 ^ ((numerator / denominator).log2 + 1) := Nat.lt_log2_self
    _ ≤ 2 ^ (spacing (numerator / denominator) + 53) :=
        Nat.pow_le_pow_right (by decide) (by unfold spacing; omega)

/-- The binary64 value nearest to `numerator / denominator` units. -/
def nearest (negative : Bool) (numerator denominator : Nat) : Binary64 :=
  let shift := spacing (numerator / denominator)
  let significand := roundHalfEven numerator (denominator * 2 ^ shift)
  have significand_le : significand ≤ 2 ^ (53 : Nat) :=
    Nat.le_trans (roundHalfEven_le _ _) (leading_bits_lt numerator denominator)
  if below : significand * 2 ^ shift < unitsLimit then
    .finite negative (significand * 2 ^ shift) (representable_of_le significand_le below)
  else .infinity negative

/-- The value nearest to a whole number; infinite when the number is too large. -/
def ofInt (value : Int) : Binary64 :=
  nearest (decide (value < 0)) (value.natAbs * unitsPerOne) 1

end Binary64

end ExprLexer
