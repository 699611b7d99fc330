import ExprLexer.Binary64.Rounding

/-!
# Binary64 arithmetic

Each operation computes its exact result in units and rounds once. The
remainder needs no rounding: what is left of representable magnitudes is
representable.
-/

set_option autoImplicit false

namespace ExprLexer.Binary64

attribute [local instance (1100)] instPowNat

/-- The sum. Opposite values add to the positive zero, and only two negative
zeros to the negative one; opposite infinities have no sum. -/
def add : Binary64 → Binary64 → Binary64
  | .nan, _ => .nan
  | _, .nan => .nan
  | .infinity left, .infinity right => if left = right then .infinity left else .nan
  | .infinity left, .finite _ _ _ => .infinity left
  | .finite _ _ _, .infinity right => .infinity right
  | .finite leftNegative left leftRep, .finite rightNegative right rightRep =>
      let total := signedUnits (.finite leftNegative left leftRep)
        + signedUnits (.finite rightNegative right rightRep)
      if total = 0 then zero (leftNegative && rightNegative)
      else nearest (decide (total < 0)) total.natAbs 1

def sub (left right : Binary64) : Binary64 := add left right.neg

def mul : Binary64 → Binary64 → Binary64
  | .nan, _ => .nan
  | _, .nan => .nan
  | .infinity left, .infinity right => .infinity (left != right)
  | .infinity left, .finite right units _ =>
      if units = 0 then .nan else .infinity (left != right)
  | .finite left units _, .infinity right =>
      if units = 0 then .nan else .infinity (left != right)
  | .finite leftNegative left _, .finite rightNegative right _ =>
      nearest (leftNegative != rightNegative) (left * right) unitsPerOne

/-- The quotient. A zero divisor gives an infinity, or NaN for a zero dividend. -/
def div : Binary64 → Binary64 → Binary64
  | .nan, _ => .nan
  | _, .nan => .nan
  | .infinity _, .infinity _ => .nan
  | .infinity left, .finite right _ _ => .infinity (left != right)
  | .finite left _ _, .infinity right => zero (left != right)
  | .finite leftNegative left _, .finite rightNegative right _ =>
      if right = 0 then
        if left = 0 then .nan else .infinity (leftNegative != rightNegative)
      else nearest (leftNegative != rightNegative) (left * unitsPerOne) right

/-- The remainder of representable magnitudes is representable: it is a multiple
of the coarser or of the finer grid, and stays below both magnitudes. -/
theorem representable_mod {left right : Nat} (leftRep : Representable left)
    (rightRep : Representable right) : Representable (left % right) := by
  obtain ⟨left_lt, leftSignificand, leftShift, leftSignificand_lt, left_eq⟩ := leftRep
  obtain ⟨_, rightSignificand, rightShift, rightSignificand_lt, right_eq⟩ := rightRep
  refine ⟨Nat.lt_of_le_of_lt (Nat.mod_le _ _) left_lt, ?_⟩
  rcases Nat.le_total leftShift rightShift with finer | finer
  · obtain ⟨extra, rfl⟩ := Nat.exists_eq_add_of_le finer
    refine ⟨leftSignificand % (rightSignificand * 2 ^ extra), leftShift,
      Nat.lt_of_le_of_lt (Nat.mod_le _ _) leftSignificand_lt, ?_⟩
    rw [left_eq, right_eq, Nat.add_comm leftShift, Nat.pow_add, ← Nat.mul_assoc,
      Nat.mul_mod_mul_right]
  · obtain ⟨extra, rfl⟩ := Nat.exists_eq_add_of_le finer
    rw [left_eq, right_eq, Nat.add_comm rightShift, Nat.pow_add, ← Nat.mul_assoc,
      Nat.mul_mod_mul_right]
    rcases Nat.eq_zero_or_pos rightSignificand with rfl | positive
    · refine ⟨leftSignificand, extra + rightShift, leftSignificand_lt, ?_⟩
      rw [Nat.mod_zero, Nat.pow_add, Nat.mul_assoc]
    · exact ⟨_, rightShift,
        Nat.lt_trans (Nat.mod_lt _ positive) rightSignificand_lt, rfl⟩

/-- The exact remainder of truncated division, with the sign of the dividend.
An infinite dividend or a zero divisor gives NaN, an infinite divisor the dividend. -/
def rem : Binary64 → Binary64 → Binary64
  | .nan, _ => .nan
  | _, .nan => .nan
  | .infinity _, _ => .nan
  | .finite negative units representable, .infinity _ => .finite negative units representable
  | .finite negative left leftRep, .finite _ right rightRep =>
      if right = 0 then .nan else .finite negative (left % right) (representable_mod leftRep rightRep)

end ExprLexer.Binary64
