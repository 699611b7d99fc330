import ExprLexer.Number.Decimal
import ExprLexer.Proofs.Binary64.ExactValue
import ExprLexer.Proofs.Binary64.Faults

/-! The remainder of decimals is exact: no rounding takes place, however far apart the
terms are. It is always given, since the faults of the remainder are guarded against. -/

set_option autoImplicit false

namespace ExprLexer

namespace Binary64

section Finite

variable {negative sign : Bool} {units divisor : Nat} {representable : Representable units}
  {divisorRepresentable : Representable divisor}

theorem rem_finite (nonzero : divisor ≠ 0) :
    rem (.finite negative units representable) (.finite sign divisor divisorRepresentable) =
      .finite negative (units % divisor)
        (representable_mod representable divisorRepresentable) := by
  rw [rem, if_neg nonzero]

theorem abs_number_mod_lt (nonzero : divisor ≠ 0) (rest : Representable (units % divisor)) :
    |number (.finite negative (units % divisor) rest)| <
      |number (.finite sign divisor divisorRepresentable)| := by
  rw [abs_number, abs_number]
  have smaller : units % divisor < divisor := Nat.mod_lt _ (Nat.pos_of_ne_zero nonzero)
  exact div_lt_div_of_pos_right (Nat.cast_lt.mpr smaller) unitsPerOne_pos

/-- What a remainder leaves of its dividend is a multiple of the divisor. -/
theorem exists_number_sub_eq (rest : Representable (units % divisor)) :
    ∃ multiple : Int,
      number (.finite negative units representable) -
          number (.finite negative (units % divisor) rest) =
        multiple * number (.finite sign divisor divisorRepresentable) := by
  have split := Int.mul_ediv_add_emod units divisor
  obtain ⟨multiple, whole⟩ : ∃ multiple : Int,
      signedUnits (.finite negative units representable) -
          signedUnits (.finite negative (units % divisor) rest) =
        multiple * signedUnits (.finite sign divisor divisorRepresentable) := by
    refine ⟨(if negative = sign then 1 else -1) * ((units : Int) / divisor), ?_⟩
    cases negative <;> cases sign <;> simp [signedUnits] <;> linarith
  refine ⟨multiple, ?_⟩
  rw [number, number, number, ← sub_div, ← Int.cast_sub, whole, Int.cast_mul, mul_div_assoc]

theorem rem_infinite {left right : Binary64} (dividend : left.isFinite = true)
    (divisor : right.isInfinite = true) : left.rem right = left := by
  cases left with
  | nan | infinity => cases dividend
  | finite =>
      cases right with
      | nan | finite => cases divisor
      | infinity => rfl

end Finite

end Binary64

namespace Decimal

open Binary64 (Fault)

/-- The remainder behind its guard, with the faults of the remainder left as they are. -/
def guardedMod (left right : Decimal) : Except Fault Decimal :=
  if right.value.isZero || left.value.isInfinite then .ok ⟨.nan⟩
  else (left.value.rem? right.value).map .mk

theorem guardedMod_eq (left right : Decimal) : left.guardedMod right = .ok (left.mod right) := by
  unfold guardedMod mod
  split
  next => rfl
  next sound =>
    rw [Bool.or_eq_true] at sound
    rw [Binary64.rem?_of_guarded sound]
    rfl

theorem mod_eq_rem (left right : Decimal) :
    (left.mod right).value = left.value.rem right.value := by
  unfold mod
  split
  next guarded =>
    rw [Bool.or_eq_true] at guarded
    exact (Binary64.rem_eq_nan_iff.mpr (by tauto)).symm
  next => rfl

/-- A remainder is given for every two decimals: behind the guard, which stands before exactly
the faults, no fault is left. It is NaN only where it has to be, and the dividend for an
infinite divisor. For a finite dividend and a finite divisor other than zero it is exact: it is
smaller than the divisor, has the sign of the dividend also when it is zero, and is off the
dividend by a multiple of the divisor. -/
theorem mod_exact (left right : Decimal) :
    left.guardedMod right = .ok (left.mod right) ∧
    (left.value ≠ .nan → right.value ≠ .nan →
      (left.value.rem? right.value = .error .domain ↔
        right.value.isZero = true ∨ left.value.isInfinite = true)) ∧
    ((left.mod right).value = .nan ↔
      left.value = .nan ∨ left.value.isInfinite = true ∨
        right.value = .nan ∨ right.value.isZero = true) ∧
    (left.value.isFinite = true → right.value.isInfinite = true → left.mod right = left) ∧
    (left.value.isFinite = true → right.value.isFinite = true → right.value.isZero = false →
      (left.mod right).value.isFinite = true ∧
      |(left.mod right).value.number| < |right.value.number| ∧
      (∃ multiple : Int,
        left.value.number - (left.mod right).value.number = multiple * right.value.number) ∧
      (left.mod right).value.isNegative = left.value.isNegative) := by
  refine ⟨guardedMod_eq left right, Binary64.rem?_eq_error_iff, ?_, ?_, ?_⟩
  · rw [mod_eq_rem]
    exact Binary64.rem_eq_nan_iff
  · intro dividend divisor
    have same : (left.mod right).value = left.value := by
      rw [mod_eq_rem, Binary64.rem_infinite dividend divisor]
    exact congrArg Decimal.mk same
  · intro dividend divisor nonzero
    rw [mod_eq_rem]
    obtain ⟨negative, units, representable, dividend⟩ := Binary64.isFinite_iff.mp dividend
    obtain ⟨sign, other, otherRepresentable, divisor⟩ := Binary64.isFinite_iff.mp divisor
    rw [divisor, Bool.eq_false_iff, ne_eq, Binary64.isZero_finite_iff] at nonzero
    rw [dividend, divisor, Binary64.rem_finite nonzero]
    exact ⟨rfl, Binary64.abs_number_mod_lt nonzero _, Binary64.exists_number_sub_eq _, rfl⟩

end Decimal

end ExprLexer
