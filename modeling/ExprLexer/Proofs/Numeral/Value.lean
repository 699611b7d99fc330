import ExprLexer.Numeral.Basic
import ExprLexer.Proofs.Binary64.Nearest

/-! The shortcuts for certain overflow and certain vanishing give the value nearest
to the exact number. Numerals of one number therefore have one value. -/

set_option autoImplicit false

namespace ExprLexer.Numeral

attribute [local instance (1100)] instPowNat

open Binary64 (nearestUnits unitsLimit unitsPerOne)

theorem unitsLimit_le_of_le {exponent : Nat} (large : 309 ≤ exponent) :
    unitsLimit ≤ 10 ^ exponent * unitsPerOne := by
  -- The bound is named, or the power would be computed to compare it.
  generalize bound : 309 = least at large
  have first : unitsLimit ≤ 10 ^ least * unitsPerOne := by
    rw [← bound]
    decide +kernel
  exact Nat.le_trans first (Nat.mul_le_mul_right _ (Nat.pow_le_pow_right (by decide) large))

theorem nearestBinary64_of_overflows {numeral : Numeral} (overflows : numeral.Overflows) :
    numeral.nearestBinary64 = .infinity numeral.negative := by
  obtain ⟨nonzero, large⟩ := overflows
  have places : (-numeral.exponent).toNat = 0 := by omega
  apply Binary64.nearest_of_le
  rw [places, Nat.pow_zero]
  apply Binary64.unitsLimit_le_nearestUnits Nat.one_pos
  rw [Nat.mul_one]
  calc unitsLimit
      ≤ 10 ^ numeral.exponent.toNat * unitsPerOne := unitsLimit_le_of_le (by omega)
    _ ≤ numeral.significand * 10 ^ numeral.exponent.toNat * unitsPerOne :=
        Nat.mul_le_mul_right _ (Nat.le_mul_of_pos_left _ (Nat.pos_of_ne_zero nonzero))

theorem nearestBinary64_of_vanishes {numeral : Numeral}
    (vanishes : numeral.significand = 0 ∨ numeral.Vanishes) :
    numeral.nearestBinary64 = Binary64.zero numeral.negative := by
  apply Binary64.nearest_of_representable
  apply Binary64.nearestUnits_eq_zero
  rcases vanishes with zero | small
  · rw [zero, Nat.zero_mul, Nat.zero_mul]
    exact Nat.pow_pos (by decide)
  · unfold Vanishes at small
    have zeros : numeral.exponent.toNat = 0 := by omega
    have bits : numeral.significand.log2 + 1 + (Binary64.oneExponent + 1) <
        3 * (-numeral.exponent).toNat := by omega
    rw [zeros, Nat.pow_zero, Nat.mul_one, unitsPerOne]
    -- A decimal place takes off more than three bits, and eight is below ten.
    calc 2 * (numeral.significand * 2 ^ Binary64.oneExponent)
        = numeral.significand * 2 ^ (Binary64.oneExponent + 1) := by
          rw [Nat.pow_succ, Nat.mul_left_comm, Nat.mul_comm 2]
      _ < 2 ^ (numeral.significand.log2 + 1) * 2 ^ (Binary64.oneExponent + 1) :=
          Nat.mul_lt_mul_of_pos_right Nat.lt_log2_self (Nat.two_pow_pos _)
      _ = 2 ^ (numeral.significand.log2 + 1 + (Binary64.oneExponent + 1)) := (Nat.pow_add ..).symm
      _ ≤ 2 ^ (3 * (-numeral.exponent).toNat) := Nat.pow_le_pow_right (by decide) (by omega)
      _ = 8 ^ (-numeral.exponent).toNat := by rw [Nat.pow_mul]
      _ ≤ 10 ^ (-numeral.exponent).toNat := Nat.pow_le_pow_left (by decide) _

/-- Reading is exact rounding, whatever the size of the exponent. -/
theorem toBinary64_eq_nearestBinary64 (numeral : Numeral) :
    numeral.toBinary64 = numeral.nearestBinary64 := by
  unfold toBinary64
  split
  next overflows => exact (nearestBinary64_of_overflows overflows).symm
  next =>
    split
    next vanishes => exact (nearestBinary64_of_vanishes vanishes).symm
    next => rfl

theorem toBinary64_mul_pow (negative : Bool) (significand zeros : Nat) (exponent : Int) :
    (⟨negative, significand * 10 ^ zeros, exponent⟩ : Numeral).toBinary64 =
      (⟨negative, significand, exponent + zeros⟩ : Numeral).toBinary64 := by
  rw [toBinary64_eq_nearestBinary64, toBinary64_eq_nearestBinary64]
  apply Binary64.nearest_eq_of_cross negative (Nat.pow_pos (by decide)) (Nat.pow_pos (by decide))
  dsimp only
  have places : zeros + exponent.toNat + (-(exponent + zeros)).toNat =
      (exponent + zeros).toNat + (-exponent).toNat := by omega
  generalize unitsPerOne = scale
  calc significand * 10 ^ zeros * 10 ^ exponent.toNat * scale * 10 ^ (-(exponent + zeros)).toNat
      = significand * 10 ^ (zeros + exponent.toNat + (-(exponent + zeros)).toNat) * scale := by
        rw [Nat.pow_add, Nat.pow_add]
        ac_rfl
    _ = significand * 10 ^ (exponent + zeros).toNat * scale * 10 ^ (-exponent).toNat := by
        rw [places, Nat.pow_add]
        ac_rfl

theorem toBinary64_zero (negative : Bool) (exponent : Int) :
    (⟨negative, 0, exponent⟩ : Numeral).toBinary64 = Binary64.zero negative := by
  rw [toBinary64_eq_nearestBinary64]
  exact nearestBinary64_of_vanishes (.inl rfl)

end ExprLexer.Numeral
