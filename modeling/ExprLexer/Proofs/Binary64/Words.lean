import ExprLexer.Binary64.Basic

/-! Words and values. Every word but the NaNs is the word of its value. -/

set_option autoImplicit false

namespace ExprLexer.Binary64

attribute [local instance (1100)] instPowNat

def exponentBits (word : UInt64) : Nat := word.toNat / 2 ^ (52 : Nat) % 2 ^ (11 : Nat)

def fractionBits (word : UInt64) : Nat := word.toNat % 2 ^ (52 : Nat)

/-- All exponent bits of a NaN are set, and some fraction bit. -/
def IsNanWord (word : UInt64) : Prop := exponentBits word = 2047 ∧ fractionBits word ≠ 0

theorem spacing_of_lt {fraction : Nat} (fraction_lt : fraction < 2 ^ (52 : Nat)) :
    spacing fraction = 0 := by
  by_cases zero : fraction = 0
  · rw [zero]
    decide
  · have log := (Nat.log2_lt zero).mpr fraction_lt
    unfold spacing
    omega

theorem spacing_of_normal {fraction : Nat} (fraction_lt : fraction < 2 ^ (52 : Nat))
    (exponent : Nat) :
    spacing ((2 ^ (52 : Nat) + fraction) * 2 ^ exponent) = exponent := by
  have positive := Nat.two_pow_pos exponent
  have log : ((2 ^ (52 : Nat) + fraction) * 2 ^ exponent).log2 = 52 + exponent := by
    rw [Nat.log2_eq_iff (Nat.mul_ne_zero (by omega) (by omega))]
    constructor
    · rw [Nat.pow_add]
      exact Nat.mul_le_mul_right _ (Nat.le_add_right _ _)
    · calc (2 ^ (52 : Nat) + fraction) * 2 ^ exponent
          < 2 ^ (53 : Nat) * 2 ^ exponent := Nat.mul_lt_mul_of_pos_right (by omega) positive
        _ = 2 ^ (52 + exponent + 1) := by rw [← Nat.pow_add, Nat.add_right_comm]
  rw [spacing, log]
  exact Nat.add_sub_cancel_left 52 exponent

theorem ofWord_of_isNanWord {word : UInt64} (isNan : IsNanWord word) : ofWord word = .nan := by
  obtain ⟨full, fraction⟩ := isNan
  unfold exponentBits at full
  unfold fractionBits at fraction
  have nonzero : word.toNat / 2 ^ (52 : Nat) % 2 ^ (11 : Nat) ≠ 0 := by omega
  unfold ofWord
  dsimp only
  rw [if_neg nonzero, dif_pos full, if_neg fraction]

theorem ofWord_parts {word : UInt64} (notNan : ¬IsNanWord word) :
    (ofWord word).isNegative = decide (2 ^ (63 : Nat) ≤ word.toNat) ∧
      (ofWord word).magnitudeBits = exponentBits word * 2 ^ (52 : Nat) + fractionBits word := by
  have fraction_lt : word.toNat % 2 ^ (52 : Nat) < 2 ^ (52 : Nat) :=
    Nat.mod_lt _ (Nat.two_pow_pos 52)
  unfold IsNanWord at notNan
  unfold exponentBits fractionBits at notNan ⊢
  unfold ofWord
  dsimp only
  split
  next subnormal =>
    rw [magnitudeBits, spacing_of_lt fraction_lt, subnormal]
    exact ⟨rfl, by omega⟩
  next normal =>
    split
    next full =>
      split
      next infinite =>
        rw [magnitudeBits, full, infinite]
        exact ⟨rfl, rfl⟩
      next other => exact absurd ⟨full, other⟩ notNan
    next finite =>
      rw [magnitudeBits, spacing_of_normal fraction_lt,
        Nat.mul_div_cancel _ (Nat.two_pow_pos _)]
      exact ⟨rfl, by omega⟩

theorem toWord_ofWord {word : UInt64} (notNan : ¬IsNanWord word) :
    (ofWord word).toWord = word := by
  have bound := word.toNat_lt
  obtain ⟨sign, magnitude⟩ := ofWord_parts notNan
  unfold exponentBits fractionBits at magnitude
  rw [toWord, sign, magnitude, ← UInt64.toNat_inj, UInt64.toNat_ofNat']
  simp only [decide_eq_true_eq]
  split <;> omega

end ExprLexer.Binary64
