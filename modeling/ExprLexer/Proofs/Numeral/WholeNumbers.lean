import ExprLexer.Proofs.Numeral.FewestDigits

/-! Whole numbers and their shortest numerals. What a whole number is rounded to is whole, and
the shortest numeral of a whole value needs no places after the point. -/

set_option autoImplicit false

namespace ExprLexer.Binary64

attribute [local instance (1100)] instPowNat

variable {units whole : Nat}

theorem isGridPoint_whole (few : whole < 2 ^ (53 : Nat)) : IsGridPoint (whole * unitsPerOne) :=
  ⟨whole, oneExponent, few, by rw [unitsPerOne]⟩

/-- From `2 ^ 52` on there are no magnitudes between the whole numbers. -/
theorem unitsPerOne_dvd_of_le (grid : IsGridPoint units)
    (large : 2 ^ (52 : Nat) * unitsPerOne ≤ units) : unitsPerOne ∣ units := by
  have nonzero : units ≠ 0 := by
    have positive : 0 < 2 ^ (52 : Nat) * unitsPerOne :=
      Nat.mul_pos (Nat.two_pow_pos 52) (Nat.two_pow_pos oneExponent)
    omega
  rw [unitsPerOne, ← Nat.pow_add] at large
  have bits := (Nat.le_log2 nonzero).mpr large
  have coarse : oneExponent ≤ spacing units := by
    rw [spacing]
    omega
  exact (Nat.pow_dvd_pow 2 coarse).trans grid.dvd

theorem RoundsTo.unitsPerOne_dvd (rounded : RoundsTo (whole * unitsPerOne) units) :
    unitsPerOne ∣ units := by
  rcases Nat.lt_or_ge units (2 ^ (52 : Nat) * unitsPerOne) with small | large
  · -- So small a magnitude is the whole number itself, which has few enough bits.
    have bound : IsGridPoint (2 ^ (52 : Nat) * unitsPerOne) := isGridPoint_whole (by decide)
    have near := rounded.nearest _ bound
    have below : (units : ℚ) < (2 ^ (52 : Nat) * unitsPerOne : Nat) := Nat.cast_lt.mpr small
    have few : whole < 2 ^ (53 : Nat) := by
      by_contra many
      have reached : ((2 ^ (52 : Nat) * unitsPerOne : Nat) : ℚ) ≤ whole * unitsPerOne := by
        rw [← Nat.cast_mul]
        exact Nat.cast_le.mpr (Nat.mul_le_mul_right _ (by omega))
      rw [abs_of_nonneg (by linarith), abs_of_nonneg (by linarith)] at near
      linarith
    have self : RoundsTo ((whole * unitsPerOne : Nat) : ℚ) (whole * unitsPerOne) :=
      roundsTo_self (isGridPoint_whole few)
    rw [Nat.cast_mul] at self
    exact ⟨whole, (rounded.unique self).trans (Nat.mul_comm _ _)⟩
  · exact unitsPerOne_dvd_of_le rounded.grid large

section Shortest

variable {significand : Nat} {exponent : Int}

theorem scaled_ofNat (significand zeros : Nat) :
    scaled significand zeros = (significand * 10 ^ zeros : Nat) * unitsPerOne := by
  rw [scaled, zpow_natCast]
  push_cast
  rfl

theorem scaled_le_of_neg (negative : exponent < 0) :
    scaled significand exponent ≤ (significand : ℚ) / 10 * unitsPerOne := by
  have tenth : (10 : ℚ) ^ exponent ≤ 10⁻¹ := by
    rw [← zpow_neg_one]
    exact zpow_le_zpow_right₀ (by norm_num) (by omega)
  rw [scaled, div_eq_mul_inv]
  exact mul_le_mul_of_nonneg_right (mul_le_mul_of_nonneg_left tenth (Nat.cast_nonneg _))
    unitsPerOne_pos.le

theorem exists_isGridPoint_between :
    ∃ between, IsGridPoint between ∧ 9 / 10 * (unitsPerOne : ℚ) ≤ between ∧
      (between : ℚ) < unitsPerOne := by
  obtain ⟨shift, exponent⟩ : ∃ shift, oneExponent = shift + 4 := ⟨1070, rfl⟩
  have whole : (unitsPerOne : ℚ) = 2 ^ shift * 16 := by
    rw [unitsPerOne, exponent, Nat.pow_add]
    push_cast
    norm_num
  have positive : (0 : ℚ) < 2 ^ shift := by positivity
  refine ⟨15 * 2 ^ shift, ⟨15, shift, by decide, rfl⟩, ?_, ?_⟩ <;>
    rw [whole] <;> push_cast <;> linarith

theorem not_roundsTo_of_single (single : significand < 10) (negative : exponent < 0)
    (isWhole : unitsPerOne ∣ units) (nonzero : units ≠ 0) :
    ¬RoundsTo (scaled significand exponent) units := by
  intro rounded
  obtain ⟨between, grid, above, below⟩ := exists_isGridPoint_between
  have reached : (unitsPerOne : ℚ) ≤ units :=
    Nat.cast_le.mpr (Nat.le_of_dvd (Nat.pos_of_ne_zero nonzero) isWhole)
  have digit : (significand : ℚ) / 10 * unitsPerOne ≤ 9 / 10 * unitsPerOne := by
    have most : (significand : ℚ) ≤ 9 := by exact_mod_cast Nat.le_of_lt_succ single
    exact mul_le_mul_of_nonneg_right (by linarith) unitsPerOne_pos.le
  have low : scaled significand exponent ≤ between :=
    (scaled_le_of_neg negative).trans (digit.trans above)
  have self : RoundsTo (units : ℚ) units := roundsTo_self rounded.grid
  have inside := rounded.between self low (below.le.trans reached)
  have same : (units : ℚ) = between := by rw [inside.unique (roundsTo_self grid)]
  linarith

/-- The shortest numeral of a magnitude has no places after the point exactly if the magnitude
is whole. -/
theorem exponent_nonneg_iff (representable : Representable units) :
    0 ≤ (shortestDigits units).2 ↔ unitsPerOne ∣ units := by
  have reads : RoundsTo (scaled (shortestDigits units).1 (shortestDigits units).2) units :=
    (denotes_iff representable).mp (denotes_shortestDigits units)
  constructor
  · intro nonneg
    obtain ⟨zeros, same⟩ := Int.eq_ofNat_of_zero_le nonneg
    rw [same, scaled_ofNat] at reads
    exact reads.unitsPerOne_dvd
  · intro isWhole
    by_contra negative
    have negative := Int.not_le.mp negative
    have nonzero : units ≠ 0 := by
      rintro rfl
      exact Int.lt_irrefl 0 negative
    obtain ⟨_, digits, short, fewest⟩ := shortestDigits_fewest representable nonzero
    have ⟨whole, product⟩ := isWhole
    have positive : 0 < whole := by
      refine Nat.pos_of_ne_zero fun zero => nonzero ?_
      rw [product, zero, Nat.mul_zero]
    obtain ⟨some, least, most⟩ := pow_le_and_lt_of_length_toDigits positive rfl
    obtain ⟨count, width⟩ := Nat.exists_eq_add_one.mpr some
    rw [width, Nat.add_sub_cancel] at least
    rw [width] at most
    -- The numeral has no more digits than the whole number, so that with places after its point
    -- it is below the power of ten that the number reaches. That power reads back too then, and
    -- the numeral has one digit as the power has.
    have exact : scaled whole (0 : Nat) = units := by
      rw [scaled_ofNat, pow_zero, Nat.mul_one, product, Nat.cast_mul, mul_comm]
    have self : RoundsTo (scaled whole (0 : Nat)) units := exact ▸ roundsTo_self reads.grid
    have fits : digits ≤ count + 1 :=
      fewest whole (0 : Nat) _ most ((denotes_iff representable).mpr self)
    have tenth : ((shortestDigits units).1 : ℚ) ≤ 10 ^ count * 10 := by
      rw [← pow_succ]
      exact_mod_cast (short.trans_le (Nat.pow_le_pow_right (by decide) fits)).le
    have below : scaled (shortestDigits units).1 (shortestDigits units).2 ≤ scaled 1 count := by
      refine (scaled_le_of_neg negative).trans ?_
      rw [scaled_ofNat, Nat.one_mul, Nat.cast_pow, Nat.cast_ofNat]
      exact mul_le_mul_of_nonneg_right (by linarith) unitsPerOne_pos.le
    have reached : scaled 1 count ≤ units := by
      rw [← exact, scaled_ofNat, scaled_ofNat, Nat.one_mul, pow_zero, Nat.mul_one]
      exact mul_le_mul_of_nonneg_right (Nat.cast_le.mpr least) unitsPerOne_pos.le
    have reads_one : RoundsTo (scaled 1 count) units :=
      reads.between (roundsTo_self reads.grid) below reached
    have single : digits ≤ 1 :=
      fewest 1 count 1 (by decide) ((denotes_iff representable).mpr reads_one)
    exact not_roundsTo_of_single (short.trans_le (Nat.pow_le_pow_right (by decide) single))
      negative isWhole nonzero reads

end Shortest

end ExprLexer.Binary64
