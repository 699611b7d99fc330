import ExprLexer.Binary64.Rounding

/-! Rounding depends on the exact quotient alone, and leaves a representable
magnitude as it is. The magnitude is rounded apart from the sign. -/

set_option autoImplicit false

namespace ExprLexer

attribute [local instance (1100)] instPowNat

theorem roundHalfEven_mul_right (numerator denominator : Nat) {factor : Nat}
    (positive : 0 < factor) :
    roundHalfEven (numerator * factor) (denominator * factor) =
      roundHalfEven numerator denominator := by
  have rest : 2 * (numerator * factor % (denominator * factor)) =
      2 * (numerator % denominator) * factor := by
    rw [Nat.mul_mod_mul_right, Nat.mul_assoc]
  simp only [roundHalfEven, Nat.mul_div_mul_right _ _ positive, rest,
    Nat.mul_lt_mul_right positive, Nat.mul_left_inj (Nat.ne_of_gt positive)]

theorem roundHalfEven_eq_or (numerator denominator : Nat) :
    roundHalfEven numerator denominator = numerator / denominator ∨
      roundHalfEven numerator denominator = numerator / denominator + 1 := by
  simp only [roundHalfEven]
  split
  · exact .inl rfl
  · split
    · omega
    · exact .inr rfl

theorem le_roundHalfEven (numerator denominator : Nat) :
    numerator / denominator ≤ roundHalfEven numerator denominator := by
  rcases roundHalfEven_eq_or numerator denominator with same | next <;> omega

theorem roundHalfEven_mul_self (value : Nat) {denominator : Nat} (positive : 0 < denominator) :
    roundHalfEven (value * denominator) denominator = value := by
  simp [roundHalfEven, Nat.mul_div_cancel _ positive, positive]

namespace Binary64

/-- The magnitude that a quotient is rounded to before the limit is looked at. -/
def nearestUnits (numerator denominator : Nat) : Nat :=
  let shift := spacing (numerator / denominator)
  roundHalfEven numerator (denominator * 2 ^ shift) * 2 ^ shift

theorem nearest_eq (negative : Bool) (numerator denominator : Nat) :
    (∃ representable, nearest negative numerator denominator =
        .finite negative (nearestUnits numerator denominator) representable) ∨
      (unitsLimit ≤ nearestUnits numerator denominator ∧
        nearest negative numerator denominator = .infinity negative) := by
  unfold nearest
  dsimp only
  split
  next below =>
    have significand := Nat.le_trans (roundHalfEven_le numerator _)
      (leading_bits_lt numerator denominator)
    exact .inl ⟨representable_of_le significand below, rfl⟩
  next past => exact .inr ⟨Nat.le_of_not_lt past, rfl⟩

theorem nearest_of_representable (negative : Bool) {numerator denominator units : Nat}
    (rounded : nearestUnits numerator denominator = units) (representable : Representable units) :
    nearest negative numerator denominator = .finite negative units representable := by
  subst rounded
  rcases nearest_eq negative numerator denominator with ⟨_, finite⟩ | ⟨past, _⟩
  · exact finite
  · exact absurd representable.1 (Nat.not_lt.mpr past)

theorem nearest_of_le (negative : Bool) {numerator denominator : Nat}
    (past : unitsLimit ≤ nearestUnits numerator denominator) :
    nearest negative numerator denominator = .infinity negative := by
  rcases nearest_eq negative numerator denominator with ⟨representable, _⟩ | ⟨_, infinite⟩
  · exact absurd representable.1 (Nat.not_lt.mpr past)
  · exact infinite

theorem nearestUnits_of_nearest_eq {negative sign : Bool} {numerator denominator units : Nat}
    {representable : Representable units}
    (finite : nearest negative numerator denominator = .finite sign units representable) :
    nearestUnits numerator denominator = units := by
  rcases nearest_eq negative numerator denominator with ⟨_, found⟩ | ⟨_, found⟩
  · rw [found] at finite
    exact (Binary64.finite.inj finite).2
  · rw [found] at finite
    cases finite

theorem nearest_congr (negative : Bool) {numerator denominator other divisor : Nat}
    (same : nearestUnits numerator denominator = nearestUnits other divisor) :
    nearest negative numerator denominator = nearest negative other divisor := by
  rcases nearest_eq negative other divisor with ⟨representable, finite⟩ | ⟨past, infinite⟩
  · rw [finite, nearest_of_representable negative same]
  · rw [infinite, nearest_of_le negative (same ▸ past)]

theorem nearestUnits_mul_right (numerator denominator : Nat) {factor : Nat}
    (positive : 0 < factor) :
    nearestUnits (numerator * factor) (denominator * factor) =
      nearestUnits numerator denominator := by
  simp only [nearestUnits, Nat.mul_div_mul_right _ _ positive]
  rw [Nat.mul_right_comm denominator, roundHalfEven_mul_right _ _ positive]

theorem nearest_eq_of_cross {numerator denominator other divisor : Nat} (negative : Bool)
    (positive : 0 < denominator) (divisorPositive : 0 < divisor)
    (same : numerator * divisor = other * denominator) :
    nearest negative numerator denominator = nearest negative other divisor := by
  apply nearest_congr
  rw [← nearestUnits_mul_right numerator denominator divisorPositive, same,
    Nat.mul_comm denominator divisor, nearestUnits_mul_right other divisor positive]

/-- A magnitude of at most 53 significant bits, whatever its size. -/
def IsGridPoint (units : Nat) : Prop :=
  ∃ significand shift : Nat, significand < 2 ^ (53 : Nat) ∧ units = significand * 2 ^ shift

theorem IsGridPoint.dvd {units : Nat} (grid : IsGridPoint units) : 2 ^ spacing units ∣ units := by
  obtain ⟨significand, shift, small, rfl⟩ := grid
  by_cases zero : significand * 2 ^ shift = 0
  · rw [zero]
    exact Nat.dvd_zero _
  · have bound : significand * 2 ^ shift < 2 ^ (53 + shift) := by
      rw [Nat.pow_add]
      exact Nat.mul_lt_mul_of_pos_right small (Nat.two_pow_pos shift)
    have log := (Nat.log2_lt zero).mpr bound
    exact Nat.dvd_mul_left_of_dvd (Nat.pow_dvd_pow 2 (by unfold spacing; omega)) _

theorem Representable.isGridPoint {units : Nat} (representable : Representable units) :
    IsGridPoint units :=
  representable.2

theorem Representable.dvd {units : Nat} (representable : Representable units) :
    2 ^ spacing units ∣ units :=
  representable.isGridPoint.dvd

theorem nearestUnits_mul_self {units denominator : Nat} (representable : Representable units)
    (positive : 0 < denominator) : nearestUnits (units * denominator) denominator = units := by
  have step : 0 < 2 ^ spacing units := Nat.two_pow_pos _
  have rounded : roundHalfEven (units * denominator) (denominator * 2 ^ spacing units) =
      units / 2 ^ spacing units := by
    rw [Nat.mul_comm denominator, roundHalfEven_mul_right _ _ positive]
    have exact := roundHalfEven_mul_self (units / 2 ^ spacing units) step
    rwa [Nat.div_mul_cancel representable.dvd] at exact
  simp only [nearestUnits, Nat.mul_div_cancel _ positive, rounded]
  exact Nat.div_mul_cancel representable.dvd

/-- The leading bits alone reach every power of two that the number reaches. -/
theorem two_pow_le_leading_bits {value exponent : Nat} (reached : 2 ^ exponent ≤ value) :
    2 ^ exponent ≤ value / 2 ^ spacing value * 2 ^ spacing value := by
  have nonzero : value ≠ 0 := by
    have positive := Nat.two_pow_pos exponent
    omega
  have above : exponent ≤ value.log2 := (Nat.le_log2 nonzero).mpr reached
  have divides : 2 ^ spacing value ∣ 2 ^ value.log2 :=
    Nat.pow_dvd_pow 2 (Nat.sub_le _ _)
  calc 2 ^ exponent
      ≤ 2 ^ value.log2 := Nat.pow_le_pow_right Nat.two_pos above
    _ = 2 ^ value.log2 / 2 ^ spacing value * 2 ^ spacing value :=
        (Nat.div_mul_cancel divides).symm
    _ ≤ value / 2 ^ spacing value * 2 ^ spacing value :=
        Nat.mul_le_mul_right _ (Nat.div_le_div_right (Nat.log2_self_le nonzero))

theorem unitsLimit_le_nearestUnits {numerator denominator : Nat} (positive : 0 < denominator)
    (past : unitsLimit * denominator ≤ numerator) :
    unitsLimit ≤ nearestUnits numerator denominator := by
  have quotient : unitsLimit ≤ numerator / denominator := (Nat.le_div_iff_mul_le positive).mpr past
  refine Nat.le_trans (two_pow_le_leading_bits quotient) ?_
  rw [Nat.div_div_eq_div_mul]
  exact Nat.mul_le_mul_right _ (le_roundHalfEven _ _)

theorem nearestUnits_eq_zero {numerator denominator : Nat} (below : 2 * numerator < denominator) :
    nearestUnits numerator denominator = 0 := by
  have none : numerator / denominator = 0 := Nat.div_eq_of_lt (by omega)
  have shift : spacing 0 = 0 := by decide
  rw [nearestUnits, none, shift, Nat.pow_zero, Nat.mul_one, Nat.mul_one, roundHalfEven,
    Nat.mod_eq_of_lt (by omega), if_pos below, none]

end Binary64

end ExprLexer
