import ExprLexer.Proofs.Binary64.Nearest
import ExprLexer.Proofs.Binary64.Words
import Mathlib.Algebra.Order.Field.Basic
import Mathlib.Data.Rat.Cast.Order
import Mathlib.Tactic.FieldSimp
import Mathlib.Tactic.Linarith

/-! Rounding is to the nearest magnitude of at most 53 significant bits, with exponents
of any size, and of two that are equally near to the one whose significand is even. -/

set_option autoImplicit false

namespace ExprLexer

attribute [local instance (1100)] instPowNat

/-! ## Whole numbers -/

/-- How far a whole number is from a quotient, counted in parts of the denominator. -/
def distance (numerator denominator value : Nat) : Nat :=
  ((numerator : Int) - value * denominator).natAbs

section Whole

variable {numerator denominator value : Nat}

theorem distance_div (numerator denominator : Nat) :
    distance numerator denominator (numerator / denominator) = numerator % denominator := by
  have split := Nat.div_add_mod' numerator denominator
  rw [distance]
  omega

theorem distance_div_succ (numerator : Nat) (positive : 0 < denominator) :
    distance numerator denominator (numerator / denominator + 1) =
      denominator - numerator % denominator := by
  have split := Nat.div_add_mod' numerator denominator
  have rest := Nat.mod_lt numerator positive
  rw [distance, Nat.cast_add_one, add_mul, one_mul]
  omega

theorem mod_lt_distance_of_lt (positive : 0 < denominator)
    (below : value < numerator / denominator) :
    numerator % denominator < distance numerator denominator value := by
  have split := Nat.div_add_mod' numerator denominator
  have step := Nat.mul_le_mul_right denominator (Nat.succ_le_of_lt below)
  rw [Nat.succ_mul] at step
  rw [distance]
  omega

theorem sub_mod_lt_distance_of_lt (positive : 0 < denominator)
    (above : numerator / denominator + 1 < value) :
    denominator - numerator % denominator < distance numerator denominator value := by
  have split := Nat.div_add_mod' numerator denominator
  have step := Nat.mul_le_mul_right denominator (Nat.succ_le_of_lt above)
  have rest := Nat.mod_lt numerator positive
  rw [Nat.succ_mul, Nat.add_mul, Nat.one_mul] at step
  rw [distance]
  omega

theorem roundHalfEven_cases (numerator denominator : Nat) :
    let floor := numerator / denominator
    let rest := numerator % denominator
    let rounded := roundHalfEven numerator denominator
    (2 * rest < denominator ∧ rounded = floor) ∨
      (2 * rest = denominator ∧ rounded = floor + floor % 2) ∨
      (denominator < 2 * rest ∧ rounded = floor + 1) := by
  intro floor rest rounded
  simp only [rounded, roundHalfEven]
  split
  next below => exact .inl ⟨below, rfl⟩
  next notBelow =>
    split
    next same => exact .inr (.inl ⟨same, rfl⟩)
    next other => exact .inr (.inr ⟨by omega, rfl⟩)

theorem distance_roundHalfEven (numerator : Nat) (positive : 0 < denominator) :
    distance numerator denominator (roundHalfEven numerator denominator) =
      min (numerator % denominator) (denominator - numerator % denominator) := by
  have lower := distance_div numerator denominator
  have upper := distance_div_succ numerator positive
  rcases roundHalfEven_cases numerator denominator with
    ⟨below, same⟩ | ⟨tie, same⟩ | ⟨above, same⟩
  · rw [same, lower]
    omega
  · rcases Nat.mod_two_eq_zero_or_one (numerator / denominator) with even | odd
    · rw [same, even, Nat.add_zero, lower]
      omega
    · rw [same, odd, upper]
      omega
  · rw [same, upper]
    omega

/-- No whole number is nearer to a quotient than the one it is rounded to, and another one
that is as near leaves the even one of the two. -/
theorem roundHalfEven_nearest (numerator value : Nat) (positive : 0 < denominator) :
    let rounded := roundHalfEven numerator denominator
    distance numerator denominator rounded ≤ distance numerator denominator value ∧
      (distance numerator denominator value = distance numerator denominator rounded →
        value ≠ rounded → rounded % 2 = 0) := by
  intro rounded
  have rest := Nat.mod_lt numerator positive
  have least : distance numerator denominator rounded = _ := distance_roundHalfEven numerator positive
  rw [least]
  -- Only the two neighbours of the quotient can be as near as the rounded one.
  obtain below | rfl | rfl | above : value < numerator / denominator ∨
      value = numerator / denominator ∨ value = numerator / denominator + 1 ∨
      numerator / denominator + 1 < value := by
    omega
  · have far := mod_lt_distance_of_lt positive below
    omega
  · have chosen := roundHalfEven_cases numerator denominator
    have near := distance_div numerator denominator
    omega
  · have chosen := roundHalfEven_cases numerator denominator
    have near := distance_div_succ numerator positive
    omega
  · have far := sub_mod_lt_distance_of_lt positive above
    omega

end Whole

namespace Binary64

/-! ## The grid -/

section Grid

variable {significand shift units other numerator denominator : Nat}

theorem spacing_of_normalized (small : significand < 2 ^ 53)
    (normal : shift = 0 ∨ 2 ^ 52 ≤ significand) : spacing (significand * 2 ^ shift) = shift := by
  rcases Nat.lt_or_ge significand (2 ^ 52) with short | full
  · obtain rfl : shift = 0 := by omega
    rw [Nat.pow_zero, Nat.mul_one, spacing_of_lt short]
  · obtain ⟨fraction, rfl⟩ := Nat.exists_eq_add_of_le full
    exact spacing_of_normal (by omega) shift

theorem two_pow_le_of_spacing_pos (spaced : 0 < spacing units) :
    2 ^ 52 * 2 ^ spacing units ≤ units := by
  have nonzero : units ≠ 0 := by
    rintro rfl
    exact absurd spaced (by decide)
  have log : units.log2 = 52 + spacing units := by
    unfold spacing at spaced ⊢
    omega
  rw [← Nat.pow_add, ← log]
  exact Nat.log2_self_le nonzero

/-- Grid points off the grid of a spacing are closer together, and so they are smaller than
anything with that spacing. -/
theorem IsGridPoint.lt_of_not_dvd (grid : IsGridPoint other) (off : ¬2 ^ shift ∣ other) :
    0 < shift ∧ other < 2 ^ 52 * 2 ^ shift := by
  obtain ⟨significand, finer, small, rfl⟩ := grid
  have less : finer < shift := by
    by_contra coarser
    exact off (Nat.dvd_mul_left_of_dvd (Nat.pow_dvd_pow 2 (by omega)) _)
  refine ⟨by omega, ?_⟩
  calc significand * 2 ^ finer
      < 2 ^ 53 * 2 ^ finer := Nat.mul_lt_mul_of_pos_right small (Nat.two_pow_pos finer)
    _ = 2 ^ 52 * 2 ^ (finer + 1) := by rw [← Nat.pow_add, ← Nat.pow_add]; congr 1; omega
    _ ≤ 2 ^ 52 * 2 ^ shift := Nat.mul_le_mul_left _ (Nat.pow_le_pow_right (by decide) less)

theorem distance_mul (numerator denominator value factor : Nat) :
    distance numerator denominator (value * factor) =
      distance numerator (denominator * factor) value := by
  rw [distance, distance, Nat.cast_mul, Nat.cast_mul, mul_assoc, mul_comm (factor : Int)]

/-- A grid point off the grid that is used for a quotient is not the nearest one. -/
theorem IsGridPoint.distance_lt (grid : IsGridPoint other) (positive : 0 < denominator)
    (off : ¬2 ^ spacing (numerator / denominator) ∣ other) :
    distance numerator denominator (2 ^ 52 * 2 ^ spacing (numerator / denominator)) <
      distance numerator denominator other := by
  obtain ⟨spaced, small⟩ := grid.lt_of_not_dvd off
  have reached := two_pow_le_of_spacing_pos spaced
  generalize 2 ^ 52 * 2 ^ spacing (numerator / denominator) = least at small reached
  have below : least * denominator ≤ numerator :=
    (Nat.mul_le_mul_right _ reached).trans (Nat.div_mul_le_self _ _)
  have less := Nat.mul_lt_mul_of_pos_right small positive
  rw [distance, distance]
  omega

theorem two_pow_53_mul (shift : Nat) :
    2 ^ (53 : Nat) * 2 ^ shift = 2 ^ (52 : Nat) * 2 ^ (shift + 1) := by
  rw [← Nat.pow_add, ← Nat.pow_add]
  congr 1
  omega

theorem isGridPoint_of_le (small : significand ≤ 2 ^ 53) (shift : Nat) :
    IsGridPoint (significand * 2 ^ shift) := by
  rcases Nat.lt_or_eq_of_le small with less | rfl
  · exact ⟨significand, shift, less, rfl⟩
  · exact ⟨2 ^ 52, shift + 1, by decide, two_pow_53_mul shift⟩

theorem leading_bits_even (even : significand % 2 = 0) (small : significand ≤ 2 ^ 53)
    (normal : shift = 0 ∨ 2 ^ 52 ≤ significand) :
    significand * 2 ^ shift / 2 ^ spacing (significand * 2 ^ shift) % 2 = 0 := by
  rcases Nat.lt_or_eq_of_le small with less | rfl
  · rw [spacing_of_normalized less normal, Nat.mul_div_cancel _ (Nat.two_pow_pos shift), even]
  · rw [two_pow_53_mul, spacing_of_normalized (by decide) (.inr (Nat.le_refl _)),
      Nat.mul_div_cancel _ (Nat.two_pow_pos _)]

def nearestSignificand (numerator denominator : Nat) : Nat :=
  roundHalfEven numerator (denominator * 2 ^ spacing (numerator / denominator))

theorem nearestSignificand_le (numerator denominator : Nat) :
    nearestSignificand numerator denominator ≤ 2 ^ 53 :=
  (roundHalfEven_le _ _).trans (leading_bits_lt numerator denominator)

theorem nearestSignificand_normal (numerator denominator : Nat) :
    spacing (numerator / denominator) = 0 ∨ 2 ^ 52 ≤ nearestSignificand numerator denominator := by
  by_cases finest : spacing (numerator / denominator) = 0
  · exact .inl finest
  · right
    have reached := two_pow_le_of_spacing_pos (Nat.pos_of_ne_zero finest)
    calc 2 ^ 52
        ≤ numerator / denominator / 2 ^ spacing (numerator / denominator) :=
          (Nat.le_div_iff_mul_le (Nat.two_pow_pos _)).mpr reached
      _ = numerator / (denominator * 2 ^ spacing (numerator / denominator)) :=
          Nat.div_div_eq_div_mul ..
      _ ≤ nearestSignificand numerator denominator := le_roundHalfEven _ _

/-- No grid point is nearer to a quotient than the one it is rounded to, and another one
that is as near leaves the even significand of the two. -/
theorem nearestUnits_nearest (positive : 0 < denominator) (grid : IsGridPoint other) :
    let units := nearestUnits numerator denominator
    distance numerator denominator units ≤ distance numerator denominator other ∧
      (distance numerator denominator other = distance numerator denominator units →
        other ≠ units → units / 2 ^ spacing units % 2 = 0) := by
  intro units
  have scaled := Nat.mul_pos positive (Nat.two_pow_pos (spacing (numerator / denominator)))
  have rounded : units = nearestSignificand numerator denominator *
      2 ^ spacing (numerator / denominator) := rfl
  have nearest (value : Nat) := roundHalfEven_nearest numerator value scaled
  -- Points on the grid of the quotient are whole numbers of its spacing; all others are finer
  -- ones below the least significand with all its bits, which is on that grid.
  by_cases on : 2 ^ spacing (numerator / denominator) ∣ other
  · obtain ⟨value, rfl⟩ := exists_eq_mul_left_of_dvd on
    rw [rounded, distance_mul, distance_mul]
    refine ⟨(nearest value).1, fun same apart => ?_⟩
    have even := (nearest value).2 same fun equal => apart (by rw [equal]; rfl)
    exact leading_bits_even even (nearestSignificand_le _ _) (nearestSignificand_normal _ _)
  · have farther := grid.distance_lt positive on
    have near := (nearest (2 ^ 52)).1
    rw [← distance_mul, ← distance_mul] at near
    have strict : distance numerator denominator units < distance numerator denominator other :=
      near.trans_lt farther
    exact ⟨strict.le, fun same => absurd same strict.ne'⟩

end Grid

/-! ## Numbers -/

theorem unitsPerOne_pos : (0 : ℚ) < unitsPerOne := Nat.cast_pos.mpr (Nat.two_pow_pos _)

/-- The magnitude that a number of units is rounded to: no grid point is nearer to the
number, and if another one is as near, the significand of this one is even. -/
structure RoundsTo (number : ℚ) (units : Nat) : Prop where
  grid : IsGridPoint units
  nearest : ∀ other, IsGridPoint other → |number - units| ≤ |number - other|
  even : ∀ other, IsGridPoint other → |number - other| = |number - units| → other ≠ units →
    units / 2 ^ spacing units % 2 = 0

section Numbers

variable {numerator denominator units other : Nat} {number : ℚ}

theorem abs_sub_eq_distance (positive : 0 < denominator) (value : Nat) :
    |(numerator : ℚ) / denominator - value| =
      (distance numerator denominator value : ℚ) / denominator := by
  have scale : (0 : ℚ) < denominator := Nat.cast_pos.mpr positive
  have whole : (numerator : ℚ) / denominator - value =
      ((numerator : Int) - value * denominator : Int) / denominator := by
    push_cast
    field_simp
  rw [whole, abs_div, abs_of_pos scale, distance, Nat.cast_natAbs, Int.cast_abs]

theorem roundsTo_nearestUnits (numerator : Nat) (positive : 0 < denominator) :
    RoundsTo ((numerator : ℚ) / denominator) (nearestUnits numerator denominator) := by
  have scale : (0 : ℚ) < denominator := Nat.cast_pos.mpr positive
  refine ⟨isGridPoint_of_le (nearestSignificand_le _ _) _, fun other grid => ?_,
    fun other grid same apart => ?_⟩
  · rw [abs_sub_eq_distance positive, abs_sub_eq_distance positive]
    exact div_le_div_of_nonneg_right (Nat.cast_le.mpr (nearestUnits_nearest positive grid).1)
      scale.le
  · rw [abs_sub_eq_distance positive, abs_sub_eq_distance positive] at same
    have equal := Nat.cast_injective ((div_left_inj' scale.ne').mp same)
    exact (nearestUnits_nearest positive grid).2 equal apart

theorem IsGridPoint.dvd_of_even (grid : IsGridPoint units)
    (even : units / 2 ^ spacing units % 2 = 0) : 2 ^ (spacing units + 1) ∣ units := by
  obtain ⟨half, whole⟩ := Nat.dvd_of_mod_eq_zero even
  refine ⟨half, ?_⟩
  rw [Nat.pow_succ, Nat.mul_assoc, ← whole, Nat.mul_div_cancel' grid.dvd]

theorem spacing_mono (less : units ≤ other) : spacing units ≤ spacing other := by
  by_cases zero : units = 0
  · rw [zero]
    exact Nat.zero_le _
  · have reached : 2 ^ units.log2 ≤ other := (Nat.log2_self_le zero).trans less
    exact Nat.sub_le_sub_right ((Nat.le_log2 (by omega)).mpr reached) 52

theorem IsGridPoint.next (grid : IsGridPoint units) : IsGridPoint (units + 2 ^ spacing units) := by
  have leading := leading_bits_lt units 1
  rw [Nat.div_one, Nat.one_mul] at leading
  have point := isGridPoint_of_le (Nat.succ_le_of_lt leading) (spacing units)
  rwa [Nat.succ_mul, Nat.div_mul_cancel grid.dvd] at point

/-- Two magnitudes that a number is rounded to would be neighbours with even significands. -/
theorem RoundsTo.not_lt (first : RoundsTo number units) (second : RoundsTo number other) :
    ¬units < other := by
  intro less
  have coarser := Nat.pow_dvd_pow 2 (spacing_mono less.le)
  have reached : units + 2 ^ spacing units ≤ other := by
    have divides := Nat.dvd_sub (coarser.trans second.grid.dvd) first.grid.dvd
    have step := Nat.le_of_dvd (by omega) divides
    omega
  have neighbours : other = units + 2 ^ spacing units := by
    by_contra apart
    -- A grid point between the two would be nearer than one of them.
    have left := first.nearest _ first.grid.next
    have right := second.nearest _ first.grid.next
    have low : (units : ℚ) < (units + 2 ^ spacing units : Nat) :=
      Nat.cast_lt.mpr (Nat.lt_add_of_pos_right (Nat.two_pow_pos _))
    have high : ((units + 2 ^ spacing units : Nat) : ℚ) < other :=
      Nat.cast_lt.mpr (lt_of_le_of_ne reached (Ne.symm apart))
    generalize ((units + 2 ^ spacing units : Nat) : ℚ) = middle at left right low high
    rcases abs_cases (number - middle) with ⟨same, _⟩ | ⟨same, _⟩
    · linarith [le_abs_self (number - units)]
    · linarith [neg_abs_le (number - other)]
  have tie := le_antisymm (second.nearest units first.grid) (first.nearest other second.grid)
  have firstEven := first.grid.dvd_of_even (first.even other second.grid tie less.ne')
  have secondEven := second.grid.dvd_of_even (second.even units first.grid tie.symm less.ne)
  have divides : 2 ^ (spacing units + 1) ∣ other :=
    (Nat.pow_dvd_pow 2 (Nat.succ_le_succ (spacing_mono less.le))).trans secondEven
  -- Both would be divisible by twice the spacing, and so would be the spacing between them.
  rw [neighbours, Nat.dvd_add_right firstEven] at divides
  have bound := Nat.le_of_dvd (Nat.two_pow_pos _) divides
  rw [Nat.pow_succ] at bound
  have positive := Nat.two_pow_pos (spacing units)
  omega

theorem RoundsTo.unique (first : RoundsTo number units) (second : RoundsTo number other) :
    units = other :=
  Nat.le_antisymm (Nat.le_of_not_lt (second.not_lt first)) (Nat.le_of_not_lt (first.not_lt second))

end Numbers

/-! ## Values -/

/-- The value that a number of the given sign and magnitude is rounded to. The sign is kept by
what is rounded to zero, and by what is rounded past the largest finite value. -/
inductive IsNearest (negative : Bool) (magnitude : ℚ) : Binary64 → Prop where
  | finite {units : Nat} (representable : Representable units) :
      RoundsTo (magnitude * unitsPerOne) units →
      IsNearest negative magnitude (.finite negative units representable)
  | infinity {units : Nat} :
      RoundsTo (magnitude * unitsPerOne) units → unitsLimit ≤ units →
      IsNearest negative magnitude (.infinity negative)

theorem isNearest_nearest (negative : Bool) {numerator denominator : Nat} {magnitude : ℚ}
    (positive : 0 < denominator)
    (scaled : magnitude * unitsPerOne = (numerator : ℚ) / denominator) :
    IsNearest negative magnitude (nearest negative numerator denominator) := by
  have rounded := roundsTo_nearestUnits numerator positive
  rw [← scaled] at rounded
  rcases nearest_eq negative numerator denominator with ⟨representable, finite⟩ | ⟨past, infinite⟩
  · rw [finite]
    exact .finite representable rounded
  · rw [infinite]
    exact .infinity rounded past

theorem IsNearest.unique {negative : Bool} {magnitude : ℚ} {value other : Binary64}
    (first : IsNearest negative magnitude value) (second : IsNearest negative magnitude other) :
    value = other := by
  cases first with
  | finite representable rounded =>
      cases second with
      | finite otherRepresentable otherRounded =>
          obtain rfl := rounded.unique otherRounded
          rfl
      | infinity otherRounded past =>
          obtain rfl := rounded.unique otherRounded
          exact absurd representable.1 (Nat.not_lt.mpr past)
  | infinity rounded past =>
      cases second with
      | finite representable otherRounded =>
          obtain rfl := rounded.unique otherRounded
          exact absurd representable.1 (Nat.not_lt.mpr past)
      | infinity => rfl

end Binary64

end ExprLexer
