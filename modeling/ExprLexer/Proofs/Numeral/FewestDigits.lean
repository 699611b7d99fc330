import ExprLexer.Proofs.Numeral.Rounded
import ExprLexer.Proofs.Numeral.Shortest
import Mathlib.Tactic.NormNum

/-! The shortest numeral of a value has the fewest digits of all that read back as it. What
reads back is an interval around the value, so that with any numeral of some number of digits
one of the two neighbours of the value on the grid of that many digits reads back too. -/

set_option autoImplicit false

namespace ExprLexer

attribute [local instance (1100)] instPowNat

/-- A positive number is between the powers of ten that its number of digits tells. -/
theorem pow_le_and_lt_of_length_toDigits {value width : Nat} (positive : 0 < value)
    (wide : (Nat.toDigits 10 value).length = width) :
    0 < width ∧ 10 ^ (width - 1) ≤ value ∧ value < 10 ^ width := by
  have some : 0 < width := by
    rw [← wide]
    exact List.length_pos_iff.mpr Nat.toDigits_ne_nil
  refine ⟨some, ?_, (Nat.length_toDigits_le_iff (by decide) some).mp wide.le⟩
  by_contra short
  rcases Nat.eq_zero_or_pos (width - 1) with single | several
  · rw [single, Nat.pow_zero] at short
    omega
  · have less := (Nat.length_toDigits_le_iff (by decide) several).mpr (Nat.lt_of_not_le short)
    omega

namespace Binary64

/-! ## What reads back -/

section Interval

variable {units : Nat} {lower upper number : ℚ}

theorem roundsTo_self (grid : IsGridPoint units) : RoundsTo (units : ℚ) units := by
  have zero : |(units : ℚ) - units| = 0 := by rw [sub_self, abs_zero]
  refine ⟨grid, fun other _ => ?_, fun other _ same apart => ?_⟩
  · rw [zero]
    exact abs_nonneg _
  · rw [zero, abs_eq_zero, sub_eq_zero] at same
    exact absurd (Nat.cast_injective same).symm apart

theorem abs_sub_le_abs_sub_iff_of_lt {left right : ℚ} (less : left < right) :
    |number - left| ≤ |number - right| ↔ 2 * number ≤ left + right := by
  rcases abs_cases (number - left) with ⟨first, _⟩ | ⟨first, _⟩ <;>
    rcases abs_cases (number - right) with ⟨second, _⟩ | ⟨second, _⟩ <;>
      rw [first, second] <;> constructor <;> intro near <;> linarith

theorem abs_sub_le_abs_sub_iff_of_gt {left right : ℚ} (greater : right < left) :
    |number - left| ≤ |number - right| ↔ left + right ≤ 2 * number := by
  rcases abs_cases (number - left) with ⟨first, _⟩ | ⟨first, _⟩ <;>
    rcases abs_cases (number - right) with ⟨second, _⟩ | ⟨second, _⟩ <;>
      rw [first, second] <;> constructor <;> intro near <;> linarith

/-- The numbers that are rounded to one magnitude have no gap between them. -/
theorem RoundsTo.between (first : RoundsTo lower units) (second : RoundsTo upper units)
    (above : lower ≤ number) (below : number ≤ upper) : RoundsTo number units := by
  refine ⟨first.grid, fun other grid => ?_, fun other grid same apart => ?_⟩
  · have left := first.nearest other grid
    have right := second.nearest other grid
    rcases lt_trichotomy (units : ℚ) other with less | equal | greater
    · rw [abs_sub_le_abs_sub_iff_of_lt less] at right ⊢
      linarith
    · rw [equal]
    · rw [abs_sub_le_abs_sub_iff_of_gt greater] at left ⊢
      linarith
  · -- A tie can only be at one of the two ends, where it is decided already.
    rcases lt_or_gt_of_ne (Nat.cast_injective.ne apart : (other : ℚ) ≠ units) with less | greater
    · have left := first.nearest other grid
      have middle := (abs_sub_le_abs_sub_iff_of_lt less).mp same.le
      rw [abs_sub_le_abs_sub_iff_of_gt less] at left
      obtain rfl : lower = number := by linarith
      exact first.even other grid same apart
    · have right := second.nearest other grid
      have middle := (abs_sub_le_abs_sub_iff_of_gt greater).mp same.le
      rw [abs_sub_le_abs_sub_iff_of_lt greater] at right
      obtain rfl : upper = number := by linarith
      exact second.even other grid same apart

end Interval

section Reading

variable {units significand other : Nat} {exponent : Int}

/-- The number that a significand and an exponent denote, counted in units. -/
def scaled (significand : Nat) (exponent : Int) : ℚ :=
  significand * (10 : ℚ) ^ exponent * unitsPerOne

theorem toBinary64_eq_finite_iff (negative : Bool) (representable : Representable units) :
    (⟨negative, significand, exponent⟩ : Numeral).toBinary64 =
        .finite negative units representable ↔
      RoundsTo (scaled significand exponent) units := by
  have nearest := (⟨negative, significand, exponent⟩ : Numeral).isNearest_toBinary64
  constructor
  · intro read
    rw [read] at nearest
    cases nearest with
    | finite _ rounded => exact rounded
  · intro rounded
    exact nearest.unique (.finite representable rounded)

theorem denotes_iff (representable : Representable units) :
    Denotes (significand, exponent) units ↔ RoundsTo (scaled significand exponent) units :=
  ⟨fun denotes => (toBinary64_eq_finite_iff false representable).mp (denotes false representable),
    fun rounded negative representable =>
      (toBinary64_eq_finite_iff negative representable).mpr rounded⟩

theorem readsBack_iff (representable : Representable units) :
    readsBack units significand exponent = true ↔
      RoundsTo (scaled significand exponent) units := by
  constructor
  · intro reads
    exact (denotes_iff representable).mp (denotes_of_readsBack reads)
  · intro rounded
    rw [readsBack, (toBinary64_eq_finite_iff false representable).mpr rounded]
    exact BEq.refl units

theorem scaled_mul_pow (significand zeros : Nat) (exponent : Int) :
    scaled (significand * 10 ^ zeros) exponent = scaled significand (exponent + zeros) := by
  have ten : (10 : ℚ) ≠ 0 := by norm_num
  rw [scaled, scaled, zpow_add₀ ten, zpow_natCast]
  push_cast
  ring

theorem scaled_le_scaled (less : significand ≤ other) (exponent : Int) :
    scaled significand exponent ≤ scaled other exponent := by
  have ten : (0 : ℚ) ≤ (10 : ℚ) ^ exponent := zpow_nonneg (by norm_num) exponent
  exact mul_le_mul_of_nonneg_right (mul_le_mul_of_nonneg_right (Nat.cast_le.mpr less) ten)
    unitsPerOne_pos.le

theorem scaled_expansion (units : Nat) :
    scaled (expansion units) (-(oneExponent : Int)) = units := by
  have ten : (10 : ℚ) ^ oneExponent = 5 ^ oneExponent * 2 ^ oneExponent := by
    rw [← mul_pow]
    norm_num
  rw [scaled, expansion, unitsPerOne, zpow_neg, zpow_natCast, ten]
  push_cast
  field_simp

end Reading

/-! ## The search -/

section Search

variable {units width digits dropped significand : Nat} {exponent : Int}

theorem scaled_dropped (dropped significand : Nat) :
    scaled significand (dropped - oneExponent) =
      scaled (significand * 10 ^ dropped) (-(oneExponent : Int)) := by
  rw [scaled_mul_pow, Int.add_comm, Int.sub_eq_add_neg]

theorem scaled_lower_le (units dropped : Nat) :
    scaled (expansion units / 10 ^ dropped) (dropped - oneExponent) ≤ units := by
  rw [scaled_dropped, ← scaled_expansion units]
  exact scaled_le_scaled (Nat.div_mul_le_self _ _) _

theorem le_scaled_upper (units dropped : Nat) :
    units ≤ scaled (expansion units / 10 ^ dropped + 1) (dropped - oneExponent) := by
  have beyond : expansion units < (expansion units / 10 ^ dropped + 1) * 10 ^ dropped := by
    rw [Nat.mul_comm]
    exact Nat.lt_mul_div_succ _ (Nat.pow_pos (by decide))
  rw [scaled_dropped]
  exact (scaled_expansion units).symm.trans_le (scaled_le_scaled beyond.le _)

theorem expansion_bounds (nonzero : units ≠ 0)
    (wide : (Nat.toDigits 10 (expansion units)).length = width) :
    0 < width ∧ 10 ^ (width - 1) ≤ expansion units ∧ expansion units < 10 ^ width := by
  have positive : 0 < expansion units :=
    Nat.mul_pos (Nat.pos_of_ne_zero nonzero) (Nat.pow_pos (by decide))
  exact pow_le_and_lt_of_length_toDigits positive wide

/-- With any numeral of some number of digits, a neighbour of the value on the grid of that
many digits reads back. -/
theorem neighbour_reads (representable : Representable units) (nonzero : units ≠ 0)
    (wide : (Nat.toDigits 10 (expansion units)).length = width) (positive : 0 < digits)
    (fits : digits ≤ width) (short : significand < 10 ^ digits)
    (reads : RoundsTo (scaled significand exponent) units) :
    let lower := expansion units / 10 ^ (width - digits)
    let grid : Int := (width - digits : Nat) - oneExponent
    RoundsTo (scaled lower grid) units ∨ RoundsTo (scaled (lower + 1) grid) units := by
  intro lower grid
  have self : RoundsTo (units : ℚ) units := roundsTo_self representable.isGridPoint
  have below : scaled lower grid ≤ units := scaled_lower_le units (width - digits)
  have above : units ≤ scaled (lower + 1) grid := le_scaled_upper units (width - digits)
  rcases lt_or_ge exponent grid with fine | coarse
  · -- The numeral is less than the power of ten that has its own number of digits.
    obtain ⟨zeros, same⟩ := Int.le.dest (Int.add_one_le_of_lt fine)
    have reached : 10 ^ (digits - 1) ≤ lower := by
      refine (Nat.le_div_iff_mul_le (Nat.pow_pos (by decide))).mpr ?_
      rw [← Nat.pow_add]
      have exponents : digits - 1 + (width - digits) = width - 1 := by omega
      exact exponents ▸ (expansion_bounds nonzero wide).2.1
    have less : significand ≤ lower * 10 ^ (zeros + 1) := by
      calc significand
          ≤ 10 ^ (digits - 1) * 10 := by
            rw [← Nat.pow_succ, Nat.succ_eq_add_one, Nat.sub_add_cancel positive]
            exact short.le
        _ ≤ lower * 10 ^ (zeros + 1) :=
            Nat.mul_le_mul reached (Nat.le_self_pow (Nat.succ_ne_zero zeros) 10)
    have shifted : scaled (lower * 10 ^ (zeros + 1)) exponent = scaled lower grid := by
      rw [scaled_mul_pow, ← same]
      congr 1
      omega
    exact .inl (reads.between self (shifted ▸ scaled_le_scaled less exponent) below)
  · -- The numeral is on the grid, on one side of the value or on the other.
    obtain ⟨zeros, rfl⟩ := Int.le.dest coarse
    rw [← scaled_mul_pow] at reads
    rcases Nat.lt_or_ge lower (significand * 10 ^ zeros) with beyond | within
    · exact .inr (self.between reads above (scaled_le_scaled beyond grid))
    · exact .inl (reads.between self (scaled_le_scaled within grid) below)

theorem isSome_of_readsBack {exact : Nat}
    (reads : readsBack units (exact / 10 ^ (width - digits))
        ((width - digits : Nat) - oneExponent) = true ∨
      readsBack units (exact / 10 ^ (width - digits) + 1)
        ((width - digits : Nat) - oneExponent) = true) :
    (numeralOfDigits? units exact width digits).isSome := by
  unfold numeralOfDigits?
  dsimp only
  split
  next => rfl
  next => rfl
  next => rfl
  next noLower noUpper =>
    rcases reads with lower | upper
    · rw [lower] at noLower
      cases noLower
    · rw [upper] at noUpper
      cases noUpper

theorem isSome_numeralOfDigits? (representable : Representable units) (nonzero : units ≠ 0)
    (wide : (Nat.toDigits 10 (expansion units)).length = width) (positive : 0 < digits)
    (fits : digits ≤ width) (short : significand < 10 ^ digits)
    (reads : RoundsTo (scaled significand exponent) units) :
    (numeralOfDigits? units (expansion units) width digits).isSome := by
  apply isSome_of_readsBack
  rw [readsBack_iff representable, readsBack_iff representable]
  exact neighbour_reads representable nonzero wide positive fits short reads

theorem lt_of_numeralOfDigits? {exact : Nat} {numeral : Nat × Int}
    (found : numeralOfDigits? units exact width digits = some numeral) (positive : 0 < digits)
    (bound : exact / 10 ^ (width - digits) < 10 ^ digits) : numeral.1 < 10 ^ digits := by
  have picked : ∀ significand ≤ exact / 10 ^ (width - digits) + 1, ∀ exponent : Int,
      (if significand = 10 ^ digits then (1, exponent + digits) else (significand, exponent)).1 <
        10 ^ digits := by
    intro significand near exponent
    split
    next => exact Nat.one_lt_pow (by omega) (by decide)
    next other => exact lt_of_le_of_ne (near.trans bound) other
  unfold numeralOfDigits? at found
  dsimp only at found
  split at found
  next =>
    cases found
    exact picked _ (roundHalfEven_le _ _) _
  next =>
    cases found
    exact picked _ (Nat.le_succ _) _
  next =>
    cases found
    exact picked _ (Nat.le_refl _) _
  next => cases found

theorem exists_least_of_findSome?_range {α : Type} {find : Nat → Option α} {count : Nat} {value : α}
    (found : (List.range count).findSome? find = some value) :
    ∃ index < count, find index = some value ∧ ∀ earlier < index, find earlier = none := by
  induction count with
  | zero => cases found
  | succ count ih =>
      rw [List.range_succ, List.findSome?_append] at found
      cases before : (List.range count).findSome? find with
      | some first =>
          rw [before, Option.some_or] at found
          obtain ⟨index, less, rest⟩ := ih (before.trans found)
          exact ⟨index, Nat.lt_succ_of_lt less, rest⟩
      | none =>
          rw [before, Option.none_or, List.findSome?_singleton] at found
          refine ⟨count, Nat.lt_succ_self count, found, fun earlier less => ?_⟩
          exact List.findSome?_eq_none_iff.mp before earlier (List.mem_range.mpr less)

/-- The search ends at the least number of digits at which it finds a numeral. -/
theorem exists_search (representable : Representable units) (nonzero : units ≠ 0)
    (wide : (Nat.toDigits 10 (expansion units)).length = width) :
    ∃ digits, 0 < digits ∧ digits ≤ width ∧
      numeralOfDigits? units (expansion units) width digits = some (shortestDigits units) ∧
      ∀ fewer, 0 < fewer → fewer < digits →
        numeralOfDigits? units (expansion units) width fewer = none := by
  obtain ⟨positive, _, bound⟩ := expansion_bounds nonzero wide
  have whole : (numeralOfDigits? units (expansion units) width (width - 1 + 1)).isSome := by
    rw [Nat.sub_add_cancel positive]
    exact isSome_numeralOfDigits? representable nonzero wide positive (Nat.le_refl _) bound
      ((denotes_iff representable).mp (denotes_expansion units))
  cases search : (List.range width).findSome? fun index =>
      numeralOfDigits? units (expansion units) width (index + 1) with
  | none =>
      have nothing := List.findSome?_eq_none_iff.mp search (width - 1)
        (List.mem_range.mpr (by omega))
      rw [nothing] at whole
      cases whole
  | some numeral =>
      have result : shortestDigits units = numeral := by
        simp only [shortestDigits, if_neg nonzero, wide, search, Option.getD_some]
      obtain ⟨index, inside, found, least⟩ := exists_least_of_findSome?_range search
      refine ⟨index + 1, Nat.succ_pos index, inside, result ▸ found, fun fewer some less => ?_⟩
      have earlier := least (fewer - 1) (by omega)
      rwa [Nat.sub_add_cancel some] at earlier

/-- The shortest numeral of a value has no digits to spare: it does not end in a zero, and
whatever else reads back has at least as many digits. -/
theorem shortestDigits_fewest (representable : Representable units) (nonzero : units ≠ 0) :
    (shortestDigits units).1 % 10 ≠ 0 ∧
      ∃ digits, (shortestDigits units).1 < 10 ^ digits ∧
        ∀ significand exponent count, significand < 10 ^ count →
          Denotes (significand, exponent) units → digits ≤ count := by
  obtain ⟨width, wide⟩ : ∃ width, (Nat.toDigits 10 (expansion units)).length = width := ⟨_, rfl⟩
  obtain ⟨digits, positive, fits, found, least⟩ := exists_search representable nonzero wide
  have fewest : ∀ significand exponent count, significand < 10 ^ count →
      Denotes (significand, exponent) units → digits ≤ count := by
    intro significand exponent count short denotes
    by_contra fewer
    rcases Nat.eq_zero_or_pos count with rfl | some
    · obtain rfl : significand = 0 := by omega
      have zero := denotes false representable
      rw [Numeral.toBinary64_zero] at zero
      exact nonzero (Binary64.finite.inj zero).2.symm
    · have nothing := least count some (by omega)
      have something := isSome_numeralOfDigits? representable nonzero wide some (by omega) short
        ((denotes_iff representable).mp denotes)
      rw [nothing] at something
      cases something
  have short : (shortestDigits units).1 < 10 ^ digits := by
    refine lt_of_numeralOfDigits? found positive ?_
    rw [Nat.div_lt_iff_lt_mul (Nat.pow_pos (by decide)), ← Nat.pow_add, Nat.add_sub_cancel' fits]
    exact (expansion_bounds nonzero wide).2.2
  refine ⟨fun round => ?_, digits, short, fewest⟩
  obtain ⟨tens, same⟩ := Nat.dvd_of_mod_eq_zero round
  have tensDenote : Denotes (tens, (shortestDigits units).2 + 1) units := by
    intro negative representable
    have moved := Numeral.toBinary64_mul_pow negative tens 1 (shortestDigits units).2
    rw [Nat.pow_one, Nat.mul_comm, ← same, Nat.cast_one] at moved
    rw [← moved]
    exact denotes_shortestDigits units negative representable
  have tensShort : tens < 10 ^ (digits - 1) := by
    have power : 10 ^ digits = 10 * 10 ^ (digits - 1) := by
      rw [← Nat.pow_succ', Nat.succ_eq_add_one, Nat.sub_add_cancel positive]
    omega
  have less := fewest _ _ _ tensShort tensDenote
  omega

end Search

end Binary64

end ExprLexer
