import ExprLexer.Numeral.Shortest
import ExprLexer.Proofs.Numeral.Value

/-! Shortest numerals read back. Whatever the search settles on was read back when
it was found, and the exact expansion needs no search. -/

set_option autoImplicit false

namespace ExprLexer.Binary64

attribute [local instance (1100)] instPowNat

/-- A significand and an exponent that denote a magnitude, under either sign. -/
def Denotes (numeral : Nat × Int) (units : Nat) : Prop :=
  ∀ negative (representable : Representable units),
    (⟨negative, numeral.1, numeral.2⟩ : Numeral).toBinary64 =
      .finite negative units representable

theorem denotes_of_readsBack {units significand : Nat} {exponent : Int}
    (reads : readsBack units significand exponent = true) :
    Denotes (significand, exponent) units := by
  intro negative representable
  rw [Numeral.toBinary64_eq_nearestBinary64]
  apply nearest_of_representable
  rw [readsBack, Numeral.toBinary64_eq_nearestBinary64] at reads
  split at reads
  next sign read _ found =>
    rw [← eq_of_beq reads]
    exact nearestUnits_of_nearest_eq found
  next => cases reads

theorem Denotes.pick {units significand digits : Nat} {exponent : Int}
    (denotes : Denotes (significand, exponent) units) :
    Denotes (if significand = 10 ^ digits then (1, exponent + digits) else (significand, exponent))
      units := by
  split
  next power =>
    intro negative representable
    have moved := Numeral.toBinary64_mul_pow negative 1 digits exponent
    rw [Nat.one_mul, ← power] at moved
    rw [← moved]
    exact denotes negative representable
  next => exact denotes

theorem denotes_of_numeralOfDigits? {units exact width digits : Nat} {numeral : Nat × Int}
    (found : numeralOfDigits? units exact width digits = some numeral) :
    Denotes numeral units := by
  unfold numeralOfDigits? at found
  dsimp only at found
  split at found
  next lower upper =>
    rw [← Option.some.inj found]
    apply Denotes.pick
    -- Both neighbours read back, so it does not matter which one is nearer.
    rcases roundHalfEven_eq_or exact (10 ^ (width - digits)) with same | next
    · rw [same]
      exact denotes_of_readsBack lower
    · rw [next]
      exact denotes_of_readsBack upper
  next lower _ =>
    rw [← Option.some.inj found]
    exact (denotes_of_readsBack lower).pick
  next _ upper =>
    rw [← Option.some.inj found]
    exact (denotes_of_readsBack upper).pick
  next => cases found

theorem denotes_expansion (units : Nat) :
    Denotes (expansion units, -(oneExponent : Int)) units := by
  intro negative representable
  rw [Numeral.toBinary64_eq_nearestBinary64]
  apply nearest_of_representable
  have zeros : (-(oneExponent : Int)).toNat = 0 := by omega
  have places : (-(-(oneExponent : Int))).toNat = oneExponent := by omega
  have scaled : expansion units * 10 ^ 0 * unitsPerOne = units * 10 ^ oneExponent := by
    rw [expansion, unitsPerOne, Nat.pow_zero, Nat.mul_one, Nat.mul_assoc, ← Nat.mul_pow]
  dsimp only
  rw [zeros, places, scaled]
  exact nearestUnits_mul_self representable (Nat.pow_pos (by decide))

theorem denotes_shortestDigits (units : Nat) : Denotes (shortestDigits units) units := by
  unfold shortestDigits
  split
  next zero =>
    subst zero
    intro negative representable
    exact Numeral.toBinary64_zero negative 0
  next =>
    dsimp only
    cases search : (List.range (Nat.toDigits 10 (expansion units)).length).findSome? fun index =>
        numeralOfDigits? units (expansion units) (Nat.toDigits 10 (expansion units)).length
          (index + 1) with
    | none => exact denotes_expansion units
    | some numeral =>
        obtain ⟨index, _, found⟩ := List.exists_of_findSome?_eq_some search
        exact denotes_of_numeralOfDigits? found

end ExprLexer.Binary64
