import ExprLexer.Proofs.Numeral.CanonicalForm
import ExprLexer.Toml.Written

/-! A float that is written out is a literal of its shortest numeral, with an exponent or
without one. -/

set_option autoImplicit false

namespace ExprLexer

attribute [local instance (1100)] instPowNat

namespace Layout

variable {significand : Nat}

/-! ## Without an exponent -/

theorem magnitude_fixedText (negative : Bool) (significand : Nat) (exponent : Int) :
    ((fixedText significand exponent).literal negative).magnitude =
      significand * (10 : ℚ) ^ exponent := by
  rw [DecimalLiteral.magnitude_eq, FixedText.numeral_literal]
  cases exponent with
  | ofNat zeros =>
      have whole : (fixedText significand (Int.ofNat zeros)).numeral negative =
          ⟨negative, significand * 10 ^ zeros, 0⟩ := by
        rw [← digitsValue_wholeText]
        simp [fixedText, FixedText.numeral, wholeText]
      rw [whole, zpow_zero, mul_one, Int.ofNat_eq_natCast, zpow_natCast]
      push_cast
      rfl
  | negSucc lastPlace => rw [fixedText, numeral_pointText]

/-- The number with one more digit after the point, a zero, if it has none. -/
def withFraction (fixed : FixedText) : FixedText where
  whole := fixed.whole
  fraction := if fixed.fraction = [] then ['0'] else fixed.fraction
  nonempty := fixed.nonempty
  digits := by
    intro char member
    rcases List.mem_append.mp member with whole | fraction
    · exact fixed.wholeDigits char whole
    · split at fraction
      · rw [List.mem_singleton.mp fraction]
        decide
      · exact fixed.fractionDigits char fraction

theorem magnitude_withFraction (fixed : FixedText) (negative : Bool) :
    ((withFraction fixed).literal negative).magnitude = (fixed.literal negative).magnitude := by
  have fraction : (Nat.ofDigitChars 10 (withFraction fixed).fraction 0 : ℚ) /
      (10 : ℚ) ^ (withFraction fixed).fraction.length =
        (Nat.ofDigitChars 10 fixed.fraction 0 : ℚ) / (10 : ℚ) ^ fixed.fraction.length := by
    unfold withFraction
    dsimp only
    split
    next none =>
      rw [none]
      have zero : Nat.ofDigitChars 10 ['0'] 0 = 0 := rfl
      simp [zero]
    next => rfl
  rw [DecimalLiteral.magnitude, DecimalLiteral.magnitude, FixedText.places_literal,
    FixedText.places_literal, fraction]
  rfl

theorem positional_point_zero (significand : Nat) (exponent : Int) :
    positional ".0" significand exponent = (withFraction (fixedText significand exponent)).text := by
  cases exponent with
  | ofNat zeros =>
      have layout : positional ".0" significand (Int.ofNat zeros) =
          digits significand ++ trailingZeros significand zeros ++ ['.', '0'] := rfl
      rw [layout]
      simp [fixedText, wholeText, withFraction, FixedText.text]
  | negSucc lastPlace =>
      have some : (pointText (lastPlace + 1) significand).fraction ≠ [] := by
        rw [← List.length_pos_iff, length_fraction_pointText]
        exact Nat.succ_pos lastPlace
      have layout : positional ".0" significand (Int.negSucc lastPlace) =
          (pointText (lastPlace + 1) significand).text := withPoint_digits lastPlace significand
      rw [layout, fixedText, withFraction, FixedText.text, FixedText.text]
      simp [some]

/-! ## With an exponent -/

def exponentPart (exponent : Int) : ExponentPart where
  mark := 'e'
  sign := if exponent < 0 then .minus else .plus
  digits := List.replicate (2 - (digits exponent.natAbs).length) '0' ++ digits exponent.natAbs
  marked := .inl rfl
  nonempty := List.append_ne_nil_of_right_ne_nil _ (digits_ne_nil _)
  isDigit := by
    intro char member
    rcases List.mem_append.mp member with zero | written
    · rw [(List.mem_replicate.mp zero).2]
      decide
    · exact isDigit_of_mem_digits written

theorem text_exponentPart (exponent : Int) :
    (exponentPart exponent).text = 'e' :: exponentDigits exponent := by
  unfold ExponentPart.text exponentPart exponentDigits
  dsimp only
  split <;> rfl

theorem value_exponentPart (exponent : Int) : (exponentPart exponent).value = exponent := by
  have magnitude : Nat.ofDigitChars 10 (exponentPart exponent).digits 0 = exponent.natAbs := by
    rw [← digitsValue_eq_ofDigitChars, exponentPart, digitsValue_zeros_append, digitsValue_digits]
  have sign : (exponentPart exponent).sign.negative = decide (exponent < 0) := by
    unfold exponentPart
    dsimp only
    split
    next minus => exact (decide_eq_true minus).symm
    next plus => exact (decide_eq_false plus).symm
  rw [ExponentPart.value, magnitude, sign]
  split
  next minus =>
    have below := of_decide_eq_true minus
    omega
  next plus =>
    have notBelow := of_decide_eq_false (Bool.eq_false_iff.mpr plus)
    omega

def scientificLiteral (negative : Bool) (significand : Nat) (exponent : Int) : DecimalLiteral where
  sign := .ofNegative negative
  whole := (digits significand).take 1
  fraction := if (digits significand).tail = [] then none else some (digits significand).tail
  exponent := some (exponentPart ((digits significand).length + exponent - 1))
  wholeDigits char member := isDigit_of_mem_digits (List.mem_of_mem_take member)
  fractionDigits := by
    intro places some char member
    split at some
    · cases some
    · cases some
      exact isDigit_of_mem_digits (List.mem_of_mem_tail member)
  someDigit := .inl (by simp [digits_ne_nil])

theorem text_scientificLiteral (negative : Bool) (significand : Nat) (exponent : Int) :
    (scientificLiteral negative significand exponent).text =
      (if negative then ['-'] else []) ++
        scientific (digits significand) ((digits significand).length + exponent - 1) := by
  rw [DecimalLiteral.text, scientificLiteral, SignMark.text_ofNegative]
  dsimp only
  rw [DecimalLiteral.exponentText, text_exponentPart]
  unfold scientific
  have some := digits_ne_nil significand
  generalize digits significand = written at some ⊢
  cases written with
  | nil => exact absurd rfl some
  | cons first rest => cases rest <;> simp [DecimalLiteral.fractionText]

theorem places_scientificLiteral (negative : Bool) (significand : Nat) (exponent : Int) :
    (scientificLiteral negative significand exponent).places = (digits significand).tail := by
  unfold DecimalLiteral.places scientificLiteral
  dsimp only
  split
  next none => exact none.symm
  next => rfl

theorem numeral_scientificLiteral (negative : Bool) (significand : Nat) (exponent : Int) :
    (scientificLiteral negative significand exponent).numeral =
      ⟨negative, significand, exponent⟩ := by
  have joined : (digits significand).take 1 ++ (digits significand).tail = digits significand := by
    rw [← List.drop_one, List.take_append_drop]
  have scale : (scientificLiteral negative significand exponent).scale =
      (digits significand).length + exponent - 1 := value_exponentPart _
  have some := List.length_pos_iff.mpr (digits_ne_nil significand)
  have places : ((digits significand).tail.length : Int) = (digits significand).length - 1 := by
    rw [List.length_tail]
    omega
  rw [DecimalLiteral.numeral, places_scientificLiteral, scale, places, scientificLiteral]
  dsimp only
  rw [SignMark.negative_ofNegative, joined, digitsValue_digits]
  congr 1
  omega

theorem magnitude_scientificLiteral (negative : Bool) (significand : Nat) (exponent : Int) :
    (scientificLiteral negative significand exponent).magnitude =
      significand * (10 : ℚ) ^ exponent := by
  rw [DecimalLiteral.magnitude_eq, numeral_scientificLiteral]

end Layout

end ExprLexer
