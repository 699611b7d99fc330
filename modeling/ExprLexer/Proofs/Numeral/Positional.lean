import ExprLexer.Numeral.Layout
import ExprLexer.Proofs.Numeral.Literal
import ExprLexer.Proofs.Numeral.Value

/-! Positional texts read back as the numeral that they were laid out from, up to
zeros that move from its exponent to its significand. -/

set_option autoImplicit false

namespace ExprLexer

attribute [local instance (1100)] instPowNat

theorem digitsValue_digits (value : Nat) : digitsValue (Layout.digits value) = value := by
  rw [digitsValue_eq_ofDigitChars]
  exact Nat.ofDigitChars_ten_toDigits

theorem digitsValue_append_zeros (digits : List Char) (zeros : Nat) :
    digitsValue (digits ++ List.replicate zeros '0') = digitsValue digits * 10 ^ zeros := by
  rw [digitsValue_eq_ofDigitChars, Nat.ofDigitChars_append, Nat.ofDigitChars_replicate_zero,
    digitsValue_eq_ofDigitChars, Nat.mul_comm]

theorem digitsValue_zeros_append (digits : List Char) (zeros : Nat) :
    digitsValue (List.replicate zeros '0' ++ digits) = digitsValue digits := by
  rw [digitsValue_eq_ofDigitChars, Nat.ofDigitChars_append, Nat.ofDigitChars_replicate_zero,
    Nat.mul_zero, digitsValue_eq_ofDigitChars]

/-- A number without an exponent: its digits before the point, of which there is at
least one, and after it. -/
structure FixedText where
  whole : List Char
  fraction : List Char
  nonempty : whole ≠ []
  digits : ∀ char ∈ whole ++ fraction, char.isDigit = true

namespace FixedText

def text (fixed : FixedText) : List Char :=
  fixed.whole ++ if fixed.fraction = [] then [] else '.' :: fixed.fraction

def numeral (negative : Bool) (fixed : FixedText) : Numeral :=
  ⟨negative, digitsValue (fixed.whole ++ fixed.fraction), -(fixed.fraction.length : Int)⟩

theorem wholeDigits (fixed : FixedText) : ∀ char ∈ fixed.whole, char.isDigit = true :=
  fun char member => fixed.digits char (List.mem_append_left _ member)

theorem fractionDigits (fixed : FixedText) : ∀ char ∈ fixed.fraction, char.isDigit = true :=
  fun char member => fixed.digits char (List.mem_append_right _ member)

/-- The text after a sign, as a literal. -/
def literal (negative : Bool) (fixed : FixedText) : DecimalLiteral where
  sign := .ofNegative negative
  whole := fixed.whole
  fraction := if fixed.fraction = [] then none else some fixed.fraction
  exponent := none
  wholeDigits := fixed.wholeDigits
  fractionDigits := by
    intro digits some
    split at some
    · cases some
    · cases some
      exact fixed.fractionDigits
  someDigit := .inl fixed.nonempty

theorem places_literal (fixed : FixedText) (negative : Bool) :
    (fixed.literal negative).places = fixed.fraction := by
  unfold DecimalLiteral.places literal
  dsimp only
  split
  next none => exact none.symm
  next => rfl

theorem text_literal (fixed : FixedText) (negative : Bool) :
    (fixed.literal negative).text = (if negative then ['-'] else []) ++ fixed.text := by
  have point : DecimalLiteral.fractionText (fixed.literal negative).fraction =
      if fixed.fraction = [] then [] else '.' :: fixed.fraction := by
    unfold literal
    dsimp only
    split <;> rfl
  rw [DecimalLiteral.text, point, literal, SignMark.text_ofNegative, text]
  simp [DecimalLiteral.exponentText]

theorem numeral_literal (fixed : FixedText) (negative : Bool) :
    (fixed.literal negative).numeral = fixed.numeral negative := by
  rw [DecimalLiteral.numeral, places_literal]
  simp [literal, numeral, DecimalLiteral.scale]

theorem read?_text (fixed : FixedText) (negative : Bool) :
    Numeral.read? ((if negative then ['-'] else []) ++ fixed.text) =
      some (fixed.numeral negative) := by
  rw [← text_literal, DecimalLiteral.read?_text, numeral_literal]

end FixedText

namespace Layout

theorem isDigit_of_mem_digits {value : Nat} {char : Char} (member : char ∈ digits value) :
    char.isDigit = true :=
  Nat.isDigit_of_mem_toDigits (by decide) (by decide) member

def trailingZeros (significand zeros : Nat) : List Char :=
  if significand = 0 then [] else List.replicate zeros '0'

def wholeText (significand zeros : Nat) : FixedText where
  whole := digits significand ++ trailingZeros significand zeros
  fraction := []
  nonempty := by simp [digits, Nat.toDigits_ne_nil]
  digits := by
    intro char member
    rw [List.append_nil, List.mem_append] at member
    rcases member with written | zero
    · exact isDigit_of_mem_digits written
    · unfold trailingZeros at zero
      split at zero
      · cases zero
      · rw [(List.mem_replicate.mp zero).2]
        decide

theorem positional_ofNat (significand zeros : Nat) :
    positional "" significand (zeros : Nat) = (wholeText significand zeros).text := by
  have layout : positional "" significand (Int.ofNat zeros) =
      digits significand ++ trailingZeros significand zeros ++ "".toList := rfl
  simpa [FixedText.text, wholeText] using layout

theorem digitsValue_wholeText (significand zeros : Nat) :
    digitsValue (wholeText significand zeros).whole = significand * 10 ^ zeros := by
  unfold wholeText trailingZeros
  dsimp only
  split
  next none => rw [List.append_nil, digitsValue_digits, none, Nat.zero_mul]
  next some => rw [digitsValue_append_zeros, digitsValue_digits]

/-- The digits of a number, with zeros before them so that they exceed some places. -/
def paddedDigits (places significand : Nat) : List Char :=
  List.replicate (places + 1 - (digits significand).length) '0' ++ digits significand

theorem lt_length_paddedDigits (places significand : Nat) :
    places < (paddedDigits places significand).length := by
  rw [paddedDigits, List.length_append, List.length_replicate]
  omega

theorem isDigit_of_mem_paddedDigits {places significand : Nat} {char : Char}
    (member : char ∈ paddedDigits places significand) : char.isDigit = true := by
  rcases List.mem_append.mp member with zero | written
  · rw [(List.mem_replicate.mp zero).2]
    decide
  · exact isDigit_of_mem_digits written

/-- The text of a number with some places after the point. -/
def pointText (places significand : Nat) : FixedText where
  whole := (paddedDigits places significand).take
    ((paddedDigits places significand).length - places)
  fraction := (paddedDigits places significand).drop
    ((paddedDigits places significand).length - places)
  nonempty := by
    have long := lt_length_paddedDigits places significand
    rw [← List.length_pos_iff, List.length_take]
    omega
  digits := by
    intro char member
    rw [List.take_append_drop] at member
    exact isDigit_of_mem_paddedDigits member

theorem pointText_joined (places significand : Nat) :
    (pointText places significand).whole ++ (pointText places significand).fraction =
      paddedDigits places significand :=
  List.take_append_drop ..

theorem length_fraction_pointText (places significand : Nat) :
    (pointText places significand).fraction.length = places := by
  have long := lt_length_paddedDigits places significand
  rw [pointText, List.length_drop]
  omega

theorem withPoint_digits (lastPlace significand : Nat) :
    withPoint (lastPlace + 1) (digits significand) = (pointText (lastPlace + 1) significand).text := by
  have some : (pointText (lastPlace + 1) significand).fraction ≠ [] := by
    rw [← List.length_pos_iff, length_fraction_pointText]
    exact Nat.succ_pos lastPlace
  rw [FixedText.text, if_neg some]
  rfl

theorem numeral_pointText (lastPlace significand : Nat) (negative : Bool) :
    (pointText (lastPlace + 1) significand).numeral negative =
      ⟨negative, significand, Int.negSucc lastPlace⟩ := by
  rw [FixedText.numeral, pointText_joined, length_fraction_pointText, paddedDigits,
    digitsValue_zeros_append, digitsValue_digits]
  rfl

/-- The text without an exponent that a numeral is laid out as. -/
def fixedText (significand : Nat) : Int → FixedText
  | .ofNat zeros => wholeText significand zeros
  | .negSucc lastPlace => pointText (lastPlace + 1) significand

theorem positional_eq_text (significand : Nat) (exponent : Int) :
    positional "" significand exponent = (fixedText significand exponent).text := by
  cases exponent with
  | ofNat zeros => exact positional_ofNat significand zeros
  | negSucc lastPlace => exact withPoint_digits lastPlace significand

/-- A positional layout that keeps no fraction for whole numbers is a number without
an exponent, and has the value of the numeral that it was laid out from. -/
theorem exists_fixedText_positional (significand : Nat) (exponent : Int) :
    ∃ fixed : FixedText, positional "" significand exponent = fixed.text ∧
      ∀ negative, (fixed.numeral negative).toBinary64 =
        (⟨negative, significand, exponent⟩ : Numeral).toBinary64 := by
  refine ⟨fixedText significand exponent, positional_eq_text significand exponent, ?_⟩
  intro negative
  cases exponent with
  | ofNat zeros =>
      have moved := Numeral.toBinary64_mul_pow negative significand zeros 0
      rw [Int.zero_add, ← digitsValue_wholeText] at moved
      exact Eq.trans (by simp [fixedText, FixedText.numeral, wholeText]) moved
  | negSucc lastPlace =>
      exact congrArg Numeral.toBinary64 (numeral_pointText lastPlace significand negative)

end Layout

end ExprLexer
