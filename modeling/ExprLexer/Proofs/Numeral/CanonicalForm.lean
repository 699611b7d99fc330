import ExprLexer.Proofs.Numeral.Positional
import Mathlib.Data.List.DropRight

/-! Numbers without an exponent are laid out without zeros to spare, and their digits from
the first to the last that is no zero are counted. -/

set_option autoImplicit false

namespace ExprLexer

attribute [local instance (1100)] instPowNat

/-! ## Canonical texts -/

/-- A number without an exponent has no zero to spare: its whole part is a zero or does not
start with one, and its fraction does not end in one. -/
structure FixedText.IsCanonical (fixed : FixedText) : Prop where
  whole : fixed.whole = ['0'] ∨ fixed.whole.head? ≠ some '0'
  fraction : fixed.fraction.getLast? ≠ some '0'

namespace Layout

variable {value significand : Nat}

theorem digits_of_le (several : 10 ≤ value) :
    digits value = digits (value / 10) ++ [Nat.digitChar (value % 10)] :=
  Nat.toDigits_of_base_le (by decide) several

theorem digits_of_lt (single : value < 10) : digits value = [Nat.digitChar value] :=
  Nat.toDigits_of_lt_base single

theorem digits_ne_nil (value : Nat) : digits value ≠ [] := Nat.toDigits_ne_nil

theorem head?_digits (positive : 0 < value) : (digits value).head? ≠ some '0' := by
  induction value using Nat.strongRecOn with
  | ind value ih =>
      rcases Nat.lt_or_ge value 10 with single | several
      · rw [digits_of_lt single, List.head?_cons, Ne, Option.some.injEq, Nat.digitChar_eq_zero]
        exact Nat.ne_of_gt positive
      · have first := ih (value / 10) (by omega) (by omega)
        rwa [digits_of_le several, List.head?_append_of_ne_nil _ (digits_ne_nil _)]

theorem getLast?_digits (value : Nat) :
    (digits value).getLast? = some (Nat.digitChar (value % 10)) := by
  rcases Nat.lt_or_ge value 10 with single | several
  · rw [digits_of_lt single, Nat.mod_eq_of_lt single, List.getLast?_singleton]
  · rw [digits_of_le several, List.getLast?_concat]

theorem isCanonical_wholeText (significand zeros : Nat) :
    (wholeText significand zeros).IsCanonical := by
  refine ⟨?_, nofun⟩
  rcases Nat.eq_zero_or_pos significand with rfl | positive
  · exact .inl rfl
  · right
    rw [wholeText, List.head?_append_of_ne_nil _ (digits_ne_nil _)]
    exact head?_digits positive

theorem isCanonical_pointText {places : Nat} (trimmed : significand % 10 ≠ 0) (some : 0 < places) :
    (pointText places significand).IsCanonical := by
  have long := lt_length_paddedDigits places significand
  constructor
  · rcases Nat.lt_or_ge places (digits significand).length with reaches | small
    · -- The digits go beyond the point, so that there is no padding.
      right
      have none : paddedDigits places significand = digits significand := by
        rw [paddedDigits, Nat.sub_eq_zero_of_le reaches, List.replicate_zero, List.nil_append]
      rw [pointText, List.head?_take, if_neg (by omega), none]
      exact head?_digits (by omega)
    · left
      have width : (paddedDigits places significand).length = places + 1 := by
        rw [paddedDigits, List.length_append, List.length_replicate]
        omega
      have padding : places + 1 - (digits significand).length =
          places - (digits significand).length + 1 := by omega
      have whole : (pointText places significand).whole =
          (paddedDigits places significand).take
            ((paddedDigits places significand).length - places) := rfl
      rw [whole, width, Nat.add_sub_cancel_left, paddedDigits, padding, List.replicate_succ]
      rfl
  · rw [pointText, List.getLast?_drop, if_neg (by omega), paddedDigits,
      List.getLast?_append_of_ne_nil _ (digits_ne_nil _), getLast?_digits, Ne,
      Option.some.injEq, Nat.digitChar_eq_zero]
    exact trimmed

theorem isCanonical_fixedText (exponent : Int)
    (trimmed : significand % 10 ≠ 0 ∨ 0 ≤ exponent) :
    (fixedText significand exponent).IsCanonical := by
  cases exponent with
  | ofNat zeros => exact isCanonical_wholeText significand zeros
  | negSucc lastPlace =>
      have lastDigit : significand % 10 ≠ 0 :=
        trimmed.resolve_right (Int.not_le.mpr (Int.negSucc_lt_zero lastPlace))
      exact isCanonical_pointText lastDigit (Nat.succ_pos lastPlace)

end Layout

/-! ## Significant digits -/

def digitNumber (digit : Char) : Nat := digit.toNat - '0'.toNat

theorem digitNumber_lt {digit : Char} (isDigit : digit.isDigit = true) :
    digitNumber digit < 10 := by
  have most := (Char.isDigit_iff_toNat.mp isDigit).2
  have zero : '0'.toNat = 48 := rfl
  have nine : '9'.toNat = 57 := rfl
  rw [digitNumber]
  omega

def isZeroDigit (char : Char) : Bool := char == '0'

/-- The number of digits from the first to the last that is no zero. -/
def significantDigits (digits : List Char) : Nat :=
  ((digits.dropWhile isZeroDigit).rdropWhile isZeroDigit).length

section Significant

variable {digits : List Char}

theorem digitsValue_lt (run : ∀ char ∈ digits, char.isDigit = true) :
    digitsValue digits < 10 ^ digits.length := by
  rw [digitsValue_eq_ofDigitChars]
  induction digits with
  | nil => exact Nat.one_pos
  | cons first others ih =>
      have rest := ih fun char member => run char (List.mem_cons_of_mem _ member)
      have digit : first.toNat - '0'.toNat < 10 := digitNumber_lt (run first List.mem_cons_self)
      rw [Nat.ofDigitChars_cons, Nat.ofDigitChars_eq_ofDigitChars_zero, Nat.mul_zero, Nat.zero_add,
        List.length_cons, Nat.pow_succ]
      have most := Nat.mul_le_mul_left (10 ^ others.length) (Nat.le_of_lt_succ digit)
      omega

theorem eq_zeros {zeros : List Char} (all : ∀ char ∈ zeros, isZeroDigit char = true) :
    zeros = List.replicate zeros.length '0' :=
  List.eq_replicate_of_mem fun char member => eq_of_beq (all char member)

/-- Zeros before the other digits do not count. -/
theorem digitsValue_dropWhile (digits : List Char) :
    digitsValue (digits.dropWhile isZeroDigit) = digitsValue digits := by
  have leading := eq_zeros fun char (member : char ∈ digits.takeWhile isZeroDigit) =>
    List.mem_takeWhile_imp member
  calc digitsValue (digits.dropWhile isZeroDigit)
      = digitsValue (digits.takeWhile isZeroDigit ++ digits.dropWhile isZeroDigit) := by
        rw [leading, digitsValue_zeros_append]
    _ = digitsValue digits := by rw [List.takeWhile_append_dropWhile]

/-- The digits denote a number of their significant digits, with zeros after it. -/
theorem exists_significant (run : ∀ char ∈ digits, char.isDigit = true) :
    ∃ core zeros, digitsValue digits = core * 10 ^ zeros ∧
      core < 10 ^ significantDigits digits := by
  obtain ⟨unpadded, unpaddedEq⟩ : ∃ rest, digits.dropWhile isZeroDigit = rest := ⟨_, rfl⟩
  have trailing := eq_zeros fun char (member : char ∈ unpadded.rtakeWhile isZeroDigit) =>
    List.mem_rtakeWhile_imp member
  have value : digitsValue digits = digitsValue unpadded := by
    rw [← unpaddedEq, digitsValue_dropWhile]
  have split : digitsValue unpadded = digitsValue (unpadded.rdropWhile isZeroDigit) *
      10 ^ (unpadded.rtakeWhile isZeroDigit).length := by
    rw [← digitsValue_append_zeros, ← trailing, List.rdropWhile_append_rtakeWhile]
  have coreDigits : ∀ char ∈ unpadded.rdropWhile isZeroDigit, char.isDigit = true := by
    intro char member
    have kept := (List.rdropWhile_prefix isZeroDigit unpadded).subset member
    rw [← unpaddedEq] at kept
    exact run char ((List.dropWhile_suffix isZeroDigit).subset kept)
  refine ⟨_, _, value.trans split, ?_⟩
  rw [significantDigits, unpaddedEq]
  exact digitsValue_lt coreDigits

theorem significantDigits_le_length (digits : List Char) :
    significantDigits digits ≤ digits.length :=
  ((List.rdropWhile_prefix _ _).length_le).trans (List.dropWhile_suffix _).length_le

theorem significantDigits_zeros_append (zeros : Nat) (digits : List Char) :
    significantDigits (List.replicate zeros '0' ++ digits) = significantDigits digits := by
  rw [significantDigits, List.dropWhile_append_of_pos]
  · rfl
  · intro char member
    rw [List.eq_of_mem_replicate member]
    rfl

theorem significantDigits_append_zeros (digits : List Char) (zeros : Nat) :
    significantDigits (digits ++ List.replicate zeros '0') = significantDigits digits := by
  induction zeros with
  | zero => rw [List.replicate_zero, List.append_nil]
  | succ zeros ih =>
      have zero : isZeroDigit '0' = true := rfl
      rw [List.replicate_succ', ← List.append_assoc, ← ih, significantDigits, List.dropWhile_append]
      split
      next none => simp [significantDigits, List.isEmpty_iff.mp none, zero]
      next => rw [List.rdropWhile_concat_pos _ _ _ zero, significantDigits]

end Significant

theorem Layout.significantDigits_fixedText_le (significand : Nat) (exponent : Int) :
    significantDigits ((fixedText significand exponent).whole ++
      (fixedText significand exponent).fraction) ≤ (digits significand).length := by
  cases exponent with
  | ofNat zeros =>
      have trailing : ∃ count, trailingZeros significand zeros = List.replicate count '0' := by
        unfold trailingZeros
        split
        next => exact ⟨0, rfl⟩
        next => exact ⟨zeros, rfl⟩
      obtain ⟨count, trailing⟩ := trailing
      have joined : (wholeText significand zeros).whole ++ (wholeText significand zeros).fraction =
          digits significand ++ trailingZeros significand zeros := List.append_nil _
      rw [fixedText, joined, trailing, significantDigits_append_zeros]
      exact significantDigits_le_length _
  | negSucc lastPlace =>
      rw [fixedText, pointText_joined, paddedDigits, significantDigits_zeros_append]
      exact significantDigits_le_length _

end ExprLexer
