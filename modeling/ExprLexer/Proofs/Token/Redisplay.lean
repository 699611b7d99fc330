import ExprLexer.Proofs.Binary64.ExactValue
import ExprLexer.Proofs.Number.CanonicalText
import ExprLexer.Proofs.Numeral.WholeNumbers
import ExprLexer.Proofs.Token.Literals

/-! Displays of tokens that are classified again. The classifier goes by the form of a text, and
the display of a constant may have lost the form of a constant: a whole value keeps no point,
and an infinity is a name. -/

set_option autoImplicit false

namespace ExprLexer

theorem Layout.fraction_fixedText_eq_nil_iff (significand : Nat) (exponent : Int) :
    (fixedText significand exponent).fraction = [] ↔ 0 ≤ exponent := by
  cases exponent with
  | ofNat zeros => exact iff_of_true rfl (Int.natCast_nonneg zeros)
  | negSucc lastPlace =>
      refine iff_of_false ?_ (Int.not_le.mpr (Int.negSucc_lt_zero lastPlace))
      rw [fixedText, ← List.length_eq_zero_iff, length_fraction_pointText]
      exact Nat.succ_ne_zero lastPlace

namespace FixedText

variable {fixed : FixedText}

theorem point_mem_literal (some : fixed.fraction ≠ []) (negative : Bool) :
    '.' ∈ (fixed.literal negative).text := by
  rw [text_literal, text, if_neg some]
  simp

theorem point_not_mem_literal (none : fixed.fraction = []) (negative : Bool) :
    '.' ∉ (fixed.literal negative).text :=
  DecimalLiteral.point_not_mem_text (if_pos none)

theorem isDigitRun_literal (none : fixed.fraction = []) (negative : Bool) :
    isDigitRun (fixed.literal negative).text = !negative := by
  cases negative with
  | true => exact DecimalLiteral.not_isDigitRun_text (.inl nofun)
  | false =>
      rw [text_literal, Decimal.text_eq_of_fraction_eq_nil none]
      exact isDigitRun_iff.mpr ⟨fixed.nonempty, fixed.wholeDigits⟩

end FixedText

namespace TokenValue

open Binary64 (Representable)

variable {legacyIntegers : Bool}

/-- Whether a token is what its display is classified as. Of the constants these are the finite
ones with a fraction, and where runs of digits are constants the whole ones without a sign. -/
def SurvivesDisplay (legacyIntegers : Bool) : TokenValue → Prop
  | .constant value => value.isFinite = true ∧
      (value.isWhole = true → value.isNegative = false ∧ legacyIntegers = false)
  | _ => True

instance (legacyIntegers : Bool) :
    (token : TokenValue) → Decidable (token.SurvivesDisplay legacyIntegers)
  | .constant value => inferInstanceAs (Decidable (value.isFinite = true ∧
      (value.isWhole = true → value.isNegative = false ∧ legacyIntegers = false)))
  | .leftParen | .rightParen | .variable _ | .operator _ => inferInstanceAs (Decidable True)

theorem survivesDisplay_of_ofSymbol? {text : List Char} {token : TokenValue}
    (known : ofSymbol? text = some token) : token.SurvivesDisplay legacyIntegers := by
  cases token with
  | constant value => exact absurd known (ofSymbol?_ne_constant text value)
  | leftParen | rightParen | «variable» | operator => trivial

theorem looksNumeric_format_finite (negative : Bool) {units : Nat}
    (representable : Representable units) :
    looksNumeric legacyIntegers (Decimal.format (.finite negative units representable)) = true ↔
      (Binary64.unitsPerOne ∣ units → negative = false ∧ legacyIntegers = false) := by
  rw [← Binary64.exponent_nonneg_iff representable, ← Layout.fraction_fixedText_eq_nil_iff,
    ← Decimal.displayed, Decimal.format_eq_text_displayed]
  by_cases none : (Decimal.displayed units).fraction = []
  · rw [looksNumeric_iff_of_not_mem, String.toList_ofList, FixedText.isDigitRun_literal none,
      Bool.not_eq_true', and_comm]
    · exact (imp_iff_right none).symm
    · rw [String.toList_ofList]
      exact FixedText.point_not_mem_literal none negative
  · refine iff_of_true (looksNumeric_of_mem ?_) (absurd · none)
    rw [String.toList_ofList]
    exact FixedText.point_mem_literal none negative

theorem looksNumeric_format_iff (value : Binary64) :
    looksNumeric legacyIntegers (Decimal.format value) = true ↔
      (constant value).SurvivesDisplay legacyIntegers := by
  have named : ∀ name ∈ ["NaN", "inf", "-inf"], looksNumeric legacyIntegers name ≠ true := by
    cases legacyIntegers <;> decide
  cases value with
  | nan => exact iff_of_false (named "NaN" (by decide)) (nofun ∘ And.left)
  | infinity negative =>
      refine iff_of_false (named _ ?_) (nofun ∘ And.left)
      cases negative <;> decide
  | finite negative units representable =>
      rw [looksNumeric_format_finite, SurvivesDisplay, Binary64.isWhole, beq_iff_eq,
        ← Nat.dvd_iff_mod_eq_zero]
      exact (and_iff_right rfl).symm

/-- What is displayed is classified again, as the same token if that survives its display and
as a variable otherwise. The display of a constant is in any case read as its value, and only
the form decides; the displays of the other tokens are their texts. -/
theorem classify_display {text : String} {token : TokenValue}
    (classified : classify legacyIntegers text = .ok token) :
    classify legacyIntegers token.display =
      .ok (if token.SurvivesDisplay legacyIntegers then token else .variable token.display) := by
  have form := classifies legacyIntegers text
  rw [classified] at form
  cases form with
  | symbol known =>
      rw [display_of_ofSymbol? known, String.ofList_toList, classified,
        if_pos (survivesDisplay_of_ofSymbol? known)]
  | @number numeral _ _ =>
      rw [display, classify_of_parse (Decimal.parse_format numeral.toBinary64)]
      exact congrArg Except.ok (if_congr (looksNumeric_format_iff _) rfl rfl)
  | «variable» _ => exact classified

/-- A whole number that was written with a point is displayed without one, and with its sign. -/
theorem classify_display_minus_five :
    classify false "-5." = .ok (.constant (Binary64.ofInt (-5))) ∧
      classify false (display (.constant (Binary64.ofInt (-5)))) = .ok (.variable "-5") := by
  have classified : classify false "-5." = .ok (.constant (Binary64.ofInt (-5))) := by
    decide +kernel
  refine ⟨classified, ?_⟩
  rw [classify_display classified]
  decide +kernel

theorem displays_not_always_classified_back :
    ¬∀ legacyIntegers text token, classify legacyIntegers text = .ok token →
      ∃ again, classify legacyIntegers token.display = .ok again ∧ again.equals token = true := by
  intro always
  obtain ⟨again, classified, same⟩ := always false "-5." (.constant (Binary64.ofInt (-5)))
    (by decide +kernel)
  have lost : classify false (display (.constant (Binary64.ofInt (-5)))) =
      .ok (.variable "-5") := by decide +kernel
  rw [lost] at classified
  cases classified
  cases same

end TokenValue

end ExprLexer
