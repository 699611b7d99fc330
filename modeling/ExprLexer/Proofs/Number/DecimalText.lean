import ExprLexer.Number.Decimal
import ExprLexer.Proofs.Binary64.Words
import ExprLexer.Proofs.Numeral.Positional
import ExprLexer.Proofs.Numeral.Shortest

/-! Display and reading of decimals are partners. A display is a literal of its own
value, or one of the three names. -/

set_option autoImplicit false

namespace ExprLexer.Decimal

open Binary64 (IsNanWord ofWord)

/-- The three names are no literals, so that a literal is read by its numeral. -/
theorem parse_of_read? {text : String} {numeral : Numeral}
    (literal : Numeral.read? text.toList = some numeral) :
    parse text = .ok ⟨numeral.toBinary64⟩ := by
  have unnamed : ∀ name ∈ ["inf", "-inf", "NaN"], text ≠ name := by
    have refused : ∀ name ∈ ["inf", "-inf", "NaN"], Numeral.read? name.toList = none := by decide
    intro name member same
    rw [same, refused name member] at literal
    cases literal
  rw [parse, if_neg (unnamed "inf" (by decide)), if_neg (unnamed "-inf" (by decide)),
    if_neg (unnamed "NaN" (by decide)), literal]

theorem format_finite (negative : Bool) (units : Nat)
    (representable : Binary64.Representable units) :
    format (.finite negative units representable) =
      String.ofList ((if negative then ['-'] else []) ++
        Layout.positional "" (Binary64.shortestDigits units).1
          (Binary64.shortestDigits units).2) :=
  rfl

/-- Every display reads back as the value that it displays. -/
theorem parse_format (value : Binary64) : parse (format value) = .ok ⟨value⟩ := by
  cases value with
  | nan => rfl
  | infinity negative => cases negative <;> rfl
  | finite negative units representable =>
      obtain ⟨fixed, layout, denotes⟩ := Layout.exists_fixedText_positional
        (Binary64.shortestDigits units).1 (Binary64.shortestDigits units).2
      have literal := fixed.read?_text negative
      have value := Binary64.denotes_shortestDigits units negative representable
      rw [format_finite, layout, parse_of_read? (by rw [String.toList_ofList, literal]), denotes,
        value]

theorem format_injective {left right : Binary64} (same : format left = format right) :
    left = right := by
  have read := parse_format left
  rw [same, parse_format right] at read
  exact (Decimal.mk.inj (Except.ok.inj read)).symm

/-- Displays read back with all their bits, but for the payload of a NaN; so they
tell words apart; and what is displayed after reading stays as it is. -/
theorem display_round_trips :
    (∀ word : UInt64, ∃ decimal, parse (display ⟨ofWord word⟩) = .ok decimal ∧
      (IsNanWord word → decimal.value = .nan) ∧
      (¬IsNanWord word → decimal.value.toWord = word)) ∧
    (∀ left right : UInt64, ¬IsNanWord left → ¬IsNanWord right →
      format (ofWord left) = format (ofWord right) → left = right) ∧
    ∀ text decimal, parse text = .ok decimal →
      (parse decimal.display).map display = .ok decimal.display := by
  refine ⟨?_, ?_, ?_⟩
  · intro word
    exact ⟨_, parse_format _, Binary64.ofWord_of_isNanWord, Binary64.toWord_ofWord⟩
  · intro left right leftOrdinary rightOrdinary same
    rw [← Binary64.toWord_ofWord leftOrdinary, format_injective same,
      Binary64.toWord_ofWord rightOrdinary]
  · intro text decimal _
    have read : parse decimal.display = .ok decimal := parse_format decimal.value
    rw [read]
    rfl

end ExprLexer.Decimal
