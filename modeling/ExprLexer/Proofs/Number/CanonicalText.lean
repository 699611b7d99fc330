import ExprLexer.Proofs.Number.DecimalGrammar
import ExprLexer.Proofs.Numeral.FewestDigits
import ExprLexer.Proofs.Numeral.WrittenFloats

/-! Displays of decimals are canonical. A display has no exponent and no zero to spare, and is
the number of the written form of its value, of which no literal has fewer digits. -/

set_option autoImplicit false

namespace ExprLexer

attribute [local instance (1100)] instPowNat

section Leading

variable {significand : Nat} {exponent : Int}

/-- The decimal exponent of the leading digit bounds the number from both sides. -/
theorem Layout.zpow_le_iff_le_leading (positive : 0 < significand) (power : Int) :
    (10 : ℚ) ^ power ≤ significand * (10 : ℚ) ^ exponent ↔
      power ≤ (digits significand).length + exponent - 1 := by
  have one : (1 : ℚ) < 10 := by norm_num
  have ten : (10 : ℚ) ≠ 0 := by norm_num
  have scale : (0 : ℚ) < (10 : ℚ) ^ exponent := zpow_pos (by norm_num) exponent
  obtain ⟨some, least, most⟩ := pow_le_and_lt_of_length_toDigits positive (Eq.refl _)
  have below : (10 : ℚ) ^ ((digits significand).length + exponent - 1) ≤
      significand * (10 : ℚ) ^ exponent := by
    have split : ((digits significand).length : Int) + exponent - 1 =
        ((digits significand).length - 1 : Nat) + exponent := by
      have whole : 0 < (digits significand).length := some
      omega
    rw [split, zpow_add₀ ten, zpow_natCast]
    exact mul_le_mul_of_nonneg_right (by exact_mod_cast least) scale.le
  have above : significand * (10 : ℚ) ^ exponent <
      (10 : ℚ) ^ ((digits significand).length + exponent) := by
    rw [zpow_add₀ ten, zpow_natCast]
    exact mul_lt_mul_of_pos_right (by exact_mod_cast most) scale
  constructor
  · intro reached
    have less := (zpow_lt_zpow_iff_right₀ one).mp (reached.trans_lt above)
    omega
  · intro within
    exact (zpow_le_zpow_right₀ one.le within).trans below

end Leading

namespace Decimal

open Binary64 (Denotes Representable shortestDigits)

variable {units : Nat}

/-! ## The written form -/

theorem shortestDigits_zero : shortestDigits 0 = (0, 0) := rfl

/-- The shortest numeral of a value does not end in a zero, unless the value is zero. -/
theorem shortestDigits_trimmed (representable : Representable units) :
    shortestDigits units = (0, 0) ∨ (shortestDigits units).1 % 10 ≠ 0 := by
  rcases Nat.eq_zero_or_pos units with rfl | positive
  · exact .inl shortestDigits_zero
  · exact .inr (Binary64.shortestDigits_fewest representable (Nat.ne_of_gt positive)).1

/-- Written forms have no exponent from one ten thousandth on and below ten quadrillions. -/
def IsOrdinary (magnitude : ℚ) : Prop :=
  magnitude = 0 ∨ (10 : ℚ) ^ (-4 : Int) ≤ magnitude ∧ magnitude < (10 : ℚ) ^ (16 : Int)

theorem isOrdinary_iff {numeral : Nat × Int} (trimmed : numeral = (0, 0) ∨ numeral.1 % 10 ≠ 0) :
    IsOrdinary (numeral.1 * (10 : ℚ) ^ numeral.2) ↔
      Toml.floatLayout.isPositional
        ((Layout.digits numeral.1).length + numeral.2 - 1) = true := by
  rcases trimmed with rfl | trimmed
  · have ordinary : IsOrdinary ((0 : Nat) * (10 : ℚ) ^ (0 : Int)) := .inl (by simp)
    exact iff_of_true ordinary rfl
  · have positive : 0 < numeral.1 := by omega
    have nonzero : numeral.1 * (10 : ℚ) ^ numeral.2 ≠ 0 :=
      mul_ne_zero (Nat.cast_ne_zero.mpr positive.ne') (zpow_ne_zero _ (by norm_num))
    rw [IsOrdinary, or_iff_right nonzero, ← not_le, Layout.zpow_le_iff_le_leading positive,
      Layout.zpow_le_iff_le_leading positive, not_le]
    simp [Toml.floatLayout]

def written (negative : Bool) (units : Nat) : DecimalLiteral :=
  let (significand, exponent) := shortestDigits units
  if Toml.floatLayout.isPositional ((Layout.digits significand).length + exponent - 1) then
    (Layout.withFraction (Layout.fixedText significand exponent)).literal negative
  else Layout.scientificLiteral negative significand exponent

theorem text_written (negative : Bool) (representable : Representable units) :
    String.ofList (written negative units).text =
      Toml.floatLayout.write (.finite negative units representable) := by
  have layout : Toml.floatLayout.write (.finite negative units representable) =
      String.ofList ((if negative then ['-'] else []) ++ Toml.floatLayout.magnitude units) := rfl
  rw [layout, Layout.magnitude, written]
  dsimp only
  split
  next => rw [FixedText.text_literal, ← Layout.positional_point_zero]; rfl
  next => rw [Layout.text_scientificLiteral]

theorem negative_written (negative : Bool) (units : Nat) :
    (written negative units).sign.negative = negative := by
  unfold written
  dsimp only
  split <;> exact SignMark.negative_ofNegative negative

theorem magnitude_written (negative : Bool) (units : Nat) :
    (written negative units).magnitude =
      (shortestDigits units).1 * (10 : ℚ) ^ (shortestDigits units).2 := by
  unfold written
  dsimp only
  split
  next => rw [Layout.magnitude_withFraction, Layout.magnitude_fixedText]
  next => exact Layout.magnitude_scientificLiteral negative _ _

theorem exponent_written (negative : Bool) (representable : Representable units) :
    (written negative units).exponent = none ↔ IsOrdinary (written negative units).magnitude := by
  rw [magnitude_written, isOrdinary_iff (shortestDigits_trimmed representable), written]
  dsimp only
  split
  next positional => exact iff_of_true rfl positional
  next scientific => exact iff_of_false nofun scientific

/-! ## The fewest digits -/

/-- Whatever literal is read as a value has at least the digits of its shortest numeral. -/
theorem length_digits_le_of_parse {negative : Bool} {representable : Representable units}
    {literal : DecimalLiteral} (nonzero : units ≠ 0)
    (read : parse (String.ofList literal.text) = .ok ⟨.finite negative units representable⟩) :
    (Layout.digits (shortestDigits units).1).length ≤
      significantDigits (literal.whole ++ literal.places) := by
  obtain ⟨trimmed, digits, short, fewest⟩ := Binary64.shortestDigits_fewest representable nonzero
  have rounded : Binary64.RoundsTo
      (Binary64.scaled literal.numeral.significand literal.numeral.exponent) units := by
    have nearest := literal.isNearest_toBinary64
    rw [parse_literal] at read
    rw [Decimal.mk.inj (Except.ok.inj read), literal.magnitude_eq] at nearest
    cases nearest with
    | finite _ rounded => exact rounded
  have run : ∀ char ∈ literal.whole ++ literal.places, char.isDigit = true := by
    intro char member
    rcases List.mem_append.mp member with whole | place
    · exact literal.wholeDigits char whole
    · cases fraction : literal.fraction with
      | none =>
          rw [DecimalLiteral.places, fraction] at place
          cases place
      | some places =>
          rw [DecimalLiteral.places, fraction] at place
          exact literal.fractionDigits places fraction char place
  -- The zeros after the significant digits move to the exponent, and a shorter numeral is left.
  obtain ⟨core, zeros, value, less⟩ := exists_significant run
  have coreDenotes : Denotes (core, literal.numeral.exponent + zeros) units := by
    rw [Binary64.denotes_iff representable, ← Binary64.scaled_mul_pow, ← value]
    exact rounded
  have positive : 0 < digits := by
    rcases Nat.eq_zero_or_pos digits with rfl | positive
    · omega
    · exact positive
  calc (Layout.digits (shortestDigits units).1).length
      ≤ digits := (Nat.length_toDigits_le_iff (by decide) positive).mpr short
    _ ≤ significantDigits (literal.whole ++ literal.places) := fewest _ _ _ less coreDenotes

/-! ## Displays -/

def displayed (units : Nat) : FixedText :=
  Layout.fixedText (shortestDigits units).1 (shortestDigits units).2

theorem isCanonical_displayed (representable : Representable units) :
    (displayed units).IsCanonical := by
  apply Layout.isCanonical_fixedText
  rcases shortestDigits_trimmed representable with zero | trimmed
  · rw [zero]
    exact .inr (Int.le_refl 0)
  · exact .inl trimmed

theorem format_eq_text_displayed (negative : Bool) (representable : Representable units) :
    format (.finite negative units representable) =
      String.ofList ((displayed units).literal negative).text := by
  rw [format_finite, FixedText.text_literal, Layout.positional_eq_text, displayed]

theorem significantDigits_displayed_le {negative : Bool} {representable : Representable units}
    {literal : DecimalLiteral}
    (read : parse (String.ofList literal.text) = .ok ⟨.finite negative units representable⟩) :
    significantDigits ((displayed units).whole ++ (displayed units).fraction) ≤
      significantDigits (literal.whole ++ literal.places) := by
  rcases Nat.eq_zero_or_pos units with rfl | positive
  · exact Nat.zero_le _
  · exact (Layout.significantDigits_fixedText_le _ _).trans
      (length_digits_le_of_parse (Nat.ne_of_gt positive) read)

theorem head?_text_literal (fixed : FixedText) (negative : Bool) :
    (fixed.literal negative).text.head? = some '-' ↔ negative = true := by
  rw [FixedText.text_literal]
  cases negative with
  | true => exact iff_of_true rfl rfl
  | false =>
      refine iff_of_false ?_ nofun
      intro minus
      obtain ⟨first, rest, whole⟩ := List.exists_cons_of_ne_nil fixed.nonempty
      have digit := fixed.wholeDigits first (whole ▸ List.mem_cons_self)
      simp only [FixedText.text, whole] at minus
      cases minus
      exact absurd digit (by decide)

/-! ## Displays as plain forms -/

/-- Leaves out a fraction that is a single zero. -/
def dropPointZero (text : List Char) : List Char :=
  if ['.', '0'] <:+ text then text.take (text.length - 2) else text

/-- A written form without its exponent, if it has one, and without a fraction that is zero. -/
def plainForm (text : List Char) : List Char :=
  dropPointZero <|
    if 'e' ∈ text then
      match Numeral.read? text with
      | some numeral => (if numeral.negative then ['-'] else []) ++
          Layout.positional "" numeral.significand numeral.exponent
      | none => text
    else text

theorem text_eq_of_fraction_eq_nil {fixed : FixedText} (none : fixed.fraction = []) :
    fixed.text = fixed.whole := by
  rw [FixedText.text, if_pos none, List.append_nil]

theorem getLast?_text {fixed : FixedText} (some : fixed.fraction ≠ []) :
    fixed.text.getLast? = fixed.fraction.getLast? := by
  rw [FixedText.text, if_neg some, List.getLast?_append_of_ne_nil _ (List.cons_ne_nil _ _),
    List.getLast?_cons_of_ne_nil some]

theorem dropPointZero_literal {fixed : FixedText} (canonical : fixed.IsCanonical)
    (negative : Bool) :
    dropPointZero (fixed.literal negative).text = (fixed.literal negative).text := by
  rw [dropPointZero, if_neg]
  -- The point stands before a fraction only, and no canonical fraction ends in a zero.
  rintro ⟨kept, ends⟩
  rw [FixedText.text_literal] at ends
  by_cases none : fixed.fraction = []
  · rw [text_eq_of_fraction_eq_nil none] at ends
    have point : '.' ∈ (if negative then ['-'] else []) ++ fixed.whole := by
      rw [← ends]
      simp
    rcases List.mem_append.mp point with sign | whole
    · cases negative <;> simp at sign
    · exact absurd (fixed.wholeDigits '.' whole) (by decide)
  · have last := congrArg List.getLast? ends
    have some : fixed.text ≠ [] := by
      rw [FixedText.text]
      exact List.append_ne_nil_of_left_ne_nil fixed.nonempty _
    rw [List.getLast?_append_of_ne_nil _ some, getLast?_text none] at last
    exact canonical.fraction (by rw [← last]; simp)

theorem dropPointZero_withFraction {fixed : FixedText} (canonical : fixed.IsCanonical)
    (negative : Bool) :
    dropPointZero ((Layout.withFraction fixed).literal negative).text =
      (fixed.literal negative).text := by
  by_cases none : fixed.fraction = []
  · have padded : ((Layout.withFraction fixed).literal negative).text =
        (fixed.literal negative).text ++ ['.', '0'] := by
      rw [FixedText.text_literal, FixedText.text_literal, FixedText.text, FixedText.text]
      simp [Layout.withFraction, none]
    rw [padded, dropPointZero, if_pos (List.suffix_append _ _)]
    simp
  · have same : (Layout.withFraction fixed).text = fixed.text := by
      rw [FixedText.text, FixedText.text]
      simp [Layout.withFraction, none]
    rw [FixedText.text_literal, same, ← FixedText.text_literal]
    exact dropPointZero_literal canonical negative

theorem not_mem_text_literal (fixed : FixedText) (negative : Bool) :
    'e' ∉ (fixed.literal negative).text := by
  rw [FixedText.text_literal]
  intro mark
  have digit : 'e' ∈ fixed.whole ++ fixed.fraction := by
    rcases List.mem_append.mp mark with sign | text
    · cases negative <;> simp at sign
    · unfold FixedText.text at text
      split at text
      next none => exact List.mem_append_left _ (by simpa using text)
      next => simpa using text
  exact absurd (fixed.digits 'e' digit) (by decide)

theorem mem_text_scientificLiteral (negative : Bool) (significand : Nat) (exponent : Int) :
    'e' ∈ (Layout.scientificLiteral negative significand exponent).text := by
  rw [Layout.text_scientificLiteral]
  unfold Layout.scientific
  simp

theorem format_eq_plainForm (negative : Bool) (representable : Representable units) :
    format (.finite negative units representable) =
      String.ofList (plainForm
        (Toml.floatLayout.write (.finite negative units representable)).toList) := by
  have canonical := isCanonical_displayed representable
  rw [← text_written, String.toList_ofList, format_eq_text_displayed, written]
  dsimp only
  congr 1
  split
  next =>
    rw [plainForm, if_neg (not_mem_text_literal _ negative)]
    exact (dropPointZero_withFraction canonical negative).symm
  next =>
    rw [plainForm, if_pos (mem_text_scientificLiteral negative _ _), DecimalLiteral.read?_text,
      Layout.numeral_scientificLiteral]
    dsimp only
    rw [Layout.positional_eq_text, ← FixedText.text_literal]
    exact (dropPointZero_literal canonical negative).symm

/-! ## The canonical display -/

/-- The display of a finite value has no exponent and no zero to spare, and a minus exactly for
a negative sign. It is the same number as the written form of the value, be that with an
exponent or without one; it reads back as the value, and no literal with fewer significant
digits does. -/
theorem format_canonical_and_shortest (negative : Bool) (units : Nat)
    (representable : Representable units) :
    ∃ (shown : FixedText) (written : DecimalLiteral),
      shown.IsCanonical ∧
      format (.finite negative units representable) =
        String.ofList ((if negative then ['-'] else []) ++ shown.text) ∧
      ((format (.finite negative units representable)).toList.head? = some '-' ↔
        negative = true) ∧
      String.ofList written.text = Toml.floatLayout.write (.finite negative units representable) ∧
      (written.exponent = none ↔ IsOrdinary written.magnitude) ∧
      written.sign.negative = negative ∧
      (shown.literal negative).magnitude = written.magnitude ∧
      parse (format (.finite negative units representable)) =
        .ok ⟨.finite negative units representable⟩ ∧
      ∀ literal : DecimalLiteral,
        parse (String.ofList literal.text) = .ok ⟨.finite negative units representable⟩ →
        significantDigits (shown.whole ++ shown.fraction) ≤
          significantDigits (literal.whole ++ literal.places) := by
  have format := format_eq_text_displayed negative representable
  refine ⟨displayed units, written negative units, isCanonical_displayed representable, ?_, ?_,
    text_written negative representable, exponent_written negative representable,
    negative_written negative units, ?_, parse_format _, fun literal read =>
      significantDigits_displayed_le read⟩
  · rw [format, FixedText.text_literal]
  · rw [format, String.toList_ofList]
    exact head?_text_literal _ negative
  · rw [magnitude_written, displayed, Layout.magnitude_fixedText]

theorem format_canonical_least_negative :
    ∃ (representable : Representable 1) (shown : FixedText), shown.IsCanonical ∧
      format (.finite true 1 representable) = String.ofList ('-' :: shown.text) ∧
      parse (format (.finite true 1 representable)) = .ok ⟨.finite true 1 representable⟩ := by
  have representable : Representable 1 := ⟨by decide +kernel, 1, 0, by decide, rfl⟩
  obtain ⟨shown, _, canonical, text, _, _, _, _, _, read, _⟩ :=
    format_canonical_and_shortest true 1 representable
  exact ⟨representable, shown, canonical, text, read⟩

end Decimal

end ExprLexer
