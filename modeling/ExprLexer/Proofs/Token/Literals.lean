import ExprLexer.Proofs.Lexing.Displays
import ExprLexer.Proofs.Number.DecimalGrammar

/-! Constants and decimals are read from the same literals. The classifier asks for a point
or for digits alone, the reader of decimals for the grammar; where both take a text for a
number they agree on its value. -/

set_option autoImplicit false

namespace ExprLexer

theorem Numeral.read?_of_isDigitRun {text : List Char} (digits : isDigitRun text = true) :
    Numeral.read? text = some ⟨false, digitsValue text, 0⟩ := by
  obtain ⟨nonempty, isDigit⟩ := isDigitRun_iff.mp digits
  let fixed : FixedText := ⟨text, [], nonempty, by rwa [List.append_nil]⟩
  have read := fixed.read?_text false
  simpa [fixed, FixedText.text, FixedText.numeral] using read

namespace SignMark

theorem exists_of_ne_absent {sign : SignMark} (written : sign ≠ absent) :
    ∃ char, sign.text = [char] ∧ char.isDigit = false := by
  cases sign with
  | absent => exact absurd rfl written
  | plus => exact ⟨'+', rfl, by decide⟩
  | minus => exact ⟨'-', rfl, by decide⟩

theorem point_not_mem_text (sign : SignMark) : '.' ∉ sign.text := by
  cases sign <;> decide

end SignMark

namespace DecimalLiteral

variable {literal : DecimalLiteral}

theorem point_not_mem_exponentText (exponent : Option ExponentPart) :
    '.' ∉ exponentText exponent := by
  cases exponent with
  | none => exact List.not_mem_nil
  | some part =>
      intro point
      rcases List.mem_cons.mp point with mark | others
      · rcases part.marked with marked | marked <;> rw [marked] at mark <;> cases mark
      · rcases List.mem_append.mp others with sign | digit
        · exact part.sign.point_not_mem_text sign
        · exact absurd (part.isDigit '.' digit) (by decide)

theorem point_not_mem_text (whole : literal.fraction = none) : '.' ∉ literal.text := by
  rw [text, whole, fractionText, List.nil_append]
  intro point
  rcases List.mem_append.mp point with sign | others
  · exact literal.sign.point_not_mem_text sign
  · rcases List.mem_append.mp others with digit | exponent
    · exact absurd (literal.wholeDigits '.' digit) (by decide)
    · exact point_not_mem_exponentText _ exponent

theorem not_isDigitRun_text (marked : literal.sign ≠ .absent ∨ literal.exponent ≠ none) :
    isDigitRun literal.text = false := by
  have other : ∃ char ∈ literal.text, char.isDigit = false := by
    rcases marked with signed | scaled
    · obtain ⟨char, written, notDigit⟩ := SignMark.exists_of_ne_absent signed
      exact ⟨char, by simp [text, written], notDigit⟩
    · obtain ⟨part, present⟩ := Option.ne_none_iff_exists'.mp scaled
      refine ⟨part.mark, by simp [text, present, exponentText, ExponentPart.text], ?_⟩
      rcases part.marked with mark | mark <;> rw [mark] <;> decide
  obtain ⟨char, member, notDigit⟩ := other
  rw [Bool.eq_false_iff]
  intro digits
  rw [(isDigitRun_iff.mp digits).2 char member] at notDigit
  cases notDigit

end DecimalLiteral

theorem Numeral.read?_symbol {char : Char} (symbol : char ∈ symbols) :
    Numeral.read? [char] = none := by
  have refused : (symbols.all fun other => (Numeral.read? [other]).isNone) = true := by decide
  exact Option.isNone_iff_eq_none.mp (List.all_eq_true.mp refused char symbol)

namespace TokenValue

variable {legacyIntegers : Bool} {text : String}

theorem exists_symbol_of_ofSymbol? {chars : List Char} {value : TokenValue}
    (known : ofSymbol? chars = some value) : ∃ char ∈ symbols, chars = [char] := by
  match chars with
  | [] => cases known
  | [char] =>
      refine ⟨char, ?_, rfl⟩
      by_contra absent
      rw [ofSymbol?_eq_none_iff.mpr absent] at known
      cases known
  | first :: second :: rest => simp [ofSymbol?] at known

/-- Whether a text is classified as a number if as anything: for its point, or as a run of
digits where these are constants. -/
def looksNumeric (legacyIntegers : Bool) (text : String) : Bool :=
  text.toList.contains '.' || (!legacyIntegers && isDigitRun text.toList)

theorem looksNumeric_of_mem (point : '.' ∈ text.toList) :
    looksNumeric legacyIntegers text = true := by
  simp [looksNumeric, point]

theorem looksNumeric_iff_of_not_mem (pointless : '.' ∉ text.toList) :
    looksNumeric legacyIntegers text = true ↔
      legacyIntegers = false ∧ isDigitRun text.toList = true := by
  simp [looksNumeric, pointless]

/-- Every way in which a text is classified. -/
inductive Classifies (legacyIntegers : Bool) (text : String) :
    Except LexicalFault TokenValue → Prop where
  | symbol {value : TokenValue} :
      ofSymbol? text.toList = some value → Classifies legacyIntegers text (.ok value)
  | number {numeral : Numeral} :
      looksNumeric legacyIntegers text = true → Numeral.read? text.toList = some numeral →
      Classifies legacyIntegers text (.ok (.constant numeral.toBinary64))
  | malformed :
      '.' ∈ text.toList → Numeral.read? text.toList = none →
      Classifies legacyIntegers text (.error (.malformedNumeral text))
  | variable :
      looksNumeric legacyIntegers text = false →
      Classifies legacyIntegers text (.ok (.variable text))

theorem classifies (legacyIntegers : Bool) (text : String) :
    Classifies legacyIntegers text (classify legacyIntegers text) := by
  unfold classify
  dsimp only
  split
  next value known => exact .symbol known
  next unknown =>
    split
    next point =>
      have point : '.' ∈ text.toList := by simpa using point
      split
      next numeral read => exact .number (looksNumeric_of_mem point) read
      next refused => exact .malformed point refused
    next pointless =>
      split
      next digits =>
        rw [Bool.and_eq_true] at digits
        exact .number (by simp [looksNumeric, digits]) (Numeral.read?_of_isDigitRun digits.2)
      next others => exact .variable (by simp_all [looksNumeric])

end TokenValue

namespace Decimal

variable {text : String}

theorem point_not_mem_of_mem_names (named : text ∈ names.map Prod.fst) : '.' ∉ text.toList := by
  have plain : ∀ name ∈ names.map Prod.fst, '.' ∉ name.toList := by decide
  exact plain text named

theorem parse_of_point (point : '.' ∈ text.toList) (refused : Numeral.read? text.toList = none) :
    parse text = .error (.notDecimalLiteral text) := by
  rw [parse_of_unnamed fun named => point_not_mem_of_mem_names named point, refused]

theorem parse_of_symbol {value : TokenValue} (known : TokenValue.ofSymbol? text.toList = some value) :
    parse text = .error (.notDecimalLiteral text) := by
  obtain ⟨char, symbol, single⟩ := TokenValue.exists_symbol_of_ofSymbol? known
  have unnamed : text ∉ names.map Prod.fst := by
    have long : ∀ name ∈ names.map Prod.fst, name.toList.length ≠ 1 := by decide
    exact fun named => long text named (by rw [single]; rfl)
  rw [parse_of_unnamed unnamed, single, Numeral.read?_symbol symbol]

end Decimal

namespace TokenValue

variable {legacyIntegers : Bool} {text : String}

/-- What is read as a decimal is classified as the constant of its value, or else it does not
look like a number and is a variable. -/
theorem classify_of_parse {decimal : Decimal} (read : Decimal.parse text = .ok decimal)
    (legacyIntegers : Bool) :
    classify legacyIntegers text =
      .ok (if looksNumeric legacyIntegers text then .constant decimal.value
        else .variable text) := by
  have form := classifies legacyIntegers text
  generalize classify legacyIntegers text = outcome at form ⊢
  cases form with
  | symbol known =>
      rw [Decimal.parse_of_symbol known] at read
      cases read
  | number looks literal =>
      rw [Decimal.parse_of_read? literal] at read
      cases read
      rw [if_pos looks]
  | malformed point refused =>
      rw [Decimal.parse_of_point point refused] at read
      cases read
  | «variable» plain =>
      rw [plain]
      rfl

theorem parse_of_classify_constant {value : Binary64}
    (classified : classify legacyIntegers text = .ok (.constant value)) :
    looksNumeric legacyIntegers text = true ∧ Decimal.parse text = .ok ⟨value⟩ ∧
      value ≠ .nan := by
  have form := classifies legacyIntegers text
  rw [classified] at form
  cases form with
  | symbol known => exact absurd known (ofSymbol?_ne_constant _ _)
  | @number numeral looks literal =>
      refine ⟨looks, Decimal.parse_of_read? literal, ?_⟩
      rcases numeral.toBinary64_eq_or with infinite | ⟨units, representable, finite⟩
      · rw [infinite]
        nofun
      · rw [finite]
        nofun

theorem parse_of_classify_error {cause : LexicalFault}
    (refused : classify legacyIntegers text = .error cause) :
    cause = .malformedNumeral text ∧ '.' ∈ text.toList ∧
      Decimal.parse text = .error (.notDecimalLiteral text) := by
  have form := classifies legacyIntegers text
  rw [refused] at form
  cases form with
  | malformed point unread => exact ⟨rfl, point, Decimal.parse_of_point point unread⟩

end TokenValue

/-- A decimal without a point that has more than digits: one of the names, or a literal with
a sign or an exponent. -/
inductive Decimal.HasWordForm : String → Prop where
  | name {entry : String × Binary64} : entry ∈ names → HasWordForm entry.1
  | literal {literal : DecimalLiteral} :
      literal.fraction = none → literal.sign ≠ .absent ∨ literal.exponent ≠ none →
      HasWordForm (String.ofList literal.text)

namespace Decimal.HasWordForm

variable {text : String}

theorem exists_parse (form : HasWordForm text) : ∃ decimal, parse text = .ok decimal := by
  cases form with
  | name named => exact ⟨_, parse_of_mem_names named⟩
  | literal _ _ => exact ⟨_, parse_literal _⟩

theorem looksNumeric_eq (form : HasWordForm text) (legacyIntegers : Bool) :
    TokenValue.looksNumeric legacyIntegers text = false := by
  have plain : '.' ∉ text.toList ∧ isDigitRun text.toList = false := by
    cases form with
    | name named =>
        have letters : ∀ entry ∈ names, '.' ∉ entry.1.toList ∧
            isDigitRun entry.1.toList = false := by decide
        exact letters _ named
    | literal whole marked =>
        rw [String.toList_ofList]
        exact ⟨DecimalLiteral.point_not_mem_text whole, DecimalLiteral.not_isDigitRun_text marked⟩
  simp [TokenValue.looksNumeric, plain]

end Decimal.HasWordForm

namespace TokenValue

/-- Constants and decimals are the same literals with the same values, as far as the classifier
takes a text for a number. A constant is read as the decimal of its value, which is no NaN; what
is malformed is no decimal; with a point exactly the decimals are constants, in both modes. A
text without a point is a constant exactly if it is a run of digits where these are constants;
the other decimals without a point are variables. -/
theorem constants_agree_with_decimals (text : String) :
    (∀ legacyIntegers value, classify legacyIntegers text = .ok (.constant value) →
        Decimal.parse text = .ok ⟨value⟩ ∧ value ≠ .nan) ∧
      (∀ legacyIntegers cause, classify legacyIntegers text = .error cause →
        cause = .malformedNumeral text ∧
          Decimal.parse text = .error (.notDecimalLiteral text)) ∧
      ('.' ∈ text.toList → ∀ legacyIntegers,
        (∃ value, classify legacyIntegers text = .ok (.constant value)) ↔
          ∃ decimal, Decimal.parse text = .ok decimal) ∧
      ('.' ∉ text.toList → ∀ legacyIntegers,
        (∃ value, classify legacyIntegers text = .ok (.constant value)) ↔
          legacyIntegers = false ∧ text.toList ≠ [] ∧
            ∀ char ∈ text.toList, char.isDigit = true) ∧
      (Decimal.HasWordForm text → (∃ decimal, Decimal.parse text = .ok decimal) ∧
        ∀ legacyIntegers, classify legacyIntegers text = .ok (.variable text)) := by
  have constant_of_parse : ∀ {decimal} legacyIntegers, Decimal.parse text = .ok decimal →
      looksNumeric legacyIntegers text = true →
      classify legacyIntegers text = .ok (.constant decimal.value) := by
    intro decimal legacyIntegers read looks
    rw [classify_of_parse read, if_pos looks]
  refine ⟨?_, ?_, ?_, ?_, ?_⟩
  · intro legacyIntegers value classified
    exact (parse_of_classify_constant classified).2
  · intro legacyIntegers cause refused
    obtain ⟨malformed, _, unread⟩ := parse_of_classify_error refused
    exact ⟨malformed, unread⟩
  · intro point legacyIntegers
    constructor
    · rintro ⟨value, classified⟩
      exact ⟨_, (parse_of_classify_constant classified).2.1⟩
    · rintro ⟨decimal, read⟩
      exact ⟨_, constant_of_parse legacyIntegers read (looksNumeric_of_mem point)⟩
  · intro pointless legacyIntegers
    rw [← isDigitRun_iff, ← looksNumeric_iff_of_not_mem pointless]
    constructor
    · rintro ⟨value, classified⟩
      exact (parse_of_classify_constant classified).1
    · intro looks
      have digits := ((looksNumeric_iff_of_not_mem pointless).mp looks).2
      have read := Decimal.parse_of_read? (Numeral.read?_of_isDigitRun digits)
      exact ⟨_, constant_of_parse legacyIntegers read looks⟩
  · intro form
    obtain ⟨decimal, read⟩ := form.exists_parse
    refine ⟨⟨decimal, read⟩, fun legacyIntegers => ?_⟩
    rw [classify_of_parse read, form.looksNumeric_eq]
    rfl

end TokenValue

end ExprLexer
