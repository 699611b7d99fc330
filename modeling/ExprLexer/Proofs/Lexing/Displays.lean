import ExprLexer.Proofs.Lexing.Concatenation
import ExprLexer.Proofs.Number.DecimalText

/-! Tokens whose displays are lexed again. A display is one piece by itself, and the
classifier takes it for the token that it displays: a constant may have lost its
point, and is then a run of digits. -/

set_option autoImplicit false

namespace ExprLexer

attribute [local instance (1100)] instPowNat

/-! ## Constants -/

theorem splitSign_of_not_mem {text : List Char} (unsigned : '-' ∉ text) :
    (splitSign text).1 = false := by
  fun_cases splitSign text with
  | case1 => rfl
  | case2 rest => exact absurd List.mem_cons_self unsigned
  | case3 => rfl

namespace Numeral

theorem negative_of_read? {text : List Char} {numeral : Numeral}
    (read : Numeral.read? text = some numeral) (unsigned : '-' ∉ text) :
    numeral.negative = false := by
  unfold Numeral.read? at read
  dsimp only at read
  split at read
  · cases read
  · obtain ⟨exponent, _, rfl⟩ := Option.map_eq_some_iff.mp read
    exact splitSign_of_not_mem unsigned

theorem toBinary64_eq_or (numeral : Numeral) :
    numeral.toBinary64 = .infinity numeral.negative ∨
      ∃ units representable, numeral.toBinary64 = .finite numeral.negative units representable := by
  rw [toBinary64_eq_nearestBinary64, nearestBinary64]
  rcases Binary64.nearest_eq numeral.negative
      (numeral.significand * 10 ^ numeral.exponent.toNat * Binary64.unitsPerOne)
      (10 ^ (-numeral.exponent).toNat) with ⟨representable, finite⟩ | ⟨_, infinite⟩
  · exact .inr ⟨_, representable, finite⟩
  · exact .inl infinite

end Numeral

namespace FixedText

theorem wordChars (fixed : FixedText) :
    ∀ char ∈ fixed.text, Lexer.isWordChar char = true := by
  intro char member
  rw [text, List.mem_append] at member
  rcases member with whole | rest
  · exact Lexer.isWordChar_of_isDigit (fixed.wholeDigits char whole)
  · split at rest
    · cases rest
    · rcases List.mem_cons.mp rest with rfl | fraction
      · decide +kernel
      · exact Lexer.isWordChar_of_isDigit (fixed.fractionDigits char fraction)

theorem text_ne_nil (fixed : FixedText) : fixed.text ≠ [] := by
  simp [text, fixed.nonempty]

end FixedText

namespace TokenValue

def isInfinite : TokenValue → Bool
  | .constant value => value.isInfinite
  | _ => false

theorem exists_numeral_of_classify {legacyIntegers : Bool} {text : List Char} {value : Binary64}
    (wordChars : ∀ char ∈ text, Lexer.isWordChar char = true)
    (classified : classify legacyIntegers (String.ofList text) = .ok (.constant value)) :
    ∃ numeral : Numeral, numeral.negative = false ∧ value = numeral.toBinary64 := by
  simp only [classify, String.toList_ofList, ofSymbol?_eq_none_of_wordChars wordChars] at classified
  split at classified
  · split at classified
    next numeral read =>
      have unsigned : '-' ∉ text := fun member =>
        absurd (wordChars '-' member) (by decide +kernel)
      cases classified
      exact ⟨numeral, Numeral.negative_of_read? read unsigned, rfl⟩
    next => cases classified
  · split at classified
    · cases classified
      exact ⟨_, rfl, rfl⟩
    · cases classified

theorem classify_fixedText (fixed : FixedText) :
    classify false (String.ofList fixed.text) =
      .ok (.constant (fixed.numeral false).toBinary64) := by
  simp only [classify, String.toList_ofList, ofSymbol?_eq_none_of_wordChars fixed.wordChars]
  by_cases whole : fixed.fraction = []
  · have text : fixed.text = fixed.whole := by simp [FixedText.text, whole]
    have digits : isDigitRun fixed.whole = true := by
      simp only [isDigitRun, Bool.and_eq_true, List.all_eq_true]
      exact ⟨by simp [fixed.nonempty], fixed.wholeDigits⟩
    have point := point_not_mem_of_isDigitRun digits
    simp [text, point, digits, ofNumeral, FixedText.numeral, whole]
  · have point : '.' ∈ fixed.text := by simp [FixedText.text, whole]
    have read := fixed.read?_text false
    rw [if_neg Bool.false_ne_true, List.nil_append] at read
    simp [point, read, ofNumeral]

theorem ofSymbol?_ne_constant (text : List Char) (constant : Binary64) :
    ofSymbol? text ≠ some (.constant constant) := by
  intro symbol
  unfold ofSymbol? at symbol
  split at symbol
  · cases symbol
  · cases symbol
  · obtain ⟨operator, _, other⟩ := Option.map_eq_some_iff.mp symbol
    cases other
  · cases symbol

/-! ## Displays -/

/-- The display of a token as the only piece of a source. -/
def displayPiece (value : TokenValue) : Piece := ⟨[], value.display.toList, []⟩

/-- The display of a token is one piece, which becomes the token again. -/
structure ReadsBack (value : TokenValue) : Prop where
  isPieceOf : value.displayPiece.IsPieceOf value.display.toList
  token?_eq : value.displayPiece.token? false = some value

theorem readsBack_constant (units : Nat) (representable : Binary64.Representable units) :
    ReadsBack (.constant (.finite false units representable)) := by
  obtain ⟨fixed, layout, denotes⟩ := Layout.exists_fixedText_positional
    (Binary64.shortestDigits units).1 (Binary64.shortestDigits units).2
  have shown : display (.constant (.finite false units representable)) =
      String.ofList fixed.text := by
    rw [display, Decimal.format_finite, layout]
    rfl
  have value : (fixed.numeral false).toBinary64 = .finite false units representable :=
    (denotes false).trans (Binary64.denotes_shortestDigits units false representable)
  have offered : ∀ char ∈ fixed.text, Lexer.isWordChar char = true := fixed.wordChars
  constructor
  · rw [displayPiece, shown, String.toList_ofList]
    exact ⟨by simp, .inl ⟨fixed.text_ne_nil, offered, by simp, by simp⟩⟩
  · rw [displayPiece, shown, String.toList_ofList, Piece.token?, if_pos, classify_fixedText, value]
    · rfl
    · simp only [Piece.isOffered, Bool.or_eq_true, List.all_eq_true]
      exact .inl offered

theorem display_of_ofSymbol? {text : List Char} {value : TokenValue}
    (symbol : ofSymbol? text = some value) : value.display = String.ofList text := by
  unfold ofSymbol? at symbol
  split at symbol
  · cases symbol
    rfl
  · cases symbol
    rfl
  · obtain ⟨operator, found, rfl⟩ := Option.map_eq_some_iff.mp symbol
    rw [Operator.ofChar?] at found
    have same := List.find?_some found
    rw [display, eq_of_beq same, Char.toString_eq_singleton, String.singleton_eq_ofList]
  · cases symbol

end TokenValue

namespace Piece

variable {source : List Char} {piece : Piece} {value : TokenValue}

theorem IsPieceOf.alone (valid : piece.IsPieceOf source) :
    (⟨[], piece.text, []⟩ : Piece).IsPieceOf piece.text := by
  refine ⟨by simp, ?_⟩
  rcases valid.shape with word | symbol
  · exact .inl ⟨word.nonempty, word.wordChars, by simp, by simp⟩
  · exact .inr symbol

theorem IsPieceOf.readsBack_of_display (valid : piece.IsPieceOf source)
    (token : piece.token? false = some value) (shown : value.display = String.ofList piece.text) :
    value.ReadsBack := by
  have same : value.display.toList = piece.text := by rw [shown, String.toList_ofList]
  constructor
  · rw [TokenValue.displayPiece, same]
    exact valid.alone
  · rw [TokenValue.displayPiece, same]
    exact token

theorem classify_of_token? {legacyIntegers : Bool} (token : piece.token? legacyIntegers = some value) :
    TokenValue.classify legacyIntegers (String.ofList piece.text) = .ok value := by
  rw [token?] at token
  split at token
  · cases classified : TokenValue.classify legacyIntegers (String.ofList piece.text) with
    | error cause =>
        rw [classified] at token
        cases token
    | ok found =>
        rw [classified] at token
        cases token
        rfl
  · cases token

theorem IsSymbol.ofSymbol?_eq (symbol : piece.IsSymbol) {legacyIntegers : Bool}
    (token : piece.token? legacyIntegers = some value) :
    TokenValue.ofSymbol? piece.text = some value := by
  obtain ⟨char, single, _, notWord⟩ := symbol
  have classified := classify_of_token? token
  rw [single] at classified ⊢
  cases known : TokenValue.ofSymbol? [char] with
  | none =>
      have absent := TokenValue.ofSymbol?_eq_none_iff.mp known
      simp [token?, isOffered, single, absent, notWord] at token
  | some found =>
      rw [TokenValue.classify_ofList_of_symbol known] at classified
      cases classified
      rfl

/-- A constant of a source is neither NaN nor negative. -/
theorem IsPieceOf.constant_eq_or (valid : piece.IsPieceOf source) {legacyIntegers : Bool}
    {constant : Binary64} (token : piece.token? legacyIntegers = some (.constant constant)) :
    constant = .infinity false ∨
      ∃ units representable, constant = .finite false units representable := by
  rcases valid.shape with word | symbol
  · obtain ⟨numeral, unsigned, rfl⟩ :=
      TokenValue.exists_numeral_of_classify word.wordChars (classify_of_token? token)
    rw [← unsigned]
    exact numeral.toBinary64_eq_or
  · exact absurd (symbol.ofSymbol?_eq token) (TokenValue.ofSymbol?_ne_constant _ _)

/-- Every token of a source but an infinite constant is displayed as what it is. -/
theorem IsPieceOf.readsBack (valid : piece.IsPieceOf source)
    (token : piece.token? false = some value) (finite : value.isInfinite = false) :
    value.ReadsBack := by
  rcases valid.shape with word | symbol
  · rcases TokenValue.isOperand_of_classify_word word.wordChars (classify_of_token? token) with
      ⟨constant, rfl⟩ | rfl
    · rcases valid.constant_eq_or token with rfl | ⟨units, representable, rfl⟩
      · cases finite
      · exact TokenValue.readsBack_constant units representable
    · exact valid.readsBack_of_display token rfl
  · exact valid.readsBack_of_display token
      (TokenValue.display_of_ofSymbol? (symbol.ofSymbol?_eq token))

theorem Yields.diagnostic_eq_none {options : LexerOptions} {line : Int} {found : Finding}
    (yields : Yields options line piece found) (modern : options.legacyIntegers = false)
    (token : piece.token? options.legacyIntegers = some value) : found.diagnostic = none := by
  rw [← yields.token?_eq] at token
  cases yields with
  | token _ _ _ => simp [isDigitVariable, modern]
  | malformed _ _ => cases token
  | unknown _ _ _ => cases token

end Piece

namespace Lexer

def values (lexer : Lexer) : List TokenValue := lexer.tokens.map (·.value)

theorem run_display {value : TokenValue} (reads : value.ReadsBack) (file : String) (line : Int) :
    (ofSource ⟨file, false⟩ value.display line).run.values = [value] ∧
      (ofSource ⟨file, false⟩ value.display line).run.diagnostics = [] := by
  have yields := reads.isPieceOf.yields ⟨file, false⟩ line
  have token := yields.token?_eq
  rw [reads.token?_eq, Option.map_eq_some_iff] at token
  obtain ⟨found, tokenEq, valueEq⟩ := token
  have none := yields.diagnostic_eq_none rfl reads.token?_eq
  simp only [values, tokens, diagnostics, findings_run,
    reads.isPieceOf.pieces_eq_singleton rfl rfl, List.map_singleton]
  rw [List.filterMap_cons_some tokenEq, List.filterMap_cons_none none]
  simp [valueEq]

theorem run_spaced (left right file : String) (line : Int) :
    (ofSource ⟨file, false⟩ (left ++ " " ++ right) line).run.values =
        (ofSource ⟨file, false⟩ left line).run.values ++
          (ofSource ⟨file, false⟩ right line).run.values ∧
      ((ofSource ⟨file, false⟩ left line).run.diagnostics = [] →
        (ofSource ⟨file, false⟩ right line).run.diagnostics = [] →
        (ofSource ⟨file, false⟩ (left ++ " " ++ right) line).run.diagnostics = []) := by
  simp only [values, tokens, diagnostics]
  rw [findings_run_separated line (by decide) (by decide), List.filterMap_append,
    List.filterMap_append, filterMap_token_map_mapSpans, filterMap_diagnostic_map_mapSpans,
    List.map_append, List.map_map]
  constructor
  · rfl
  · intro leftPlain rightPlain
    rw [leftPlain, rightPlain]
    rfl

/-- Displays with spaces between them are the values that they were made from. -/
theorem run_intercalate {list : List TokenValue} (each : ∀ value ∈ list, value.ReadsBack)
    (file : String) (line : Int) :
    (ofSource ⟨file, false⟩ (" ".intercalate (list.map TokenValue.display)) line).run.values =
        list ∧
      (ofSource ⟨file, false⟩ (" ".intercalate (list.map TokenValue.display))
        line).run.diagnostics = [] := by
  induction list with
  | nil =>
      have empty : (ofSource ⟨file, false⟩ "" line).run.findings = [] :=
        findings_run_of_blank line rfl
      simp [values, tokens, diagnostics, empty]
  | cons value rest ih =>
      have first := run_display (each value List.mem_cons_self) file line
      cases rest with
      | nil => simpa using first
      | cons second rest =>
          obtain ⟨others, plain⟩ := ih fun other member => each other (List.mem_cons_of_mem _ member)
          have joined := run_spaced value.display
            (" ".intercalate ((second :: rest).map TokenValue.display)) file line
          rw [first.1, others] at joined
          rw [List.map_cons, List.map_cons, String.intercalate_cons_cons]
          exact ⟨joined.1, joined.2 first.2 plain⟩

theorem exists_piece_of_mem_tokens {options : LexerOptions} {source : String} {line : Int}
    {token : Token} (member : token ∈ (ofSource options source line).run.tokens) :
    ∃ piece : Piece, piece.IsPieceOf source.toList ∧
      piece.token? options.legacyIntegers = some token.value := by
  rw [tokens_run] at member
  obtain ⟨piece, listed, found⟩ := List.mem_filterMap.mp member
  have valid := mem_pieces_iff.mp listed
  refine ⟨piece, valid, ?_⟩
  rw [← (valid.yields options line).token?_eq, found]
  rfl

/-- The tokens of a source, displayed with spaces between them, are found again with
every bit of their constants and without a diagnostic, provided that no constant is
infinite. No constant is NaN or negative in the first place. -/
theorem run_spaced_displays (file source : String) (line : Int) :
    (∀ legacyIntegers,
      ∀ token ∈ (ofSource ⟨file, legacyIntegers⟩ source line).run.tokens, ∀ constant,
        token.value = .constant constant →
          constant.isNan = false ∧ constant.isNegative = false) ∧
      ((∀ token ∈ (ofSource ⟨file, false⟩ source line).run.tokens,
          token.value.isInfinite = false) →
        ∀ otherFile otherLine,
          let lexer := (ofSource ⟨file, false⟩ source line).run
          let text := " ".intercalate (lexer.tokens.map fun token => token.value.display)
          let again := (ofSource ⟨otherFile, false⟩ text otherLine).run
          again.diagnostics = [] ∧ again.result = .ok (Cursor.ofList again.tokens) ∧
            again.tokens.map (·.value) = lexer.tokens.map (·.value)) := by
  constructor
  · intro legacyIntegers token member constant shape
    obtain ⟨piece, valid, found⟩ := exists_piece_of_mem_tokens member
    rw [shape] at found
    rcases valid.constant_eq_or found with rfl | ⟨units, representable, rfl⟩ <;> exact ⟨rfl, rfl⟩
  · intro finite otherFile otherLine lexer text again
    have each : ∀ value ∈ lexer.values, value.ReadsBack := by
      intro value member
      obtain ⟨token, listed, rfl⟩ := List.mem_map.mp member
      obtain ⟨piece, valid, found⟩ := exists_piece_of_mem_tokens listed
      exact valid.readsBack found (finite token listed)
    have displays : text = " ".intercalate (lexer.values.map TokenValue.display) := by
      rw [values, List.map_map]
      rfl
    obtain ⟨same, plain⟩ := run_intercalate each otherFile otherLine
    rw [← displays] at same plain
    refine ⟨plain, ?_, same⟩
    rw [result, plain]
    rfl

theorem run_spaced_displays_decimal :
    (∀ token ∈ (ofSource ⟨"<expr>", false⟩ "2.50*(x_1-3.0)" 1).run.tokens,
        token.value.isInfinite = false) ∧
      (ofSource ⟨"<expr>", false⟩ "2.5 * ( x_1 - 3 )" 1).run.tokens.map (·.value) =
        (ofSource ⟨"<expr>", false⟩ "2.50*(x_1-3.0)" 1).run.tokens.map (·.value) := by
  have finite : ∀ token ∈ (ofSource ⟨"<expr>", false⟩ "2.50*(x_1-3.0)" 1).run.tokens,
      token.value.isInfinite = false := by decide +kernel
  have displays : " ".intercalate
      ((ofSource ⟨"<expr>", false⟩ "2.50*(x_1-3.0)" 1).run.tokens.map
        fun token => token.value.display) = "2.5 * ( x_1 - 3 )" := by decide +kernel
  obtain ⟨_, _, same⟩ := (run_spaced_displays "<expr>" "2.50*(x_1-3.0)" 1).2 finite "<expr>" 1
  rw [displays] at same
  exact ⟨finite, same⟩

end Lexer

end ExprLexer
