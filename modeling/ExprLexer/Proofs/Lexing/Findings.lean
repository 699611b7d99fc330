import ExprLexer.Proofs.Lexing.Pieces

/-! What a run of the lexer finds, piece by piece. The run is the map of one
function over the split, so that facts about runs are facts about single pieces. -/

set_option autoImplicit false

namespace ExprLexer

namespace Location

@[simp] theorem advanceBy_nil (location : Location) : location.advanceBy [] = location := rfl

@[simp] theorem advanceBy_cons (location : Location) (char : Char) (text : List Char) :
    location.advanceBy (char :: text) = (location.advance char).advanceBy text := rfl

@[simp] theorem advanceBy_append (location : Location) (left right : List Char) :
    location.advanceBy (left ++ right) = (location.advanceBy left).advanceBy right :=
  List.foldl_append

end Location

def symbols : List Char := ['(', ')', '+', '-', '*', '/', '%', '^']

theorem not_isWordChar_of_mem_symbols {char : Char} (member : char ∈ symbols) :
    Lexer.isWordChar char = false := by
  have apart : (symbols.all fun symbol => !Lexer.isWordChar symbol) = true := by decide +kernel
  simpa using List.all_eq_true.mp apart char member

namespace TokenValue

theorem ofSymbol?_eq_none_iff {char : Char} : ofSymbol? [char] = none ↔ char ∉ symbols := by
  have listed : symbols = '(' :: ')' :: Operator.all.map Operator.symbol := rfl
  have operators : (Operator.ofChar? char).map TokenValue.operator = none ↔
      char ∉ Operator.all.map Operator.symbol := by
    rw [Option.map_eq_none_iff, Operator.ofChar?, List.find?_eq_none]
    simp only [beq_iff_eq, List.mem_map, not_exists, not_and]
  unfold ofSymbol?
  split
  · simp_all
  · simp_all
  · simp_all
  · simp_all

theorem ofSymbol?_eq_none_of_wordChars {text : List Char}
    (wordChars : ∀ char ∈ text, Lexer.isWordChar char = true) : ofSymbol? text = none := by
  match text with
  | [] => rfl
  | [char] =>
      rw [ofSymbol?_eq_none_iff]
      intro member
      have notWord := not_isWordChar_of_mem_symbols member
      rw [wordChars char List.mem_cons_self] at notWord
      cases notWord
  | first :: second :: rest => simp [ofSymbol?]

theorem classify_ofList_of_symbol {legacyIntegers : Bool} {text : List Char} {value : TokenValue}
    (symbol : ofSymbol? text = some value) :
    classify legacyIntegers (String.ofList text) = .ok value := by
  simp [classify, symbol]

theorem eq_malformedNumeral_of_classify_error {legacyIntegers : Bool} {text : String}
    {cause : LexicalFault} (refused : classify legacyIntegers text = .error cause) :
    cause = .malformedNumeral text := by
  unfold classify at refused
  dsimp only at refused
  split at refused
  · cases refused
  · split at refused
    · split at refused
      · cases refused
      · exact (Except.error.inj refused).symm
    · split at refused <;> cases refused

/-- Classification never takes a word for a parenthesis or an operator. -/
theorem isOperand_of_classify_word {legacyIntegers : Bool} {text : List Char} {value : TokenValue}
    (wordChars : ∀ char ∈ text, Lexer.isWordChar char = true)
    (classified : classify legacyIntegers (String.ofList text) = .ok value) :
    (∃ constant, value = .constant constant) ∨ value = .variable (String.ofList text) := by
  simp only [classify, String.toList_ofList, ofSymbol?_eq_none_of_wordChars wordChars] at classified
  split at classified
  · split at classified
    · exact .inl ⟨_, (Except.ok.inj classified).symm⟩
    · cases classified
  · split at classified
    · exact .inl ⟨_, (Except.ok.inj classified).symm⟩
    · exact .inr (Except.ok.inj classified).symm

theorem point_not_mem_of_isDigitRun {text : List Char} (digits : isDigitRun text = true) :
    '.' ∉ text := by
  simp only [isDigitRun, Bool.and_eq_true, List.all_eq_true] at digits
  intro member
  exact absurd (digits.2 '.' member) (by decide)

theorem classify_digitRun {text : List Char} (digits : isDigitRun text = true)
    (wordChars : ∀ char ∈ text, Lexer.isWordChar char = true) :
    classify true (String.ofList text) = .ok (.variable (String.ofList text)) := by
  simp [classify, ofSymbol?_eq_none_of_wordChars wordChars,
    point_not_mem_of_isDigitRun digits]

end TokenValue

namespace Piece

def span (file : String) (line : Int) (piece : Piece) : Span :=
  let start := (Location.start line).advanceBy piece.before
  start.spanTo (start.advanceBy piece.text) file

/-- Whether a piece is offered to the classifier: it is a word or one of the symbols. -/
def isOffered (piece : Piece) : Bool :=
  piece.text.all Lexer.isWordChar || symbols.any fun symbol => piece.text == [symbol]

/-- Whether a piece is a run of digits that the mode takes for a variable. -/
def isDigitVariable (legacyIntegers : Bool) (piece : Piece) : Bool :=
  legacyIntegers && isDigitRun piece.text

/-- What the lexer makes of a piece at its place. -/
def finding (options : LexerOptions) (line : Int) (piece : Piece) : Finding :=
  match piece.text.find? fun char => !Lexer.isWordChar char with
  | some symbol => Lexer.symbolFinding symbol (piece.span options.file line)
  | none => Lexer.wordFinding options piece.text piece.after (piece.span options.file line)

theorem finding_of_wordChars {piece : Piece}
    (wordChars : ∀ char ∈ piece.text, Lexer.isWordChar char = true) (options : LexerOptions)
    (line : Int) : piece.finding options line =
      Lexer.wordFinding options piece.text piece.after (piece.span options.file line) := by
  have none : (piece.text.find? fun char => !Lexer.isWordChar char) = none :=
    List.find?_eq_none.mpr fun char member => by simp [wordChars char member]
  simp only [finding, none]

theorem IsWord.finding_eq {piece : Piece} (word : piece.IsWord) (options : LexerOptions)
    (line : Int) : piece.finding options line =
      Lexer.wordFinding options piece.text piece.after (piece.span options.file line) :=
  finding_of_wordChars word.wordChars options line

theorem finding_symbol {before after : List Char} {char : Char}
    (notWord : Lexer.isWordChar char = false) (options : LexerOptions) (line : Int) :
    (⟨before, [char], after⟩ : Piece).finding options line =
      Lexer.symbolFinding char ((⟨before, [char], after⟩ : Piece).span options.file line) := by
  simp [finding, notWord]

/-- Everything that a piece can yield: a token, with a warning if the piece is a
run of digits taken for a variable; or an error alone. -/
inductive Yields (options : LexerOptions) (line : Int) (piece : Piece) : Finding → Prop where
  | token {value : TokenValue} :
      piece.isOffered = true →
      TokenValue.classify options.legacyIntegers (String.ofList piece.text) = .ok value →
      (piece.IsWord → value.isParen = false ∧ value.isOperator = false) →
      Yields options line piece ⟨some ⟨value, some (piece.span options.file line)⟩,
        if piece.isDigitVariable options.legacyIntegers then
          some (Lexer.digitStringWarning (String.ofList piece.text) (piece.span options.file line))
        else none⟩
  | malformed :
      piece.IsWord →
      TokenValue.classify options.legacyIntegers (String.ofList piece.text) =
        .error (.malformedNumeral (String.ofList piece.text)) →
      Yields options line piece ⟨none, some (Lexer.faultDiagnostic
        (.malformedNumeral (String.ofList piece.text)) (piece.span options.file line)
        "not a number"
        (if Lexer.isCutExponent piece.text piece.after then [Lexer.exponentNote] else []) [])⟩
  | unknown {char : Char} :
      piece.text = [char] → char ∉ symbols → Lexer.isWordChar char = false →
      Yields options line piece ⟨none, some (Lexer.faultDiagnostic
        (.unknownOperator (String.ofList piece.text)) (piece.span options.file line)
        "not an operator" [Lexer.operatorNote]
        ((Lexer.lookAlike? char).toList.map fun operator =>
          ⟨"use the ASCII operator", operator.symbol.toString⟩))⟩

theorem IsWord.yields {piece : Piece} (word : piece.IsWord) (options : LexerOptions)
    (line : Int) : Yields options line piece (piece.finding options line) := by
  have offered : piece.isOffered = true := by
    simp only [isOffered, Bool.or_eq_true, List.all_eq_true]
    exact .inl word.wordChars
  rw [word.finding_eq, Lexer.wordFinding]
  cases classified :
      TokenValue.classify options.legacyIntegers (String.ofList piece.text) with
  | error cause =>
      have same := TokenValue.eq_malformedNumeral_of_classify_error classified
      subst same
      exact .malformed word classified
  | ok value =>
      have operand : value.isParen = false ∧ value.isOperator = false := by
        rcases TokenValue.isOperand_of_classify_word word.wordChars classified with
          ⟨constant, rfl⟩ | rfl <;> exact ⟨rfl, rfl⟩
      have warned : (options.legacyIntegers && value.kind == .variable &&
          isDigitRun piece.text) = piece.isDigitVariable options.legacyIntegers := by
        cases digits : isDigitRun piece.text with
        | false => simp [isDigitVariable, digits]
        | true =>
            cases legacy : options.legacyIntegers with
            | false => simp [isDigitVariable]
            | true =>
                rw [legacy, TokenValue.classify_digitRun digits word.wordChars] at classified
                rw [← Except.ok.inj classified]
                simp [isDigitVariable, digits, TokenValue.kind]
      simp only [warned]
      exact .token offered classified fun _ => operand

theorem IsSymbol.yields {piece : Piece} (symbol : piece.IsSymbol) (options : LexerOptions)
    (line : Int) : Yields options line piece (piece.finding options line) := by
  obtain ⟨before, text, after⟩ := piece
  obtain ⟨char, rfl, notBlank, notWord⟩ := symbol
  rw [finding_symbol notWord, Lexer.symbolFinding]
  cases known : TokenValue.ofSymbol? [char] with
  | none => exact .unknown rfl (TokenValue.ofSymbol?_eq_none_iff.mp known) notWord
  | some value =>
      have member : char ∈ symbols := by
        by_contra absent
        rw [TokenValue.ofSymbol?_eq_none_iff.mpr absent] at known
        cases known
      have offered : (⟨before, [char], after⟩ : Piece).isOffered = true := by
        simp [isOffered, member]
      have notDigit : char.isDigit = false := by
        have apart : (symbols.all fun symbol => !symbol.isDigit) = true := by decide
        simpa using List.all_eq_true.mp apart char member
      have wordless : ¬(⟨before, [char], after⟩ : Piece).IsWord := by
        intro word
        rw [word.wordChars char List.mem_cons_self] at notWord
        cases notWord
      have token : Yields options line ⟨before, [char], after⟩ _ :=
        .token offered (TokenValue.classify_ofList_of_symbol known) fun word => absurd word wordless
      simpa [isDigitVariable, isDigitRun, notDigit] using token

theorem IsPieceOf.yields {source : List Char} {piece : Piece} (valid : piece.IsPieceOf source)
    (options : LexerOptions) (line : Int) :
    Yields options line piece (piece.finding options line) := by
  rcases valid.shape with word | symbol
  · exact word.yields options line
  · exact symbol.yields options line

end Piece

namespace Lexer

/-- Scanning a text that stands after another one is one pass over its pieces. -/
theorem scan_eq (options : LexerOptions) (line : Int) (before text : List Char) :
    scan options ((Location.start line).advanceBy before) text =
      ((piecesAfter before text).map (Piece.finding options line),
        (Location.start line).advanceBy (before ++ text)) := by
  fun_induction piecesAfter before text with
  | case1 before => simp [scan]
  | case2 before char rest blank ih =>
      rw [scan, if_pos blank]
      simpa only [Location.advanceBy_append, Location.advanceBy_cons, Location.advanceBy_nil]
        using ih
  | case3 before char rest notBlank wordChar word remaining ih =>
      have found : (⟨before, word, remaining⟩ : Piece).finding options line =
          wordFinding options word remaining
            ((⟨before, word, remaining⟩ : Piece).span options.file line) := by
        refine Piece.finding_of_wordChars (fun other member => ?_) options line
        rcases List.mem_cons.mp member with rfl | member
        · exact wordChar
        · exact List.mem_takeWhile_imp member
      have whole : before ++ char :: rest = before ++ word ++ remaining := by
        simp [word, remaining, List.takeWhile_append_dropWhile]
      rw [Location.advanceBy_append] at ih
      rw [scan, if_neg notBlank, if_pos wordChar, List.map_cons, found, whole]
      simp only [word, remaining] at ih ⊢
      rw [ih]
      rfl
  | case4 before char rest notBlank notWord ih =>
      simp only [Bool.not_eq_true] at notWord
      rw [Location.advanceBy_append, Location.advanceBy_cons, Location.advanceBy_nil] at ih
      rw [scan, if_neg notBlank, if_neg (by simp [notWord]), List.map_cons,
        Piece.finding_symbol notWord, List.append_cons before char rest]
      simp only [ih]
      rfl

variable (options : LexerOptions) (source : String) (line : Int)

theorem findings_run : (ofSource options source line).run.findings =
    (pieces source.toList).map (Piece.finding options line) := by
  have scanned := scan_eq options line [] source.toList
  rw [Location.advanceBy_nil] at scanned
  simp [run, ofSource, scanned, pieces]

theorem location_run : (ofSource options source line).run.location =
    (Location.start line).advanceBy source.toList := by
  have scanned := scan_eq options line [] source.toList
  rw [Location.advanceBy_nil] at scanned
  simp [run, ofSource, scanned]

end Lexer

end ExprLexer
