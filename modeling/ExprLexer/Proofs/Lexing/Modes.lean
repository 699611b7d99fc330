import ExprLexer.Proofs.Lexing.Concatenation

/-! The two ways to read digit strings. They part at a single kind of piece, the run
of digits, and there only in the value of the token and in the warning: where pieces
are, which of them are refused and what is said about those is the same. -/

set_option autoImplicit false

namespace ExprLexer

namespace TokenValue

variable {text : List Char}

theorem wordChars_of_isDigitRun (digits : isDigitRun text = true) :
    ∀ char ∈ text, Lexer.isWordChar char = true := by
  simp only [isDigitRun, Bool.and_eq_true, List.all_eq_true] at digits
  intro char member
  exact Lexer.isWordChar_of_isDigit (digits.2 char member)

theorem classify_digitRun_constant (digits : isDigitRun text = true) :
    classify false (String.ofList text) = .ok (ofNumeral ⟨false, digitsValue text, 0⟩) := by
  simp [classify, ofSymbol?_eq_none_of_wordChars (wordChars_of_isDigitRun digits),
    point_not_mem_of_isDigitRun digits, digits]

theorem classify_eq_of_not_digitRun (other : isDigitRun text = false) (legacyIntegers : Bool) :
    classify legacyIntegers (String.ofList text) = classify false (String.ofList text) := by
  simp [classify, other]

end TokenValue

namespace Piece

/-- The tokens of one piece where digit strings are variables and where they are
constants: they differ for digit strings, and in nothing else. -/
inductive ReadInModes (file : String) (line : Int) (piece : Piece) : Token → Token → Prop where
  | digits :
      isDigitRun piece.text = true →
      ReadInModes file line piece
        ⟨.variable (String.ofList piece.text), some (piece.span file line)⟩
        ⟨.constant (Numeral.toBinary64 ⟨false, digitsValue piece.text, 0⟩),
          some (piece.span file line)⟩
  | other {value : TokenValue} :
      isDigitRun piece.text = false →
      ReadInModes file line piece ⟨value, some (piece.span file line)⟩
        ⟨value, some (piece.span file line)⟩

variable {source : List Char} {piece : Piece} {file : String} {line : Int}

theorem finding_legacy_of_digitRun (digits : isDigitRun piece.text = true) (file : String)
    (line : Int) : piece.finding ⟨file, true⟩ line =
      ⟨some ⟨.variable (String.ofList piece.text), some (piece.span file line)⟩,
        some (Lexer.digitStringWarning (String.ofList piece.text) (piece.span file line))⟩ := by
  have wordChars := TokenValue.wordChars_of_isDigitRun digits
  rw [finding_of_wordChars wordChars,
    Lexer.wordFinding_of_ok (TokenValue.classify_digitRun digits wordChars)]
  simp [TokenValue.kind, digits]

theorem finding_modern_of_digitRun (digits : isDigitRun piece.text = true) (file : String)
    (line : Int) : piece.finding ⟨file, false⟩ line =
      ⟨some ⟨.constant (Numeral.toBinary64 ⟨false, digitsValue piece.text, 0⟩),
        some (piece.span file line)⟩, none⟩ := by
  rw [finding_of_wordChars (TokenValue.wordChars_of_isDigitRun digits),
    Lexer.wordFinding_of_ok (TokenValue.classify_digitRun_constant digits)]
  rfl

theorem finding_eq_of_not_digitRun (other : isDigitRun piece.text = false) (file : String)
    (line : Int) : piece.finding ⟨file, true⟩ line = piece.finding ⟨file, false⟩ line := by
  unfold finding Lexer.wordFinding
  simp only [TokenValue.classify_eq_of_not_digitRun other true, other, Bool.and_false]

theorem errors_eq (piece : Piece) (file : String) (line : Int) :
    (piece.finding ⟨file, true⟩ line).diagnostic.filter Diagnostic.isError =
      (piece.finding ⟨file, false⟩ line).diagnostic.filter Diagnostic.isError := by
  cases digits : isDigitRun piece.text with
  | true =>
      rw [finding_legacy_of_digitRun digits, finding_modern_of_digitRun digits]
      rfl
  | false => rw [finding_eq_of_not_digitRun digits]

theorem IsPieceOf.readInModes (valid : piece.IsPieceOf source) (file : String) (line : Int) :
    Option.Rel (piece.ReadInModes file line) (piece.finding ⟨file, true⟩ line).token
      (piece.finding ⟨file, false⟩ line).token := by
  cases digits : isDigitRun piece.text with
  | true =>
      rw [finding_legacy_of_digitRun digits, finding_modern_of_digitRun digits]
      exact .some (.digits digits)
  | false =>
      have yields := valid.yields ⟨file, false⟩ line
      rw [finding_eq_of_not_digitRun digits]
      generalize piece.finding ⟨file, false⟩ line = found at yields
      cases yields with
      | token _ _ _ => exact .some (.other digits)
      | malformed _ _ => exact .none
      | unknown _ _ _ => exact .none

theorem IsPieceOf.not_warned (valid : piece.IsPieceOf source) (file : String) (line : Int) :
    (piece.finding ⟨file, false⟩ line).diagnostic.filter (fun report => !report.isError) =
      none := by
  rcases (valid.yields ⟨file, false⟩ line).warned with ⟨digits, _⟩ | ⟨_, none⟩
  · cases digits
  · exact none

theorem IsPieceOf.warned_iff (valid : piece.IsPieceOf source) (file : String) (line : Int) :
    (isDigitRun piece.text = true ∧ ∃ report,
        (piece.finding ⟨file, true⟩ line).diagnostic.filter (fun report => !report.isError) =
          some report ∧ piece.WarnedBy report ∧ report.spans = [piece.span file line]) ∨
      (isDigitRun piece.text = false ∧
        (piece.finding ⟨file, true⟩ line).diagnostic.filter (fun report => !report.isError) =
          none) := by
  cases digits : isDigitRun piece.text with
  | true =>
      rw [finding_legacy_of_digitRun digits]
      exact .inl ⟨rfl, _, rfl, ⟨rfl, rfl, rfl⟩, rfl⟩
  | false =>
      rw [finding_eq_of_not_digitRun digits]
      exact .inr ⟨rfl, valid.not_warned file line⟩

end Piece

/-- Two functions that give related results, or none, for each value of a list. -/
theorem forall₂_filterMap_filterMap {α β γ : Type} {related : β → γ → Prop}
    {first : α → Option β} {second : α → Option γ} {list : List α}
    (each : ∀ value ∈ list, Option.Rel related (first value) (second value)) :
    List.Forall₂ related (list.filterMap first) (list.filterMap second) := by
  induction list with
  | nil => exact .nil
  | cons value rest ih =>
      obtain ⟨here, others⟩ := List.forall_mem_cons.mp each
      rw [List.filterMap_cons, List.filterMap_cons]
      generalize first value = one at here
      generalize second value = other at here
      cases here with
      | none => exact ih others
      | some holds => exact .cons holds (ih others)

namespace Lexer

theorem isRefused_iff_errors (lexer : Lexer) :
    lexer.IsRefused ↔ lexer.diagnostics.filter Diagnostic.isError ≠ [] := by
  rw [isRefused_iff, List.any_eq_true, ne_eq, List.filter_eq_nil_iff]
  simp

variable (file source : String) (line : Int)

theorem errors_run_eq :
    (ofSource ⟨file, true⟩ source line).run.diagnostics.filter Diagnostic.isError =
      (ofSource ⟨file, false⟩ source line).run.diagnostics.filter Diagnostic.isError := by
  rw [filter_diagnostics_run, filter_diagnostics_run]
  exact List.filterMap_congr fun piece _ => piece.errors_eq file line

theorem tokens_run_readInModes :
    List.Forall₂
      (fun legacy modern => ∃ piece : Piece, piece.IsPieceOf source.toList ∧
        piece.ReadInModes file line legacy modern)
      (ofSource ⟨file, true⟩ source line).run.tokens
      (ofSource ⟨file, false⟩ source line).run.tokens := by
  rw [tokens_run, tokens_run]
  refine forall₂_filterMap_filterMap fun piece member => ?_
  have valid := mem_pieces_iff.mp member
  have modes := valid.readInModes file line
  generalize (piece.finding ⟨file, true⟩ line).token = legacy at modes
  generalize (piece.finding ⟨file, false⟩ line).token = modern at modes
  cases modes with
  | none => exact .none
  | some read => exact .some ⟨piece, valid, read⟩

/-- Whether digit strings are variables decides nothing else. The source is refused in
both modes or in neither, with the same errors and the same message. Token by token the
spans are the same, and so are the values but for runs of digits: these are variables
with one warning each, or constants without any. -/
theorem run_modes_agree :
    ((ofSource ⟨file, true⟩ source line).run.IsRefused ↔
        (ofSource ⟨file, false⟩ source line).run.IsRefused) ∧
      (ofSource ⟨file, true⟩ source line).run.diagnostics.filter Diagnostic.isError =
        (ofSource ⟨file, false⟩ source line).run.diagnostics.filter Diagnostic.isError ∧
      Diagnostic.rejectionMessage (ofSource ⟨file, true⟩ source line).run.diagnostics =
        Diagnostic.rejectionMessage (ofSource ⟨file, false⟩ source line).run.diagnostics ∧
      List.Forall₂
        (fun legacy modern => ∃ piece : Piece, piece.IsPieceOf source.toList ∧
          piece.ReadInModes file line legacy modern)
        (ofSource ⟨file, true⟩ source line).run.tokens
        (ofSource ⟨file, false⟩ source line).run.tokens ∧
      (∃ split, (∀ list, IsSplit source.toList list ↔ list = split) ∧
        List.Forall₂
          (fun piece report => piece.WarnedBy report ∧ report.spans = [piece.span file line])
          (split.filter fun piece => isDigitRun piece.text)
          ((ofSource ⟨file, true⟩ source line).run.diagnostics.filter
            fun report => !report.isError)) ∧
      (ofSource ⟨file, false⟩ source line).run.diagnostics.filter
        (fun report => !report.isError) = [] := by
  have errors := errors_run_eq file source line
  refine ⟨?_, errors, ?_, tokens_run_readInModes file source line,
    ⟨pieces source.toList, fun list => isSplit_iff_eq_pieces, ?_⟩, ?_⟩
  · rw [isRefused_iff_errors, isRefused_iff_errors, errors]
  · rw [Diagnostic.rejectionMessage, Diagnostic.rejectionMessage, errors]
  · rw [filter_diagnostics_run]
    exact forall₂_filter_filterMap fun piece member =>
      (mem_pieces_iff.mp member).warned_iff file line
  · rw [filter_diagnostics_run, List.filterMap_eq_nil_iff]
    exact fun piece member => (mem_pieces_iff.mp member).not_warned file line

end Lexer

end ExprLexer
