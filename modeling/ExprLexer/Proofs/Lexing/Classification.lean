import ExprLexer.Proofs.Lexing.Findings
import Mathlib.Data.List.Forall2

/-! Lexing is splitting and then classifying piece by piece. Parentheses and
operators are no exception, although the lexer never hands them to the classifier. -/

set_option autoImplicit false

namespace ExprLexer

namespace Piece

/-- The token that a piece must become. A character that is neither of a word nor
a symbol is not offered to the classifier, which would take it for a variable. -/
def token? (legacyIntegers : Bool) (piece : Piece) : Option TokenValue :=
  if piece.isOffered then
    (TokenValue.classify legacyIntegers (String.ofList piece.text)).toOption
  else none

def isRejected (legacyIntegers : Bool) (piece : Piece) : Bool :=
  (piece.token? legacyIntegers).isNone

/-- The piece ends in an exponent mark and a sign is the very next character. -/
def IsCutExponent (piece : Piece) : Prop :=
  (∃ stem mark, piece.text = stem ++ [mark] ∧ (mark = 'e' ∨ mark = 'E')) ∧
    ∃ sign rest, piece.after = sign :: rest ∧ (sign = '+' ∨ sign = '-')

theorem isCutExponent_iff {piece : Piece} :
    Lexer.isCutExponent piece.text piece.after = true ↔ piece.IsCutExponent := by
  simp only [Lexer.isCutExponent, IsCutExponent, Bool.and_eq_true, Bool.or_eq_true, beq_iff_eq,
    List.getLast?_eq_some_iff, List.head?_eq_some_iff]
  constructor
  · rintro ⟨⟨stem, marked⟩ | ⟨stem, marked⟩, ⟨rest, signed⟩ | ⟨rest, signed⟩⟩ <;>
      exact ⟨⟨stem, _, marked, by simp⟩, _, rest, signed, by simp⟩
  · rintro ⟨⟨stem, mark, marked, rfl | rfl⟩, sign, rest, signed, rfl | rfl⟩ <;>
      simp [marked, signed]

/-- The error about a piece: a word that is no number, with the note about signs
exactly when an exponent is cut off; or a character without a meaning. -/
inductive ReportedBy (legacyIntegers : Bool) (piece : Piece) (diagnostic : Diagnostic) : Prop where
  | malformed :
      piece.IsWord →
      TokenValue.classify legacyIntegers (String.ofList piece.text) =
        .error (.malformedNumeral (String.ofList piece.text)) →
      diagnostic.code = "E102" →
      diagnostic.message = "malformed numeric literal " ++ Text.quote (String.ofList piece.text) →
      (Lexer.exponentNote ∈ diagnostic.notes ↔ piece.IsCutExponent) →
      ReportedBy legacyIntegers piece diagnostic
  | unknown {char : Char} :
      piece.text = [char] → Lexer.isWordChar char = false → char ∉ symbols →
      diagnostic.code = "E101" →
      diagnostic.message = "invalid operator symbol " ++ Text.quote (String.ofList piece.text) →
      Lexer.exponentNote ∉ diagnostic.notes →
      ReportedBy legacyIntegers piece diagnostic

/-- The warning about a run of digits: the decimal spelling is suggested for it. -/
structure WarnedBy (piece : Piece) (diagnostic : Diagnostic) : Prop where
  code : diagnostic.code = "W001"
  message : diagnostic.message =
    "digit string " ++ Text.quote (String.ofList piece.text) ++ " lexed as a variable"
  replacement : diagnostic.suggestions.map (·.replacement) = [String.ofList piece.text ++ ".0"]

variable {options : LexerOptions} {line : Int} {piece : Piece} {found : Finding}

theorem Yields.token?_eq (yields : Yields options line piece found) :
    found.token.map (·.value) = piece.token? options.legacyIntegers := by
  cases yields with
  | token offered classified _ => simp [token?, offered, classified, Except.toOption]
  | malformed word refused => simp [token?, refused, Except.toOption]
  | unknown single absent notWord => simp [token?, isOffered, single, absent, notWord]

theorem Yields.operand_of_isWord (yields : Yields options line piece found) (word : piece.IsWord)
    {value : TokenValue} (classified : value ∈ piece.token? options.legacyIntegers) :
    value.isParen = false ∧ value.isOperator = false := by
  rw [← yields.token?_eq] at classified
  cases yields with
  | token _ _ operand =>
      cases classified
      exact operand word
  | malformed => cases classified
  | unknown => cases classified

theorem Yields.reported (yields : Yields options line piece found) :
    (piece.isRejected options.legacyIntegers = true ∧
        ∃ diagnostic, found.diagnostic.filter Diagnostic.isError = some diagnostic ∧
          ReportedBy options.legacyIntegers piece diagnostic) ∨
      (piece.isRejected options.legacyIntegers = false ∧
        found.diagnostic.filter Diagnostic.isError = none) := by
  rw [isRejected, ← yields.token?_eq]
  cases yields with
  | token _ _ _ =>
      right
      refine ⟨rfl, ?_⟩
      split <;> rfl
  | malformed word refused =>
      left
      refine ⟨rfl, _, rfl, .malformed word refused rfl rfl ?_⟩
      rw [← isCutExponent_iff]
      cases Lexer.isCutExponent piece.text piece.after <;> simp [Lexer.faultDiagnostic]
  | unknown single absent notWord =>
      left
      refine ⟨rfl, _, rfl, .unknown single notWord absent rfl rfl ?_⟩
      rw [Lexer.faultDiagnostic, List.mem_singleton]
      decide +kernel

theorem Yields.warned (yields : Yields options line piece found) :
    (piece.isDigitVariable options.legacyIntegers = true ∧
        ∃ diagnostic, found.diagnostic.filter (fun report => !report.isError) = some diagnostic ∧
          WarnedBy piece diagnostic) ∨
      (piece.isDigitVariable options.legacyIntegers = false ∧
        found.diagnostic.filter (fun report => !report.isError) = none) := by
  cases yields with
  | token _ _ _ =>
      cases digits : piece.isDigitVariable options.legacyIntegers with
      | false => exact .inr ⟨rfl, rfl⟩
      | true => exact .inl ⟨rfl, _, rfl, rfl, rfl, rfl⟩
  | malformed word refused =>
      refine .inr ⟨?_, rfl⟩
      by_contra digits
      simp only [isDigitVariable, Bool.not_eq_false, Bool.and_eq_true] at digits
      rw [digits.1, TokenValue.classify_digitRun digits.2 word.wordChars] at refused
      cases refused
  | unknown single absent notWord =>
      refine .inr ⟨?_, rfl⟩
      by_contra digits
      simp only [isDigitVariable, Bool.not_eq_false, Bool.and_eq_true, isDigitRun, single,
        List.all_cons, List.all_nil, and_true] at digits
      rw [Lexer.isWordChar_of_isDigit digits.2.2] at notWord
      cases notWord

end Piece

/-- Where a function gives a result exactly for the kept values of a list, the
results are related to the kept values one by one. -/
theorem forall₂_filter_filterMap {α β : Type} {related : α → β → Prop} {keep : α → Bool}
    {produce : α → Option β} {list : List α}
    (each : ∀ value ∈ list,
      (keep value = true ∧ ∃ result, produce value = some result ∧ related value result) ∨
        (keep value = false ∧ produce value = none)) :
    List.Forall₂ related (list.filter keep) (list.filterMap produce) := by
  induction list with
  | nil => exact .nil
  | cons value rest ih =>
      have others := ih fun other member => each other (List.mem_cons_of_mem _ member)
      rcases each value List.mem_cons_self with ⟨kept, result, produced, holds⟩ | ⟨dropped, nothing⟩
      · rw [List.filter_cons_of_pos kept, List.filterMap_cons_some produced]
        exact .cons holds others
      · rw [List.filter_cons_of_neg (by simp [dropped]), List.filterMap_cons_none nothing]
        exact others

namespace Lexer

variable (options : LexerOptions) (source : String) (line : Int)

theorem tokens_run : (ofSource options source line).run.tokens =
    (pieces source.toList).filterMap fun piece => (piece.finding options line).token := by
  rw [tokens, findings_run, List.filterMap_map]
  rfl

theorem filter_diagnostics_run (keep : Diagnostic → Bool) :
    (ofSource options source line).run.diagnostics.filter keep =
      (pieces source.toList).filterMap fun piece =>
        (piece.finding options line).diagnostic.filter keep := by
  rw [diagnostics, findings_run, List.filterMap_map, List.filter_filterMap]
  rfl

/-- Lexing is the reference specification: the source has one maximal split; the
tokens are the classifications of its pieces, in order; the errors are those of
the pieces that have none, in order; the warnings those of the digit strings taken
for variables; and the run is refused, with everything that was reported, exactly
when a piece is rejected. -/
theorem run_eq_classified_split :
    ∃ split, (∀ list, IsSplit source.toList list ↔ list = split) ∧
      (ofSource options source line).run.tokens.map (·.value) =
        split.filterMap (Piece.token? options.legacyIntegers) ∧
      (∀ piece ∈ split, piece.IsWord → ∀ value ∈ piece.token? options.legacyIntegers,
        value.isParen = false ∧ value.isOperator = false) ∧
      List.Forall₂ (Piece.ReportedBy options.legacyIntegers)
        (split.filter (Piece.isRejected options.legacyIntegers))
        ((ofSource options source line).run.diagnostics.filter Diagnostic.isError) ∧
      List.Forall₂ Piece.WarnedBy
        (split.filter (Piece.isDigitVariable options.legacyIntegers))
        ((ofSource options source line).run.diagnostics.filter fun report => !report.isError) ∧
      (ofSource options source line).run.result =
        if split.any (Piece.isRejected options.legacyIntegers) then
          .error (ofSource options source line).run.diagnostics
        else .ok (Cursor.ofList (ofSource options source line).run.tokens) := by
  have yields : ∀ piece ∈ pieces source.toList,
      Piece.Yields options line piece (piece.finding options line) := fun piece member =>
    (mem_pieces_iff.mp member).yields options line
  have errors : List.Forall₂ (Piece.ReportedBy options.legacyIntegers)
      ((pieces source.toList).filter (Piece.isRejected options.legacyIntegers))
      ((ofSource options source line).run.diagnostics.filter Diagnostic.isError) := by
    rw [filter_diagnostics_run]
    exact forall₂_filter_filterMap fun piece member => (yields piece member).reported
  refine ⟨pieces source.toList, fun list => isSplit_iff_eq_pieces, ?_, ?_, errors, ?_, ?_⟩
  · rw [tokens_run, List.map_filterMap]
    exact List.filterMap_congr fun piece member => (yields piece member).token?_eq
  · intro piece member word value classified
    exact (yields piece member).operand_of_isWord word classified
  · rw [filter_diagnostics_run]
    exact forall₂_filter_filterMap fun piece member => (yields piece member).warned
  · have counts := errors.length_eq
    rw [← List.countP_eq_length_filter, ← List.countP_eq_length_filter] at counts
    have refused : (ofSource options source line).run.diagnostics.any Diagnostic.isError =
        (pieces source.toList).any (Piece.isRejected options.legacyIntegers) := by
      rw [Bool.eq_iff_iff, List.any_eq_true, List.any_eq_true, ← List.countP_pos_iff,
        ← List.countP_pos_iff, counts]
    rw [result, refused]

end Lexer

end ExprLexer
