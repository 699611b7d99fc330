import ExprLexer.Proofs.Lexing.Substitution

/-! Lexing after an error goes on as if there had been blanks. What is refused leaves no
trace but its error: neither in the tokens and warnings around it nor in the places. -/

set_option autoImplicit false

namespace ExprLexer

/-- A space for a character that one of the spans covers. -/
def blankCovered (spans : List Span) (line : Int) (before : List Char) (char : Char) : List Char :=
  if ∃ span ∈ spans, span.CoversAfter line before then [' '] else [char]

/-- The source with a space for every character that one of the spans covers. -/
def blankOut (spans : List Span) (line : Int) (source : String) : String :=
  String.ofList (Text.substitute (blankCovered spans line) [] source.toList)

namespace Location

theorem advance_space {char : Char} (other : char ≠ '\n') (location : Location) :
    location.advance ' ' = location.advance char := by
  rw [advance, advance, if_neg (by decide), if_neg other]

end Location

namespace Piece

variable {source : List Char} {piece other : Piece} {options : LexerOptions} {line : Int}
  {found : Finding}

theorem finding_eq_of_accepted (accepted : piece.isRejected options.legacyIntegers = false)
    (sameText : other.text = piece.text)
    (sameSpan : other.span options.file line = piece.span options.file line) :
    other.finding options line = piece.finding options line := by
  -- Only the error for a word looks at what follows the piece.
  unfold finding
  rw [sameText, sameSpan]
  split
  · rfl
  · cases classified :
        TokenValue.classify options.legacyIntegers (String.ofList piece.text) with
    | error cause => simp [isRejected, token?, classified, Except.toOption] at accepted
    | ok value => rw [Lexer.wordFinding_of_ok classified, Lexer.wordFinding_of_ok classified]

theorem Yields.token_of_accepted (yields : Yields options line piece found) :
    (if !piece.isRejected options.legacyIntegers then found.token else none) = found.token := by
  rw [isRejected, ← yields.token?_eq]
  cases found.token <;> rfl

theorem Yields.diagnostic_of_accepted (yields : Yields options line piece found) :
    (if !piece.isRejected options.legacyIntegers then found.diagnostic else none) =
      found.diagnostic.filter fun report => !report.isError := by
  rw [isRejected, ← yields.token?_eq]
  cases yields with
  | token _ _ _ => cases piece.isDigitVariable options.legacyIntegers <;> rfl
  | malformed _ _ => rfl
  | unknown _ _ _ => rfl

end Piece

section Blanking

variable {source : List Char} {piece : Piece} {legacyIntegers : Bool} {file : String} {line : Int}

def refusedSpans (legacyIntegers : Bool) (file : String) (line : Int) (source : List Char) :
    List Span :=
  ((pieces source).filter (Piece.isRejected legacyIntegers)).map (Piece.span file line)

theorem exists_coversAfter_refusedSpans_iff {before : List Char} :
    (∃ span ∈ refusedSpans legacyIntegers file line source, span.CoversAfter line before) ↔
      (((pieces source).filter (Piece.isRejected legacyIntegers)).find? fun piece =>
        (piece.span file line).CoversAfter line before).isSome = true := by
  simp only [refusedSpans, List.mem_map, exists_exists_and_eq_and, List.find?_isSome,
    decide_eq_true_eq]

def blankRefused (legacyIntegers : Bool) (file : String) (line : Int) (source : List Char) :
    List Char → Char → List Char :=
  blankCovered (refusedSpans legacyIntegers file line source) line

theorem blankRefused_within (valid : piece.IsPieceOf source) {left right : List Char} {char : Char}
    (split : piece.text = left ++ char :: right) :
    blankRefused legacyIntegers file line source (piece.before ++ left) char =
      if piece.isRejected legacyIntegers then [' '] else [char] := by
  rw [blankRefused, blankCovered, if_congr exists_coversAfter_refusedSpans_iff rfl rfl,
    valid.find?_coversAfter_within split]
  cases piece.isRejected legacyIntegers <;> rfl

theorem blankRefused_blank {before after : List Char} {char : Char}
    (whole : before ++ char :: after = source) (blank : Text.isBlank char = true) :
    blankRefused legacyIntegers file line source before char = [char] := by
  rw [blankRefused, blankCovered, if_congr exists_coversAfter_refusedSpans_iff rfl rfl,
    Piece.find?_coversAfter_blank whole blank]
  rfl

theorem text_blanked (valid : piece.IsPieceOf source) :
    (piece.substitute (blankRefused legacyIntegers file line source)).text =
      if piece.isRejected legacyIntegers then piece.text.map fun _ => ' ' else piece.text := by
  have each : (piece.substitute (blankRefused legacyIntegers file line source)).text =
      piece.text.flatMap fun char =>
        if piece.isRejected legacyIntegers then [' '] else [char] :=
    Text.substitute_eq_flatMap fun _ _ _ split => blankRefused_within valid split
  rw [each]
  cases piece.isRejected legacyIntegers <;> simp [List.flatMap_singleton', List.map_eq_flatMap]

theorem keepsApart_blankRefused :
    KeepsApart (blankRefused legacyIntegers file line source)
      (fun piece => !piece.isRejected legacyIntegers) source := by
  constructor
  · intro before char after whole blank
    exact blankRefused_blank whole blank
  · intro piece valid
    rw [text_blanked valid]
    cases piece.isRejected legacyIntegers with
    | true =>
        refine .blank (by simp [valid.text_ne_nil]) fun char member => ?_
        obtain ⟨_, _, rfl⟩ := List.mem_map.mp member
        decide
    | false => exact valid.standIn_self

/-- Every character but a line feed takes one column, so that a space can stand for it. -/
theorem advanceBy_blankRefused {before after : List Char} {char : Char}
    (whole : before ++ char :: after = source) (location : Location) :
    location.advanceBy (blankRefused legacyIntegers file line source before char) =
      location.advance char := by
  by_cases feed : char = '\n'
  · rw [blankRefused_blank whole (by rw [feed]; decide)]
    rfl
  · rw [blankRefused, blankCovered]
    split
    · exact Location.advance_space feed location
    · rfl

theorem advanceBy_blanked {before text after : List Char}
    (whole : before ++ text ++ after = source) (location : Location) :
    location.advanceBy
        (Text.substitute (blankRefused legacyIntegers file line source) before text) =
      location.advanceBy text := by
  revert location
  refine Text.substitute_related
    (fun new old => ∀ location : Location, location.advanceBy new = location.advanceBy old)
    (fun _ => rfl) ?_ ?_
  · intro newLeft left newRight right first second location
    rw [Location.advanceBy_append, Location.advanceBy_append, first, second]
  · intro left char right split location
    have place : before ++ left ++ char :: (right ++ after) = source := by
      rw [← whole, split]
      simp
    exact advanceBy_blankRefused place location

theorem span_blanked (valid : piece.IsPieceOf source) :
    (piece.substitute (blankRefused legacyIntegers file line source)).span file line =
      piece.span file line := by
  have whole : [] ++ piece.before ++ (piece.text ++ piece.after) = source := by
    rw [← valid.whole, List.nil_append, List.append_assoc]
  have starts : ∀ location : Location, location.advanceBy
      (Text.substitute (blankRefused legacyIntegers file line source) [] piece.before) =
      location.advanceBy piece.before := advanceBy_blanked whole
  have ends : ∀ location : Location, location.advanceBy
      (Text.substitute (blankRefused legacyIntegers file line source) piece.before piece.text) =
      location.advanceBy piece.text := advanceBy_blanked valid.whole
  simp only [Piece.span, Piece.substitute]
  rw [starts, ends]

end Blanking

namespace Lexer

variable (options : LexerOptions) (source : String) (line : Int)

theorem errorSpans_run : (ofSource options source line).run.errorSpans =
    refusedSpans options.legacyIntegers options.file line source.toList :=
  flatMap_eq_map_of_forall₂
    (diagnostic_spans_run options source line fun _ _ yields => yields.reported)

/-- The source with spaces for everything that a run over it refuses. -/
def withoutRefused : String := blankOut (ofSource options source line).run.errorSpans line source

theorem toList_withoutRefused : (withoutRefused options source line).toList =
    Text.substitute (blankRefused options.legacyIntegers options.file line source.toList) []
      source.toList := by
  rw [withoutRefused, errorSpans_run, blankOut, String.toList_ofList]
  rfl

theorem findings_run_withoutRefused :
    (ofSource options (withoutRefused options source line) line).run.findings =
      ((pieces source.toList).filter fun piece =>
        !piece.isRejected options.legacyIntegers).map (Piece.finding options line) := by
  rw [findings_run, toList_withoutRefused, keepsApart_blankRefused.pieces_substitute,
    List.map_map]
  refine List.map_congr_left fun piece member => ?_
  obtain ⟨listed, accepted⟩ := List.mem_filter.mp member
  have valid := mem_pieces_iff.mp listed
  rw [Bool.not_eq_true'] at accepted
  refine Piece.finding_eq_of_accepted accepted ?_ (span_blanked valid)
  rw [text_blanked valid, accepted]
  rfl

theorem tokens_run_withoutRefused :
    (ofSource options (withoutRefused options source line) line).run.tokens =
      (ofSource options source line).run.tokens := by
  rw [tokens, findings_run_withoutRefused, List.filterMap_map, List.filterMap_filter, tokens_run]
  refine List.filterMap_congr fun piece member => ?_
  exact ((mem_pieces_iff.mp member).yields options line).token_of_accepted

theorem diagnostics_run_withoutRefused :
    (ofSource options (withoutRefused options source line) line).run.diagnostics =
      (ofSource options source line).run.diagnostics.filter fun report => !report.isError := by
  rw [diagnostics, findings_run_withoutRefused, List.filterMap_map, List.filterMap_filter,
    filter_diagnostics_run]
  refine List.filterMap_congr fun piece member => ?_
  exact ((mem_pieces_iff.mp member).yields options line).diagnostic_of_accepted

/-- What is refused can be blanked out without a trace. The source with spaces for it is
not refused; its tokens and warnings are those that were found beside the errors, and
the lexer stops at the same place. -/
theorem run_withoutRefused :
    (ofSource options (withoutRefused options source line) line).run.result =
        .ok (Cursor.ofList (ofSource options source line).run.tokens) ∧
      (ofSource options (withoutRefused options source line) line).run.tokens =
        (ofSource options source line).run.tokens ∧
      (ofSource options (withoutRefused options source line) line).run.diagnostics =
        (ofSource options source line).run.diagnostics.filter (fun report => !report.isError) ∧
      (ofSource options (withoutRefused options source line) line).run.location =
        (ofSource options source line).run.location := by
  have tokensEq := tokens_run_withoutRefused options source line
  have warnings := diagnostics_run_withoutRefused options source line
  refine ⟨?_, tokensEq, warnings, ?_⟩
  · have spared : (ofSource options (withoutRefused options source line) line).run.diagnostics.any
        Diagnostic.isError = false := by
      rw [warnings, List.any_eq_false]
      intro report member
      simpa using (List.mem_filter.mp member).2
    rw [result, spared, tokensEq]
    rfl
  · rw [location_run, location_run, toList_withoutRefused]
    have whole : [] ++ source.toList ++ [] = source.toList := List.append_nil _
    exact advanceBy_blanked whole _

end Lexer

end ExprLexer
