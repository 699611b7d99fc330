import ExprLexer.Proofs.Lexing.Displays
import ExprLexer.Proofs.Lexing.Modes
import ExprLexer.Proofs.Lexing.Substitution

/-! The replacements that warnings suggest. A run of digits that is taken for a variable
becomes, with a point and a zero after it, the constant that it is where digit strings
are constants; everything else in the source stays what it was. -/

set_option autoImplicit false

namespace ExprLexer

/-! ## Edits -/

/-- A text that is to stand in the place of a span. -/
structure Edit where
  span : Span
  replacement : String
  deriving DecidableEq

def Diagnostic.edits (diagnostic : Diagnostic) : List Edit :=
  diagnostic.labels.flatMap fun label =>
    diagnostic.suggestions.map fun suggestion => ⟨label.span, suggestion.replacement⟩

namespace Span

/-- The span starts at the character that a source has after the given text. -/
def StartsAfter (span : Span) (line : Int) (before : List Char) : Prop :=
  span.startLine = line + before.count '\n' ∧
    span.startColumn = (Text.lastLine before).length + 1

instance (span : Span) (line : Int) (before : List Char) :
    Decidable (span.StartsAfter line before) :=
  inferInstanceAs (Decidable (_ ∧ _))

def moveColumns (distance : Int) (span : Span) : Span :=
  { span with
    startColumn := span.startColumn + distance
    endColumn := span.endColumn + distance }

end Span

/-- What stands for a character once edits are made. The first character of an edited span
gives way to the replacement, and the others go. -/
def editCovered (edits : List Edit) (line : Int) (before : List Char) (char : Char) : List Char :=
  match edits.find? fun edit => edit.span.CoversAfter line before with
  | none => [char]
  | some edit =>
      if edit.span.StartsAfter line before then edit.replacement.toList else []

/-- The source with every edited span replaced. -/
def applyEdits (edits : List Edit) (line : Int) (source : String) : String :=
  String.ofList (Text.substitute (editCovered edits line) [] source.toList)

/-! ## Decimal spellings -/

def decimalSpelling (digits : List Char) : List Char := digits ++ ['.', '0']

namespace TokenValue

variable {text : List Char}

theorem not_isDigitRun_decimalSpelling (text : List Char) :
    isDigitRun (decimalSpelling text) = false := by
  cases digits : isDigitRun (decimalSpelling text) with
  | false => rfl
  | true => exact absurd (by simp [decimalSpelling]) (point_not_mem_of_isDigitRun digits)

/-- However many digits there are, the point and the zero change nothing in the value. -/
theorem classify_decimalSpelling (digits : isDigitRun text = true) (legacyIntegers : Bool) :
    classify legacyIntegers (String.ofList (decimalSpelling text)) =
      .ok (.constant (Numeral.toBinary64 ⟨false, digitsValue text, 0⟩)) := by
  simp only [isDigitRun, Bool.and_eq_true, Bool.not_eq_true', List.isEmpty_eq_false_iff,
    List.all_eq_true] at digits
  let fixed : FixedText := ⟨text, ['0'], digits.1, by
    intro char member
    rcases List.mem_append.mp member with whole | zero
    · exact digits.2 char whole
    · rw [List.mem_singleton.mp zero]
      decide⟩
  have spelled : decimalSpelling text = fixed.text := by
    simp [decimalSpelling, FixedText.text, fixed]
  have scaled := Numeral.toBinary64_mul_pow false (digitsValue text) 1 (-1)
  rw [← digitsValue_append_zeros] at scaled
  have value : (fixed.numeral false).toBinary64 =
      Numeral.toBinary64 ⟨false, digitsValue text, 0⟩ := scaled
  rw [classify_eq_of_not_digitRun (not_isDigitRun_decimalSpelling text), spelled,
    classify_fixedText, value]

theorem wordChars_decimalSpelling (digits : isDigitRun text = true) :
    ∀ char ∈ decimalSpelling text, Lexer.isWordChar char = true := by
  have ending : ∀ char ∈ ['.', '0'], Lexer.isWordChar char = true :=
    List.all_eq_true.mp (by decide +kernel)
  intro char member
  rcases List.mem_append.mp member with whole | others
  · exact wordChars_of_isDigitRun digits char whole
  · exact ending char others

end TokenValue

/-! ## Sources with the edits made -/

def decimalEdits (file : String) (line : Int) (source : List Char) : List Edit :=
  ((pieces source).filter fun piece => isDigitRun piece.text).map fun piece =>
    ⟨piece.span file line, String.ofList (decimalSpelling piece.text)⟩

/-- What stands for a character once every run of digits is edited. -/
def editDigits (file : String) (line : Int) (source : List Char) :
    List Char → Char → List Char :=
  editCovered (decimalEdits file line source) line

namespace Piece

variable {source before after : List Char} {piece : Piece} {char : Char} {file : String}
  {line : Int}

theorem IsPieceOf.startsAfter_iff (valid : piece.IsPieceOf source) {left right : List Char}
    (split : piece.text = left ++ char :: right) :
    (piece.span file line).StartsAfter line (piece.before ++ left) ↔ left = [] := by
  have within : '\n' ∉ left := fun member =>
    valid.newline_not_mem (split ▸ List.mem_append_left _ member)
  rw [Span.StartsAfter, valid.span_eq, Text.count_append_of_not_mem within,
    Text.lastLine_append within, List.length_append, ← List.length_eq_zero_iff]
  dsimp only
  omega

theorem find?_decimalEdits (before : List Char) :
    (decimalEdits file line source).find? (fun edit => edit.span.CoversAfter line before) =
      (((pieces source).filter fun piece => isDigitRun piece.text).find? fun piece =>
        (piece.span file line).CoversAfter line before).map fun piece =>
          ⟨piece.span file line, String.ofList (decimalSpelling piece.text)⟩ :=
  List.find?_map

theorem IsPieceOf.editDigits_within (valid : piece.IsPieceOf source) (file : String)
    (line : Int) {left right : List Char} (split : piece.text = left ++ char :: right) :
    editDigits file line source (piece.before ++ left) char =
      if isDigitRun piece.text then (if left = [] then decimalSpelling piece.text else [])
      else [char] := by
  rw [editDigits, editCovered, find?_decimalEdits, valid.find?_coversAfter_within split]
  cases digits : isDigitRun piece.text with
  | false => rfl
  | true =>
      rw [if_pos rfl, if_pos rfl, Option.map_some]
      dsimp only
      rw [if_congr (valid.startsAfter_iff split) rfl rfl, String.toList_ofList]

theorem editDigits_blank (whole : before ++ char :: after = source)
    (blank : Text.isBlank char = true) :
    editDigits file line source before char = [char] := by
  rw [editDigits, editCovered, find?_decimalEdits, find?_coversAfter_blank whole blank]
  rfl

theorem editDigits_of_not_wordChar (whole : before ++ char :: after = source)
    (notWord : Lexer.isWordChar char = false) :
    editDigits file line source before char = [char] := by
  cases blank : Text.isBlank char with
  | true => exact editDigits_blank whole blank
  | false =>
      have valid : (⟨before, [char], after⟩ : Piece).IsPieceOf source :=
        whole ▸ isPieceOf_symbol blank notWord
      have other : isDigitRun [char] = false := by
        rw [Bool.eq_false_iff]
        intro digits
        rw [TokenValue.wordChars_of_isDigitRun digits char List.mem_cons_self] at notWord
        cases notWord
      have edited := valid.editDigits_within file line (List.nil_append [char]).symm
      rwa [List.append_nil, other] at edited

def decimalized (file : String) (line : Int) (source : List Char) (piece : Piece) : Piece :=
  piece.substitute (editDigits file line source)

theorem IsPieceOf.text_decimalized (valid : piece.IsPieceOf source) (file : String) (line : Int) :
    (piece.decimalized file line source).text =
      if isDigitRun piece.text then decimalSpelling piece.text else piece.text := by
  rw [decimalized, substitute]
  cases digits : isDigitRun piece.text with
  | false =>
      have each : Text.substitute (editDigits file line source) piece.before piece.text =
          piece.text.flatMap fun char => [char] :=
        Text.substitute_eq_flatMap fun _ _ _ split => by
          rw [valid.editDigits_within file line split, digits]
          rfl
      exact each.trans (List.flatMap_singleton' piece.text)
  | true =>
      -- The first digit gives way to the whole spelling, and the others to nothing.
      refine Text.substitute_eq_of_first valid.text_ne_nil fun _ _ _ split => ?_
      rw [valid.editDigits_within file line split, digits]
      rfl

theorem count_editDigits (whole : before ++ char :: after = source) :
    (editDigits file line source before char).count '\n' = [char].count '\n' := by
  by_cases feed : char = '\n'
  · rw [editDigits_of_not_wordChar whole (by rw [feed]; decide +kernel)]
  · have other : '\n' ∉ [char] := by simpa using Ne.symm feed
    -- Whichever edit is found, it was made for some run of digits and has no line feed.
    rw [List.count_eq_zero.mpr other, List.count_eq_zero, editDigits, editCovered]
    split
    next => exact other
    next edit found =>
      obtain ⟨other, listed, rfl⟩ := List.mem_map.mp (List.mem_of_find?_eq_some found)
      split
      · rw [String.toList_ofList]
        intro member
        have digits := (List.mem_filter.mp listed).2
        exact absurd (TokenValue.wordChars_decimalSpelling digits '\n' member)
          (by decide +kernel)
      · exact List.not_mem_nil

end Piece

theorem keepsApart_editDigits (file : String) (line : Int) (source : List Char) :
    KeepsApart (editDigits file line source) (fun _ => true) source := by
  constructor
  · intro before char after whole blank
    exact Piece.editDigits_blank whole blank
  · intro piece valid
    have text := valid.text_decimalized file line
    rw [Piece.decimalized] at text
    rw [text]
    cases digits : isDigitRun piece.text with
    | false => exact valid.standIn_self
    | true =>
        have word := valid.isWord_of_wordChars (TokenValue.wordChars_of_isDigitRun digits)
        exact .word word (by simp [decimalSpelling]) (TokenValue.wordChars_decimalSpelling digits)

namespace Piece

variable {source newSource : List Char} {piece : Piece} {file : String} {line : Int}

theorem IsPieceOf.count_before_decimalized (valid : piece.IsPieceOf source) (file : String)
    (line : Int) : (piece.decimalized file line source).before.count '\n' =
      piece.before.count '\n' := by
  refine Text.substitute_related (fun new old => new.count '\n' = old.count '\n') rfl ?_ ?_
  · intro newLeft left newRight right first second
    rw [List.count_append, List.count_append, first, second]
  · intro left char right split
    have place : [] ++ left ++ char :: (right ++ piece.text ++ piece.after) = source := by
      rw [← valid.whole, split]
      simp
    exact count_editDigits place

theorem IsPieceOf.span_decimalized (valid : piece.IsPieceOf source)
    (newValid : (piece.decimalized file line source).IsPieceOf newSource)
    (sameText : (piece.decimalized file line source).text = piece.text) :
    ∃ distance : Int, (piece.decimalized file line source).span file line =
      (piece.span file line).moveColumns distance := by
  refine ⟨(Text.lastLine (piece.decimalized file line source).before).length -
    (Text.lastLine piece.before).length, ?_⟩
  rw [newValid.span_eq, valid.span_eq, valid.count_before_decimalized, sameText]
  simp only [Span.moveColumns, Span.mk.injEq, true_and]
  omega

/-- A word is followed by the same character as before, so that its error has the same notes. -/
theorem IsPieceOf.head?_after_decimalized (valid : piece.IsPieceOf source) (word : piece.IsWord)
    (file : String) (line : Int) :
    (piece.decimalized file line source).after.head? = piece.after.head? := by
  rw [decimalized, substitute]
  cases following : piece.after with
  | nil => rfl
  | cons next others =>
      have notWord := word.closes next (by rw [following]; rfl)
      have place : piece.before ++ piece.text ++ next :: others = source := by
        rw [← following, valid.whole]
      dsimp only
      rw [Text.substitute, editDigits_of_not_wordChar place notWord]
      rfl

theorem IsPieceOf.finding_decimalized (valid : piece.IsPieceOf source)
    (newValid : (piece.decimalized file line source).IsPieceOf newSource)
    (other : isDigitRun piece.text = false) :
    ∃ distance : Int, (piece.decimalized file line source).finding ⟨file, true⟩ line =
      (piece.finding ⟨file, true⟩ line).mapSpans (Span.moveColumns distance) := by
  have sameText : (piece.decimalized file line source).text = piece.text := by
    rw [valid.text_decimalized, other]
    rfl
  obtain ⟨distance, moved⟩ := valid.span_decimalized newValid sameText
  refine ⟨distance, finding_eq_mapSpans sameText (fun wordChars => ?_) moved⟩
  exact valid.head?_after_decimalized (valid.isWord_of_wordChars wordChars) file line

theorem IsPieceOf.finding_decimalized_of_digitRun (valid : piece.IsPieceOf source)
    (digits : isDigitRun piece.text = true) (file : String) (line : Int) :
    (piece.decimalized file line source).finding ⟨file, true⟩ line =
      ⟨some ⟨.constant (Numeral.toBinary64 ⟨false, digitsValue piece.text, 0⟩),
        some ((piece.decimalized file line source).span file line)⟩, none⟩ := by
  have text : (piece.decimalized file line source).text = decimalSpelling piece.text := by
    rw [valid.text_decimalized, digits]
    rfl
  have classified := TokenValue.classify_decimalSpelling digits true
  rw [← text] at classified
  rw [finding_of_wordChars (text ▸ TokenValue.wordChars_decimalSpelling digits),
    Lexer.wordFinding_of_ok classified]
  rfl

/-- An edited piece is read where digit strings are variables as it was where they are not. -/
theorem IsPieceOf.value_decimalized (valid : piece.IsPieceOf source)
    (newValid : (piece.decimalized file line source).IsPieceOf newSource) :
    ((piece.decimalized file line source).finding ⟨file, true⟩ line).token.map (·.value) =
      (piece.finding ⟨file, false⟩ line).token.map (·.value) := by
  cases digits : isDigitRun piece.text with
  | true =>
      rw [valid.finding_decimalized_of_digitRun digits, finding_modern_of_digitRun digits]
      rfl
  | false =>
      obtain ⟨distance, moved⟩ := valid.finding_decimalized newValid digits
      rw [moved, finding_eq_of_not_digitRun digits, Finding.mapSpans, Option.map_map]
      rfl

theorem IsPieceOf.errors_decimalized (valid : piece.IsPieceOf source)
    (newValid : (piece.decimalized file line source).IsPieceOf newSource) :
    Option.Rel
      (fun old new => ∃ distance : Int, new = old.mapSpans (Span.moveColumns distance))
      ((piece.finding ⟨file, true⟩ line).diagnostic.filter Diagnostic.isError)
      (((piece.decimalized file line source).finding ⟨file, true⟩ line).diagnostic.filter
        Diagnostic.isError) := by
  cases digits : isDigitRun piece.text with
  | true =>
      rw [valid.finding_decimalized_of_digitRun digits, finding_legacy_of_digitRun digits]
      exact .none
  | false =>
      obtain ⟨distance, moved⟩ := valid.finding_decimalized newValid digits
      rw [moved, Finding.mapSpans]
      cases (piece.finding ⟨file, true⟩ line).diagnostic with
      | none => exact .none
      | some report =>
          have kind : (report.mapSpans (Span.moveColumns distance)).isError = report.isError := rfl
          dsimp only [Option.map_some, Option.filter_some]
          rw [kind]
          cases report.isError with
          | false => exact .none
          | true => exact .some ⟨distance, rfl⟩

theorem IsPieceOf.not_isDigitRun_decimalized (valid : piece.IsPieceOf source) (file : String)
    (line : Int) : isDigitRun (piece.decimalized file line source).text = false := by
  rw [valid.text_decimalized]
  cases digits : isDigitRun piece.text with
  | true => exact TokenValue.not_isDigitRun_decimalSpelling piece.text
  | false => exact digits

/-- The code is that of the warning about runs of digits, and of no other diagnostic. -/
theorem IsPieceOf.coded_iff (valid : piece.IsPieceOf source) (file : String) (line : Int) :
    (isDigitRun piece.text = true ∧ ∃ report,
        (piece.finding ⟨file, true⟩ line).diagnostic.filter (·.code == "W001") = some report ∧
        report.edits =
          [⟨piece.span file line, String.ofList (decimalSpelling piece.text)⟩]) ∨
      (isDigitRun piece.text = false ∧
        (piece.finding ⟨file, true⟩ line).diagnostic.filter (·.code == "W001") = none) := by
  cases digits : isDigitRun piece.text with
  | true =>
      rw [finding_legacy_of_digitRun digits]
      refine .inl ⟨rfl, _, rfl, ?_⟩
      rw [decimalSpelling, String.ofList_append]
      rfl
  | false =>
      refine .inr ⟨rfl, ?_⟩
      have yields := valid.yields ⟨file, false⟩ line
      rw [finding_eq_of_not_digitRun digits]
      generalize piece.finding ⟨file, false⟩ line = found at yields
      cases yields with
      | token _ _ _ => rfl
      | malformed _ _ => rfl
      | unknown _ _ _ => rfl

end Piece

namespace Lexer

variable (file source : String) (line : Int)

/-- The source with the suggestions followed that come with the warnings about digit strings. -/
def withSuggestions : String :=
  let warnings := (ofSource ⟨file, true⟩ source line).run.diagnostics.filter (·.code == "W001")
  applyEdits (warnings.flatMap Diagnostic.edits) line source

theorem edits_run :
    ((ofSource ⟨file, true⟩ source line).run.diagnostics.filter
        (·.code == "W001")).flatMap Diagnostic.edits = decimalEdits file line source.toList := by
  refine flatMap_eq_map_of_forall₂ ?_
  rw [filter_diagnostics_run]
  exact forall₂_filter_filterMap fun piece member =>
    (mem_pieces_iff.mp member).coded_iff file line

theorem pieces_withSuggestions :
    pieces (withSuggestions file source line).toList =
      (pieces source.toList).map (Piece.decimalized file line source.toList) := by
  have edited := (keepsApart_editDigits file line source.toList).pieces_substitute
  rw [List.filter_true] at edited
  rw [withSuggestions, edits_run, applyEdits, String.toList_ofList]
  exact edited

theorem isPieceOf_decimalized {piece : Piece} (member : piece ∈ pieces source.toList) :
    (piece.decimalized file line source.toList).IsPieceOf
      (withSuggestions file source line).toList := by
  rw [← mem_pieces_iff, pieces_withSuggestions]
  exact List.mem_map_of_mem member

/-- The suggestions can be followed all at once. With a point and a zero after each run of
digits no digit string is warned about, the errors are what they were but for their
columns, and the tokens have the values that they have where digit strings are constants. -/
theorem run_withSuggestions :
    (∀ report ∈ (ofSource ⟨file, true⟩ (withSuggestions file source line) line).run.diagnostics,
        report.code ≠ "W001") ∧
      List.Forall₂
        (fun old new => ∃ distance : Int, new = old.mapSpans (Span.moveColumns distance))
        ((ofSource ⟨file, true⟩ source line).run.diagnostics.filter Diagnostic.isError)
        ((ofSource ⟨file, true⟩ (withSuggestions file source line) line).run.diagnostics.filter
          Diagnostic.isError) ∧
      (ofSource ⟨file, true⟩ (withSuggestions file source line) line).run.tokens.map (·.value) =
        (ofSource ⟨file, false⟩ source line).run.tokens.map (·.value) := by
  refine ⟨?_, ?_, ?_⟩
  · intro report member coded
    have unwarned : (ofSource ⟨file, true⟩ (withSuggestions file source line)
        line).run.diagnostics.filter (·.code == "W001") = [] := by
      rw [filter_diagnostics_run, pieces_withSuggestions, List.filterMap_map,
        List.filterMap_eq_nil_iff]
      intro piece member
      -- A second run would warn about runs of digits, but the edits have left none.
      have other := (mem_pieces_iff.mp member).not_isDigitRun_decimalized file line
      rcases (isPieceOf_decimalized file source line member).coded_iff file line with ⟨digits, _⟩ | ⟨_, none⟩
      · rw [other] at digits
        cases digits
      · exact none
    exact List.filter_eq_nil_iff.mp unwarned report member (beq_iff_eq.mpr coded)
  · rw [filter_diagnostics_run, filter_diagnostics_run, pieces_withSuggestions,
      List.filterMap_map]
    exact forall₂_filterMap_filterMap fun piece member =>
      (mem_pieces_iff.mp member).errors_decimalized (isPieceOf_decimalized file source line member)
  · rw [tokens_run, tokens_run, pieces_withSuggestions, List.filterMap_map, List.map_filterMap,
      List.map_filterMap]
    exact List.filterMap_congr fun piece member =>
      (mem_pieces_iff.mp member).value_decimalized (isPieceOf_decimalized file source line member)

example : applyEdits [⟨⟨"f", 1, 1, 1, 2⟩, "12.0"⟩, ⟨⟨"f", 2, 1, 2, 1⟩, "0.0"⟩] 1 "12 + x3\n0" =
    "12.0 + x3\n0.0" := by decide +kernel

end Lexer

end ExprLexer
