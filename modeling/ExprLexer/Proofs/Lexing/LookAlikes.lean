import ExprLexer.Proofs.Lexing.Fixes
import ExprLexer.Proofs.Lexing.Recovery

/-! The operators that are suggested for look-alikes. Put in the place of the character, the
operator is one more token and the error about the character is gone; of everything else only
a word that ends in an exponent mark right before it can tell the difference. -/

set_option autoImplicit false

namespace ExprLexer

/-! ## Edits of one piece -/

theorem editCovered_singleton (edit : Edit) (line : Int) (before : List Char) (char : Char) :
    editCovered [edit] line before char =
      if edit.span.CoversAfter line before then
        if edit.span.StartsAfter line before then edit.replacement.toList else []
      else [char] := by
  rw [editCovered, List.find?_singleton]
  by_cases covers : edit.span.CoversAfter line before <;> simp [covers]

namespace Piece

variable {source : List Char} {piece : Piece}

theorem IsPieceOf.substitute_edit (valid : piece.IsPieceOf source) (file : String) (line : Int)
    (replacement : String) :
    Text.substitute (editCovered [⟨piece.span file line, replacement⟩] line) [] source =
      piece.before ++ replacement.toList ++ piece.after := by
  have outside : ∀ left char right, left ++ char :: right = source →
      ¬piece.Holds left.length →
      editCovered [⟨piece.span file line, replacement⟩] line left char = [char] := by
    intro left char right whole apart
    rw [editCovered_singleton, if_neg (mt (valid.coversAfter_iff whole).mp apart)]
  have first : Text.substitute (editCovered [⟨piece.span file line, replacement⟩] line) []
      piece.before = piece.before.flatMap fun char => [char] := by
    refine Text.substitute_eq_flatMap fun left char right split => ?_
    refine outside left char (right ++ piece.text ++ piece.after) ?_ ?_
    · rw [← valid.whole, split]
      simp
    · rw [Holds, split]
      simp
  have middle : Text.substitute (editCovered [⟨piece.span file line, replacement⟩] line)
      piece.before piece.text = replacement.toList := by
    refine Text.substitute_eq_of_first valid.text_ne_nil fun left char right split => ?_
    rw [editCovered_singleton, if_pos ((valid.coversAfter_within_iff valid split).mpr rfl)]
    exact if_congr (valid.startsAfter_iff split) rfl rfl
  have last : Text.substitute (editCovered [⟨piece.span file line, replacement⟩] line)
      (piece.before ++ piece.text) piece.after = piece.after.flatMap fun char => [char] := by
    refine Text.substitute_eq_flatMap fun left char right split => ?_
    refine outside (piece.before ++ piece.text ++ left) char right ?_ ?_
    · rw [← valid.whole, split, List.append_assoc]
    · rw [Holds, List.length_append, List.length_append]
      omega
  rw [← valid.whole, Text.substitute_append, Text.substitute_append, List.nil_append,
    List.nil_append, first, middle, last, List.flatMap_singleton', List.flatMap_singleton']

end Piece

/-! ## A symbol in its source -/

section Symbol

variable {char other : Char}

/-- A symbol keeps the pieces before it apart from those after it. -/
theorem pieces_append_symbol (notBlank : Text.isBlank char = false)
    (notWord : Lexer.isWordChar char = false) (before after : List Char) :
    pieces (before ++ char :: after) =
      (pieces before).map (Piece.within [] (char :: after)) ++
        ⟨before, [char], after⟩ :: (pieces after).map (Piece.within (before ++ [char]) []) := by
  have seam : Lexer.MeetOutsideWord before (char :: after) :=
    .inr (.inr (.inr ⟨char, rfl, notWord⟩))
  have alone : pieces (char :: after) =
      ⟨[], [char], after⟩ :: (pieces after).map (Piece.within [char] []) := by
    have later := piecesAfter_append_eq_map [char] [] after
    rw [pieces, piecesAfter, if_neg (by simp [notBlank]), if_neg (by simp [notWord])]
    exact congrArg _ later
  rw [pieces_append seam, alone, List.map_cons, List.map_map]
  simp [Piece.within, Function.comp_def]

theorem Location.advance_eq_of_ne (charStays : char ≠ '\n') (otherStays : other ≠ '\n')
    (location : Location) : location.advance other = location.advance char :=
  (advance_space otherStays location).symm.trans (advance_space charStays location)

namespace Piece

variable {before after : List Char}

theorem span_symbol_eq (charStays : char ≠ '\n') (otherStays : other ≠ '\n') (file : String)
    (line : Int) :
    (⟨before, [other], after⟩ : Piece).span file line =
      (⟨before, [char], after⟩ : Piece).span file line := by
  simp only [span, Location.advanceBy_cons, Location.advanceBy_nil,
    Location.advance_eq_of_ne charStays otherStays]

end Piece

def findingsBefore (options : LexerOptions) (line : Int) (rest text : List Char) : List Finding :=
  (pieces text).map fun piece => (piece.within [] rest).finding options line

def findingsAfter (options : LexerOptions) (line : Int) (before text : List Char) : List Finding :=
  (pieces text).map fun piece => (piece.within before []).finding options line

/-- What is found after a character is the same, whichever character it is. -/
theorem findingsAfter_symbol_eq (charStays : char ≠ '\n') (otherStays : other ≠ '\n')
    (options : LexerOptions) (line : Int) (before after : List Char) :
    findingsAfter options line (before ++ [other]) after =
      findingsAfter options line (before ++ [char]) after := by
  refine List.map_congr_left fun piece _ => ?_
  have sameSpan : (piece.within (before ++ [other]) []).span options.file line =
      (piece.within (before ++ [char]) []).span options.file line := by
    simp only [Piece.span, Piece.within, Location.advanceBy_append, Location.advanceBy_cons,
      Location.advanceBy_nil, Location.advance_eq_of_ne charStays otherStays]
  rw [Piece.finding, Piece.finding, sameSpan]
  rfl

end Symbol

/-! ## Places in a run -/

namespace Piece

variable {source : List Char} {piece : Piece} {earlier later : List Piece}
  {options : LexerOptions} {line : Int}

theorem IsPieceOf.span_of_token (valid : piece.IsPieceOf source) {token : Token}
    (found : (piece.finding options line).token = some token) :
    token.spans = [piece.span options.file line] := by
  have yields := valid.yields options line
  generalize piece.finding options line = finding at found yields
  cases yields with
  | token _ _ _ =>
      cases found
      rfl
  | malformed _ _ => cases found
  | unknown _ _ _ => cases found

theorem exists_of_mem_tokens {list : List Piece} {token : Token} {span : Span}
    (valid : ∀ piece ∈ list, piece.IsPieceOf source)
    (member : token ∈ (list.map (finding options line)).filterMap (·.token))
    (covered : span ∈ token.spans) : ∃ piece ∈ list, span = piece.span options.file line := by
  rw [List.filterMap_map] at member
  obtain ⟨piece, listed, found⟩ := List.mem_filterMap.mp member
  rw [(valid piece listed).span_of_token found, List.mem_singleton] at covered
  exact ⟨piece, listed, covered⟩

theorem precedes_of_pieces_eq (split : pieces source = earlier ++ piece :: later)
    (options : LexerOptions) (line : Int) :
    (∀ token ∈ (earlier.map (finding options line)).filterMap (·.token),
        ∀ span ∈ token.spans, span.Precedes (piece.span options.file line)) ∧
      ∀ token ∈ (later.map (finding options line)).filterMap (·.token),
        ∀ span ∈ token.spans, (piece.span options.file line).Precedes span := by
  have valid : ∀ other ∈ earlier ++ piece :: later, other.IsPieceOf source :=
    fun other member => mem_pieces_iff.mp (split ▸ member)
  have self : piece.IsPieceOf source := valid piece (by simp)
  have earlierValid : ∀ other ∈ earlier, other.IsPieceOf source :=
    fun other member => valid other (List.mem_append_left _ member)
  have laterValid : ∀ other ∈ later, other.IsPieceOf source :=
    fun other member => valid other (List.mem_append_right _ (List.mem_cons_of_mem _ member))
  have ordered := (isSplit_pieces source).ordered
  rw [split, List.pairwise_append, List.pairwise_cons] at ordered
  obtain ⟨_, ⟨after, _⟩, before⟩ := ordered
  constructor
  · intro token member span covered
    obtain ⟨other, listed, rfl⟩ := exists_of_mem_tokens earlierValid member covered
    exact (earlierValid other listed).span_precedes self
      (before other listed piece List.mem_cons_self)
  · intro token member span covered
    obtain ⟨other, listed, rfl⟩ := exists_of_mem_tokens laterValid member covered
    exact self.span_precedes (laterValid other listed) (after other listed)

end Piece

/-! ## Operators in the place of characters -/

namespace Operator

theorem symbol_mem_symbols (operator : Operator) : operator.symbol ∈ symbols := by
  cases operator <;> decide

theorem not_isWordChar_symbol (operator : Operator) : Lexer.isWordChar operator.symbol = false :=
  not_isWordChar_of_mem_symbols operator.symbol_mem_symbols

theorem not_isBlank_symbol (operator : Operator) : Text.isBlank operator.symbol = false := by
  cases operator <;> decide

theorem symbol_ne_newline (operator : Operator) : operator.symbol ≠ '\n' := by
  cases operator <;> decide

theorem symbolFinding_symbol (operator : Operator) (span : Span) :
    Lexer.symbolFinding operator.symbol span =
      ⟨some ⟨.operator operator, some span⟩, none⟩ := by
  cases operator <;> rfl

end Operator

/-- How the diagnostics of a text may change with what follows it: not at all, or in that the
last word, which a sign now cuts from its exponent, has the note about signed exponents. -/
inductive GainsNoteAtMost (legacyIntegers : Bool) (file : String) (line : Int)
    (before following : List Char) : List Diagnostic → List Diagnostic → Prop where
  | same {reports : List Diagnostic} :
      GainsNoteAtMost legacyIntegers file line before following reports reports
  | noted {word : Piece} {earlier : List Diagnostic} {report : Diagnostic} :
      word.IsCutAtSeam legacyIntegers before following →
      report.code = "E102" → report.notes = [] → report.spans = [word.span file line] →
      GainsNoteAtMost legacyIntegers file line before following
        (earlier ++ [report]) (earlier ++ [report.withExponentNote])

/-- The text before a character that is no symbol yields the same tokens before an operator,
and the same diagnostics but for a note. -/
theorem findingsBefore_operator {char : Char} (unknown : char ∉ symbols) (operator : Operator)
    (options : LexerOptions) (line : Int) (before after : List Char) :
    (findingsBefore options line (operator.symbol :: after) before).filterMap (·.token) =
      (findingsBefore options line (char :: after) before).filterMap (·.token) ∧
    GainsNoteAtMost options.legacyIntegers options.file line before (operator.symbol :: after)
      ((findingsBefore options line (char :: after) before).filterMap (·.diagnostic))
      ((findingsBefore options line (operator.symbol :: after) before).filterMap
        (·.diagnostic)) := by
  have uncut : ∀ piece : Piece,
      ¬piece.IsCutAtSeam options.legacyIntegers before (char :: after) := by
    intro piece cut
    obtain ⟨sign, rest, starts, plusOrMinus⟩ := cut.exists_sign
    obtain ⟨rfl, _⟩ := List.cons.inj starts
    rcases plusOrMinus with rfl | rfl <;> exact unknown (by decide)
  have old : findingsBefore options line (char :: after) before =
      (pieces before).map (Piece.finding options line) :=
    Piece.findings_within_of_uncut uncut line
  rw [old]
  by_cases exponent : ∃ word : Piece,
      word.IsCutAtSeam options.legacyIntegers before (operator.symbol :: after)
  · obtain ⟨word, cut⟩ := exponent
    obtain ⟨earlier, report, alone, noted, coded, noteless, about⟩ :=
      cut.exists_findings_within line
    rw [findingsBefore, alone, noted]
    simp only [List.filterMap_append, List.filterMap_cons, List.filterMap_nil, true_and]
    exact .noted cut coded noteless about
  · have new : findingsBefore options line (operator.symbol :: after) before =
        (pieces before).map (Piece.finding options line) :=
      Piece.findings_within_of_uncut (fun word cut => exponent ⟨word, cut⟩) line
    rw [new]
    exact ⟨rfl, .same⟩

namespace Lexer

variable {options : LexerOptions} {source : String} {line : Int}

theorem findings_run_symbol {before after : List Char} {char : Char}
    (whole : source.toList = before ++ char :: after) (notBlank : Text.isBlank char = false)
    (notWord : isWordChar char = false) (options : LexerOptions) (line : Int) :
    (ofSource options source line).run.findings =
      findingsBefore options line (char :: after) before ++
        (⟨before, [char], after⟩ : Piece).finding options line ::
          findingsAfter options line (before ++ [char]) after := by
  rw [findings_run, whole, pieces_append_symbol notBlank notWord, List.map_append, List.map_cons,
    List.map_map, List.map_map]
  rfl

theorem findings_run_operator {before after : List Char} {char : Char} {edited : String}
    (valid : (⟨before, [char], after⟩ : Piece).IsPieceOf source.toList)
    (notWord : isWordChar char = false) (unknown : char ∉ symbols) (operator : Operator)
    (replaced : edited.toList = before ++ operator.symbol :: after) :
    let piece : Piece := ⟨before, [char], after⟩
    let span := piece.span options.file line
    ∃ earlier noted later,
      (ofSource options source line).run.findings =
        earlier ++ piece.finding options line :: later ∧
      (ofSource options edited line).run.findings =
        noted ++ ⟨some ⟨.operator operator, some span⟩, none⟩ :: later ∧
      noted.filterMap (·.token) = earlier.filterMap (·.token) ∧
      GainsNoteAtMost options.legacyIntegers options.file line before (operator.symbol :: after)
        (earlier.filterMap (·.diagnostic)) (noted.filterMap (·.diagnostic)) ∧
      (∀ token ∈ earlier.filterMap (·.token), ∀ other ∈ token.spans, other.Precedes span) ∧
      ∀ token ∈ later.filterMap (·.token), ∀ other ∈ token.spans, span.Precedes other := by
  have whole : source.toList = before ++ char :: after := by
    rw [← valid.whole]
    simp
  have notBlank := valid.not_blank List.mem_cons_self
  have stays : char ≠ '\n' := by
    rintro rfl
    exact valid.newline_not_mem List.mem_cons_self
  have inserted : (⟨before, [operator.symbol], after⟩ : Piece).finding options line =
      ⟨some ⟨.operator operator,
        some ((⟨before, [char], after⟩ : Piece).span options.file line)⟩, none⟩ := by
    rw [Piece.finding_symbol operator.not_isWordChar_symbol, operator.symbolFinding_symbol,
      Piece.span_symbol_eq stays operator.symbol_ne_newline]
  have found := findings_run_symbol replaced operator.not_isBlank_symbol
    operator.not_isWordChar_symbol options line
  rw [inserted, findingsAfter_symbol_eq stays operator.symbol_ne_newline] at found
  obtain ⟨sameTokens, gains⟩ := findingsBefore_operator unknown operator options line before after
  obtain ⟨precede, follow⟩ := Piece.precedes_of_pieces_eq
    (pieces_append_symbol notBlank notWord before after) options line
  rw [List.map_map] at precede follow
  exact ⟨_, _, _, findings_run_symbol whole notBlank notWord options line, found, sameTokens,
    gains, precede, follow⟩

theorem exists_lookAlike {report : Diagnostic}
    (reported : report ∈ (ofSource options source line).run.diagnostics)
    (unknown : report.code = "E101") (suggested : report.suggestions ≠ []) :
    ∃ before char after, ∃ operator : Operator,
      (⟨before, [char], after⟩ : Piece).IsPieceOf source.toList ∧
      isWordChar char = false ∧ char ∉ symbols ∧ lookAlike? char = some operator ∧
      (⟨before, [char], after⟩ : Piece).finding options line = ⟨none, some report⟩ ∧
      report.edits = [⟨(⟨before, [char], after⟩ : Piece).span options.file line,
        operator.symbol.toString⟩] := by
  rw [diagnostics, findings_run, List.filterMap_map] at reported
  obtain ⟨⟨before, text, after⟩, member, found⟩ := List.mem_filterMap.mp reported
  have valid := mem_pieces_iff.mp member
  have yields := valid.yields options line
  rw [Function.comp_apply] at found
  generalize whole : (⟨before, text, after⟩ : Piece).finding options line = finding at found yields
  cases yields with
  | token _ _ _ =>
      have other : "W001" ≠ "E101" := by decide
      split at found
      · cases found
        exact absurd unknown other
      · cases found
  | malformed _ _ =>
      have other : "E102" ≠ "E101" := by decide
      cases found
      exact absurd unknown other
  | @unknown char single notSymbol notWord =>
      cases found
      cases alike : lookAlike? char with
      | none => exact absurd (by rw [faultDiagnostic, alike]; rfl) suggested
      | some operator =>
          rw [alike] at whole
          cases single
          exact ⟨before, char, after, operator, valid, notWord, notSymbol, alike, whole, rfl⟩

/-- A suggested operator is a sound replacement of its look-alike. With the one character
replaced there is one more token, of the operator, at the place of the character, and the error
about it is gone. All the other tokens and diagnostics are what they were, in the same order
and at the same places, but that a minus may give the word right before it, if that is refused
and ends in an exponent mark, the note about signed exponents. -/
theorem run_with_operator_for_lookAlike {report : Diagnostic}
    (reported : report ∈ (ofSource options source line).run.diagnostics)
    (unknown : report.code = "E101") (suggested : report.suggestions ≠ []) :
    ∃ before char after operator span,
      source.toList = before ++ char :: after ∧ lookAlike? char = some operator ∧
      span.StartsAfter line before ∧
      report.edits = [⟨span, operator.symbol.toString⟩] ∧
      (applyEdits report.edits line source).toList = before ++ operator.symbol :: after ∧
      (∃ earlier later,
        (ofSource options source line).run.tokens = earlier ++ later ∧
        (ofSource options (applyEdits report.edits line source) line).run.tokens =
          earlier ++ ⟨.operator operator, some span⟩ :: later ∧
        (∀ token ∈ earlier, ∀ other ∈ token.spans, other.Precedes span) ∧
        ∀ token ∈ later, ∀ other ∈ token.spans, span.Precedes other) ∧
      ∃ earlier noted later,
        (ofSource options source line).run.diagnostics = earlier ++ report :: later ∧
        (ofSource options (applyEdits report.edits line source) line).run.diagnostics =
          noted ++ later ∧
        GainsNoteAtMost options.legacyIntegers options.file line before
          (operator.symbol :: after) earlier noted := by
  obtain ⟨before, char, after, operator, valid, notWord, notSymbol, alike, alone, edits⟩ :=
    exists_lookAlike reported unknown suggested
  have edited : (applyEdits report.edits line source).toList =
      before ++ operator.symbol :: after := by
    rw [edits, applyEdits, String.toList_ofList, valid.substitute_edit]
    simp
  have first : ((⟨before, [char], after⟩ : Piece).span options.file line).StartsAfter line
      (before ++ []) :=
    (valid.startsAfter_iff rfl).mpr rfl
  rw [List.append_nil] at first
  obtain ⟨earlier, noted, later, old, new, sameTokens, gains, precede, follow⟩ :=
    findings_run_operator valid notWord notSymbol operator edited
  rw [alone] at old
  refine ⟨before, char, after, operator, _, ?_, alike, first, edits, edited,
    ⟨earlier.filterMap (·.token), later.filterMap (·.token), ?_, ?_, precede, follow⟩,
    earlier.filterMap (·.diagnostic), noted.filterMap (·.diagnostic),
    later.filterMap (·.diagnostic), ?_, ?_, gains⟩
  · rw [← valid.whole]
    simp
  · rw [tokens, old, List.filterMap_append]
    rfl
  · rw [tokens, new, List.filterMap_append, sameTokens]
    rfl
  · rw [diagnostics, old, List.filterMap_append]
    rfl
  · rw [diagnostics, new, List.filterMap_append]
    rfl

/-- A minus sign after a literal with an exponent mark is taken for an operator once it is one. -/
theorem run_with_operator_for_minus_sign :
    let report := faultDiagnostic (.unknownOperator "\u2212") ⟨"f", 1, 4, 1, 4⟩ "not an operator"
      [operatorNote] [⟨"use the ASCII operator", "-"⟩]
    report ∈ (ofSource ⟨"f", false⟩ "1.e\u22122" 1).run.diagnostics ∧
      report.code = "E101" ∧ report.suggestions ≠ [] ∧
      ∃ earlier later operator, (ofSource ⟨"f", false⟩ "1.e-2" 1).run.tokens =
        earlier ++ ⟨.operator operator, some ⟨"f", 1, 4, 1, 4⟩⟩ :: later := by
  intro report
  have reported : report ∈ (ofSource ⟨"f", false⟩ "1.e\u22122" 1).run.diagnostics := by
    decide +kernel
  have suggested : report.suggestions ≠ [] := List.cons_ne_nil _ _
  have edited : applyEdits report.edits 1 "1.e\u22122" = "1.e-2" := by decide +kernel
  obtain ⟨_, _, _, operator, span, _, _, _, edits, _, ⟨earlier, later, _, inserted, _⟩, _⟩ :=
    run_with_operator_for_lookAlike reported rfl suggested
  have place : ⟨"f", 1, 4, 1, 4⟩ = span := (Edit.mk.inj (List.cons.inj edits).1).1
  rw [edited, ← place] at inserted
  exact ⟨reported, rfl, suggested, earlier, later, operator, inserted⟩

end Lexer

end ExprLexer
