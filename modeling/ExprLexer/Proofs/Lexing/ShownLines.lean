import ExprLexer.Proofs.Lexing.Spans
import ExprLexer.Proofs.Text.LineBreaks
import ExprLexer.Renderer

/-! The lines that are shown for diagnostics. The lexer numbers lines by line feeds
and a source file by every line break, so a shown line is the right one as long as
no break without a line feed comes before it. -/

set_option autoImplicit false

namespace ExprLexer

namespace Renderer

/-- The line shown for a span, cut to the columns that are marked. -/
def shownText? (renderer : Renderer) (span : Span) : Option (List Char) :=
  (renderer.lineAt? span).map fun line =>
    Text.cutColumns line.toList span.startColumn span.endColumn

theorem source?_addSource (renderer : Renderer) (source : SourceFile) :
    (renderer.addSource source).source? source.name = some source := by
  simp [source?, addSource]

theorem lineAt?_addSource (renderer : Renderer) (source : SourceFile) {span : Span}
    (same : span.file = source.name) :
    (renderer.addSource source).lineAt? span = source.lineAt? span.startLine := by
  rw [lineAt?, same, source?_addSource, Option.bind_some]

end Renderer

/-- A diagnostic has one span, and the text marked in the line shown for it is the given one. -/
def Diagnostic.Shows (renderer : Renderer) (diagnostic : Diagnostic) (text : List Char) : Prop :=
  ∃ span, diagnostic.spans = [span] ∧ renderer.shownText? span = some text

namespace SourceFile

theorem lineAt?_ofList {name : String} {content : List Char} {index : Nat} :
    (⟨name, String.ofList content⟩ : SourceFile).lineAt? (1 + (index : Int)) =
      ((Text.splitLines content)[index]?).map String.ofList := by
  have above : (1 : Int) ≤ 1 + index := by omega
  have offset : (1 + (index : Int) - 1).toNat = index := by omega
  rw [lineAt?, if_pos above, offset, lines, String.toList_ofList, List.getElem?_map]

end SourceFile

namespace Piece

variable {source before : List Char} {piece : Piece} {file : String}

theorem IsPieceOf.not_isLineBreak (valid : piece.IsPieceOf source) {char : Char}
    (member : char ∈ piece.text) : Text.isLineBreak char = false := by
  cases ending : Text.isLineBreak char with
  | false => rfl
  | true =>
      have blank := Text.isBlank_of_isLineBreak ending
      rw [valid.not_blank member] at blank
      cases blank

theorem IsPieceOf.opensWithin (valid : piece.IsPieceOf source) :
    Text.OpensWithin (piece.text ++ piece.after) := by
  cases text : piece.text with
  | nil => exact absurd text valid.text_ne_nil
  | cons char rest => exact ⟨char, rfl, valid.not_isLineBreak (text ▸ List.mem_cons_self)⟩

theorem IsPieceOf.lineAt?_countBreaks (valid : piece.IsPieceOf source) (file : String) :
    ∃ right, (⟨file, String.ofList source⟩ : SourceFile).lineAt?
        (1 + (Text.countBreaks piece.before : Nat)) =
      some (String.ofList (Text.openLine piece.before ++ (piece.text ++ right))) := by
  have inside : ∀ char ∈ piece.text, (!Text.isLineBreak char) = true := fun char member => by
    simp [valid.not_isLineBreak member]
  have line := Text.getElem?_splitLines_countBreaks valid.opensWithin piece.before
  rw [← List.append_assoc, valid.whole, List.takeWhile_append_of_pos inside] at line
  rw [SourceFile.lineAt?_ofList, line]
  exact ⟨_, rfl⟩

/-- Without a lone break before it, a piece is what is marked in the line shown for its span. -/
theorem IsPieceOf.shownText?_eq (valid : piece.IsPieceOf source) (file : String)
    (renderer : Renderer) (paired : Text.hasLoneBreak piece.before = false) :
    (renderer.addSource ⟨file, String.ofList source⟩).shownText? (piece.span file 1) =
      some piece.text := by
  obtain ⟨right, line⟩ := valid.lineAt?_countBreaks file
  rw [← (Text.count_newline_eq_countBreaks_iff _).mpr paired,
    Text.openLine_eq_lastLine paired] at line
  have start : (piece.span file 1).startLine = 1 + (piece.before.count '\n' : Nat) := by
    rw [valid.span_eq]
  rw [Renderer.shownText?, Renderer.lineAt?_addSource _ _ rfl, start, line, Option.map_some,
    String.toList_ofList, valid.cutColumns_eq]

/-- After a lone break, the line shown for a piece has ended before the piece starts. -/
theorem IsPieceOf.startLine_lt (valid : piece.IsPieceOf source) (file : String)
    (lone : Text.hasLoneBreak piece.before = true) :
    (piece.span file 1).startLine < 1 + (Text.countBreaks piece.before : Nat) := by
  have fewer := Text.count_newline_le_countBreaks piece.before
  have differ := mt (Text.count_newline_eq_countBreaks_iff piece.before).mp (by simp [lone])
  rw [valid.span_eq]
  dsimp only
  omega

theorem IsPieceOf.shownText?_of_lone (valid : piece.IsPieceOf source) (file : String)
    (renderer : Renderer) (lone : Text.hasLoneBreak piece.before = true) :
    (renderer.addSource ⟨file, String.ofList source⟩).shownText? (piece.span file 1) =
      ((Text.splitLines piece.before)[piece.before.count '\n']?).map fun line =>
        Text.cutColumns line ((Text.lastLine piece.before).length + 1)
          ((Text.lastLine piece.before).length + piece.text.length) := by
  have ended : piece.before.count '\n' < Text.countBreaks piece.before := by
    have earlier := valid.startLine_lt file lone
    rw [valid.span_eq] at earlier
    dsimp only at earlier
    omega
  have line := Text.getElem?_splitLines_of_lt valid.opensWithin ended
  rw [← List.append_assoc, valid.whole] at line
  rw [Renderer.shownText?, Renderer.lineAt?_addSource _ _ rfl, valid.span_eq]
  dsimp only
  rw [SourceFile.lineAt?_ofList, line, Option.map_map]
  simp only [Function.comp_def, String.toList_ofList]

def isReported (legacyIntegers : Bool) (piece : Piece) : Bool :=
  piece.isRejected legacyIntegers || piece.isDigitVariable legacyIntegers

/-- The error or the warning about a piece. -/
def TellsOf (legacyIntegers : Bool) (piece : Piece) (diagnostic : Diagnostic) : Prop :=
  ReportedBy legacyIntegers piece diagnostic ∨ WarnedBy piece diagnostic

theorem Yields.reports {options : LexerOptions} {line : Int} {found : Finding}
    (yields : Yields options line piece found) :
    (piece.isReported options.legacyIntegers = true ∧
        ∃ report, found.diagnostic = some report ∧
          TellsOf options.legacyIntegers piece report) ∨
      (piece.isReported options.legacyIntegers = false ∧ found.diagnostic = none) := by
  have errors := yields.reported
  have warnings := yields.warned
  cases reported : found.diagnostic with
  | none =>
      rw [reported] at errors warnings
      rcases errors with ⟨_, _, nothing, _⟩ | ⟨accepted, _⟩
      · cases nothing
      · rcases warnings with ⟨_, _, nothing, _⟩ | ⟨plain, _⟩
        · cases nothing
        · exact .inr ⟨by simp [isReported, accepted, plain], rfl⟩
  | some report =>
      rw [reported, Option.filter_some] at errors warnings
      left
      cases severe : report.isError with
      | true =>
          rw [severe] at errors
          rcases errors with ⟨rejected, same, present, told⟩ | ⟨_, nothing⟩
          · cases present
            exact ⟨by simp [isReported, rejected], report, rfl, .inl told⟩
          · cases nothing
      | false =>
          rw [severe] at warnings
          rcases warnings with ⟨digits, same, present, told⟩ | ⟨_, nothing⟩
          · cases present
            exact ⟨by simp [isReported, digits], report, rfl, .inr told⟩
          · cases nothing

end Piece

namespace Lexer

theorem diagnostics_run (options : LexerOptions) (source : String) (line : Int) :
    List.Forall₂
      (fun piece report => Piece.TellsOf options.legacyIntegers piece report ∧
        report.spans = [piece.span options.file line])
      ((pieces source.toList).filter (Piece.isReported options.legacyIntegers))
      (ofSource options source line).run.diagnostics := by
  rw [diagnostics, findings_run, List.filterMap_map]
  refine forall₂_filter_filterMap fun piece member => ?_
  have yields := (mem_pieces_iff.mp member).yields options line
  rcases yields.reports with ⟨reported, report, present, told⟩ | dropped
  · exact .inl ⟨reported, report, present, told, yields.diagnostic_spans present⟩
  · exact .inr dropped

theorem diagnostic_spans_run_all (options : LexerOptions) (source : String) (line : Int) :
    List.Forall₂ (fun piece report => Diagnostic.spans report = [piece.span options.file line])
      ((pieces source.toList).filter (Piece.isReported options.legacyIntegers))
      (ofSource options source line).run.diagnostics :=
  (diagnostics_run options source line).imp fun _ _ both => both.2

/-- A character that is no piece of anything is reported where it stands. -/
theorem exists_report_of_not_mem_symbols (options : LexerOptions) (before : List Char) {char : Char}
    (notBlank : Text.isBlank char = false) (notWord : isWordChar char = false)
    (absent : char ∉ symbols) :
    ∃ report ∈ (ofSource options (String.ofList (before ++ [char])) 1).run.diagnostics,
      Piece.ReportedBy options.legacyIntegers ⟨before, [char], []⟩ report ∧
        report.spans = [Piece.span options.file 1 ⟨before, [char], []⟩] := by
  have valid : Piece.IsPieceOf (before ++ [char]) ⟨before, [char], []⟩ :=
    Piece.isPieceOf_symbol notBlank notWord
  have yields := valid.yields options 1
  have rejected : Piece.isRejected options.legacyIntegers ⟨before, [char], []⟩ = true := by
    simp [Piece.isRejected, Piece.token?, Piece.isOffered, notWord, absent]
  rcases yields.reported with ⟨_, report, found, about⟩ | ⟨accepted, _⟩
  · have present := (Option.filter_eq_some_iff.mp found).1
    refine ⟨report, ?_, about, yields.diagnostic_spans present⟩
    rw [diagnostics, findings_run, String.toList_ofList, List.filterMap_map]
    exact List.mem_filterMap.mpr ⟨_, mem_pieces_iff.mpr valid, present⟩
  · rw [rejected] at accepted
    cases accepted

/-- The line shown after a lone break is the same whatever comes next, so that it
cannot show two different characters. -/
theorem exists_report_not_shows (color legacyIntegers : Bool) (file : String)
    {before : List Char} (lone : Text.hasLoneBreak before = true) :
    ∃ char,
      let source := String.ofList (before ++ [char])
      ∃ report ∈ (ofSource ⟨file, legacyIntegers⟩ source 1).run.diagnostics,
        Piece.ReportedBy legacyIntegers ⟨before, [char], []⟩ report ∧
          ¬report.Shows ((Renderer.ofColor color).addSource ⟨file, source⟩) [char] := by
  have reported : ∀ char ∈ ['@', '$'],
      Text.isBlank char = false ∧ isWordChar char = false ∧ char ∉ symbols := by
    intro char member
    simp only [List.mem_cons, List.not_mem_nil, or_false] at member
    rcases member with rfl | rfl
    · exact ⟨by decide, by decide +kernel, by decide⟩
    · exact ⟨by decide, by decide +kernel, by decide⟩
  have shown : ∀ char ∈ ['@', '$'],
      ((Renderer.ofColor color).addSource ⟨file, String.ofList (before ++ [char])⟩).shownText?
          (Piece.span file 1 ⟨before, [char], []⟩) =
        ((Text.splitLines before)[before.count '\n']?).map fun line =>
          Text.cutColumns line ((Text.lastLine before).length + 1)
            ((Text.lastLine before).length + 1) := by
    intro char member
    obtain ⟨notBlank, notWord, _⟩ := reported char member
    exact (Piece.isPieceOf_symbol notBlank notWord).shownText?_of_lone file _ lone
  generalize ((Text.splitLines before)[before.count '\n']?).map _ = marked at shown
  obtain ⟨char, member, differs⟩ : ∃ char ∈ ['@', '$'], marked ≠ some [char] := by
    by_cases first : marked = some ['@']
    · exact ⟨'$', by decide, by rw [first]; decide⟩
    · exact ⟨'@', by decide, first⟩
  obtain ⟨notBlank, notWord, absent⟩ := reported char member
  obtain ⟨report, found, about, single⟩ := exists_report_of_not_mem_symbols
    ⟨file, legacyIntegers⟩ before notBlank notWord absent
  refine ⟨char, report, found, about, ?_⟩
  intro shows
  obtain ⟨span, same, marks⟩ := shows
  rw [single, List.cons.injEq] at same
  obtain ⟨rfl, _⟩ := same
  rw [shown char member] at marks
  exact differs marks

/-- What a diagnostic is about is what is marked in the line shown for it, unless a
lone break comes before; the line shown has then ended too early. After every text
with a lone break some character is reported that is not shown. -/
theorem run_shows_lexemes_until_lone_break (color legacyIntegers : Bool) (file : String) :
    (∀ source : String,
      List.Forall₂
        (fun piece report =>
          (Text.hasLoneBreak piece.before = false → report.Shows
            ((Renderer.ofColor color).addSource ⟨file, source⟩) piece.text) ∧
          (Text.hasLoneBreak piece.before = true → ∀ span ∈ report.spans,
            span.startLine < 1 + (Text.countBreaks piece.before : Int)))
        ((pieces source.toList).filter (Piece.isReported legacyIntegers))
        (ofSource ⟨file, legacyIntegers⟩ source 1).run.diagnostics) ∧
    ∀ before, Text.hasLoneBreak before = true → ∃ char,
      let source := String.ofList (before ++ [char])
      ∃ report ∈ (ofSource ⟨file, legacyIntegers⟩ source 1).run.diagnostics,
        Piece.ReportedBy legacyIntegers ⟨before, [char], []⟩ report ∧
          ¬report.Shows ((Renderer.ofColor color).addSource ⟨file, source⟩) [char] := by
  constructor
  · intro source
    have each := diagnostic_spans_run_all ⟨file, legacyIntegers⟩ source 1
    refine Piece.forall₂_imp_of_isPieceOf each ?_
    intro piece report valid single
    constructor
    · intro paired
      have shown := valid.shownText?_eq file (Renderer.ofColor color) paired
      rw [String.ofList_toList] at shown
      exact ⟨_, single, shown⟩
    · intro lone span member
      rw [single, List.mem_singleton] at member
      rw [member]
      exact valid.startLine_lt _ lone
  · intro before lone
    exact exists_report_not_shows color legacyIntegers file lone

/-- A form feed makes the lexer and the source file count differently: the line before
the offending character is shown for it. -/
theorem shown_line_after_form_feed :
    let renderer := (Renderer.ofColor false).addSource ⟨"<stdin>", "a\x0cb\n@"⟩
    ∃ report ∈ (ofSource ⟨"<stdin>", false⟩ "a\x0cb\n@" 1).run.diagnostics,
      Piece.ReportedBy false ⟨['a', '\x0c', 'b', '\n'], ['@'], []⟩ report ∧
        report.spans = [⟨"<stdin>", 2, 1, 2, 1⟩] ∧
        renderer.shownText? ⟨"<stdin>", 2, 1, 2, 1⟩ = some ['b'] ∧
        ¬report.Shows renderer ['@'] := by
  obtain ⟨report, found, about, single⟩ :=
    exists_report_of_not_mem_symbols ⟨"<stdin>", false⟩ ['a', '\x0c', 'b', '\n']
      (show Text.isBlank '@' = false by decide) (by decide +kernel) (by decide)
  have place : report.spans = [⟨"<stdin>", 2, 1, 2, 1⟩] := single
  refine ⟨report, found, about, place, by decide +kernel, ?_⟩
  intro shows
  obtain ⟨span, same, marks⟩ := shows
  rw [place, List.cons.injEq] at same
  obtain ⟨rfl, _⟩ := same
  revert marks
  decide +kernel

end Lexer

end ExprLexer
