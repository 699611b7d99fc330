import ExprLexer.Proofs.CommandLine.Checking
import ExprLexer.Proofs.Lexing.ShownLines

/-! Checking goes line by line. What is reported on a line depends on nothing but its
text and its number, so that no other line can add to it, hide it or move it. -/

set_option autoImplicit false

namespace ExprLexer

theorem Diagnostic.render_congr {palette : Palette} {lineAt? otherLineAt? : Span → Option String}
    {diagnostic : Diagnostic}
    (same : ∀ span ∈ diagnostic.spans, lineAt? span = otherLineAt? span) :
    diagnostic.render palette lineAt? = diagnostic.render palette otherLineAt? := by
  have labels : (diagnostic.labels.flatMap fun label =>
        labelRows palette (palette.severity diagnostic.severity) label (lineAt? label.span)) =
      diagnostic.labels.flatMap fun label =>
        labelRows palette (palette.severity diagnostic.severity) label
          (otherLineAt? label.span) := by
    rw [List.flatMap_def, List.flatMap_def]
    congr 1
    exact List.map_congr_left fun label member => by
      rw [same label.span (List.mem_map_of_mem member)]
  simp only [render, rows, labels]

namespace SourceFile

variable {source : SourceFile} {line : String} {number : Nat}

theorem lineAt?_of_mem (numbered : (line, number) ∈ source.lines.zipIdx 1) :
    source.lineAt? number = some line := by
  obtain ⟨above, found⟩ := List.mk_mem_zipIdx_iff_le_and_getElem?_sub.mp numbered
  have offset : ((number : Int) - 1).toNat = number - 1 := by omega
  rw [lineAt?, if_pos (by omega), offset, found]

theorem lineFeed_not_mem_of_mem_lines (member : line ∈ source.lines) :
    '\n' ∉ line.toList := by
  obtain ⟨chars, listed, rfl⟩ := List.mem_map.mp member
  rw [String.toList_ofList]
  intro feed
  have inside := Text.not_isLineBreak_of_mem_splitLines listed '\n' feed
  exact absurd inside (by decide)

end SourceFile

namespace Piece

variable {source : SourceFile} {piece : Piece} {line : String} {number : Nat}

theorem IsPieceOf.lineFeed_not_mem_before (valid : piece.IsPieceOf line.toList)
    (within : '\n' ∉ line.toList) : '\n' ∉ piece.before := by
  intro member
  rw [← valid.whole] at within
  simp [member] at within

theorem IsPieceOf.startLine_of_line (valid : piece.IsPieceOf line.toList)
    (within : '\n' ∉ line.toList) (file : String) (number : Int) :
    (piece.span file number).startLine = number := by
  rw [valid.span_eq]
  simp [List.count_eq_zero.mpr (valid.lineFeed_not_mem_before within)]

/-- The line that is shown for a piece is its own, and the piece is what is marked there. -/
theorem IsPieceOf.shownText?_of_line (valid : piece.IsPieceOf line.toList)
    (numbered : (line, number) ∈ source.lines.zipIdx 1) (renderer : Renderer) :
    (renderer.addSource source).shownText? (piece.span source.name number) = some piece.text := by
  have within := SourceFile.lineFeed_not_mem_of_mem_lines (List.fst_mem_of_mem_zipIdx numbered)
  have fresh : Text.lastLine piece.before = piece.before :=
    @Text.lastLine_append [] piece.before (valid.lineFeed_not_mem_before within)
  have cut := valid.cutColumns_eq source.name number piece.after
  rw [fresh, ← List.append_assoc, valid.whole] at cut
  rw [Renderer.shownText?, Renderer.lineAt?_addSource renderer source rfl,
    valid.startLine_of_line within, SourceFile.lineAt?_of_mem numbered, Option.map_some, cut]

end Piece

theorem Lexer.exists_piece_of_mem_diagnostics {options : LexerOptions} {source : String}
    {line : Int} {diagnostic : Diagnostic}
    (member : diagnostic ∈ (ofSource options source line).run.diagnostics) :
    ∃ piece : Piece, piece.IsPieceOf source.toList ∧
      diagnostic.spans = [piece.span options.file line] := by
  rw [diagnostics, findings_run, List.filterMap_map] at member
  obtain ⟨piece, listed, reported⟩ := List.mem_filterMap.mp member
  have valid := mem_pieces_iff.mp listed
  exact ⟨piece, valid, (valid.yields options line).diagnostic_spans reported⟩

namespace CommandLine

variable {source : SourceFile} {settings : Settings} {line : String} {number : Nat}

/-! ## One line -/

/-- What is reported on a line, from nothing but its text and its number. -/
def lineReport (name : String) (settings : Settings) (line : String) (number : Nat) : String :=
  asLines ((lexLine ⟨name, line⟩ settings line number).diagnostics.map
    (Diagnostic.render (Palette.ofColor settings.color) fun _ => some line))

/-- The diagnostics of a line tell of its reported pieces, in order, and mark them in the
line that is shown for them. -/
theorem diagnostics_lexLine (numbered : (line, number) ∈ source.lines.zipIdx 1)
    (settings : Settings) (renderer : Renderer) :
    List.Forall₂
      (fun piece diagnostic => Piece.TellsOf settings.legacyIntegers piece diagnostic ∧
        diagnostic.Shows (renderer.addSource source) piece.text)
      ((pieces line.toList).filter (Piece.isReported settings.legacyIntegers))
      (lexLine source settings line number).diagnostics := by
  have each := Lexer.diagnostics_run ⟨source.name, settings.legacyIntegers⟩ line number
  refine Piece.forall₂_imp_of_isPieceOf each ?_
  intro piece diagnostic valid both
  obtain ⟨told, single⟩ := both
  exact ⟨told, _, single, valid.shownText?_of_line numbered renderer⟩

theorem report_lexLine (numbered : (line, number) ∈ source.lines.zipIdx 1)
    (settings : Settings) :
    report settings source (lexLine source settings line number).diagnostics =
      lineReport source.name settings line number := by
  have within := SourceFile.lineFeed_not_mem_of_mem_lines (List.fst_mem_of_mem_zipIdx numbered)
  rw [report, lineReport]
  congr 1
  apply List.map_congr_left
  intro diagnostic member
  apply Diagnostic.render_congr
  intro span listed
  obtain ⟨piece, valid, single⟩ := Lexer.exists_piece_of_mem_diagnostics member
  rw [single, List.mem_singleton] at listed
  subst listed
  rw [Renderer.lineAt?_addSource _ source rfl, valid.startLine_of_line within,
    SourceFile.lineAt?_of_mem numbered]

/-! ## All lines -/

def lineReports (name : String) (settings : Settings) (lines : List String) (number : Nat) :
    String :=
  String.join ((lines.zipIdx number).map fun (line, number) =>
    lineReport name settings line number)

theorem lineReports_append (name : String) (settings : Settings) (lines others : List String)
    (number : Nat) :
    lineReports name settings (lines ++ others) number =
      lineReports name settings lines number ++
        lineReports name settings others (number + lines.length) := by
  rw [lineReports, List.zipIdx_append, List.map_append, String.join_append]
  rfl

theorem lineReports_cons (name : String) (settings : Settings) (line : String)
    (lines : List String) (number : Nat) :
    lineReports name settings (line :: lines) number =
      lineReport name settings line number ++
        lineReports name settings lines (number + 1) := by
  rw [lineReports, List.zipIdx_cons, List.map_cons, String.join_cons]
  rfl

theorem lineReports_nil (name : String) (settings : Settings) (number : Nat) :
    lineReports name settings [] number = "" := by
  simp [lineReports]

theorem lineReport_of_blank (blank : Text.isBlankText line = true) (name : String)
    (settings : Settings) (number : Nat) : lineReport name settings line number = "" := by
  rw [lineReport, diagnostics_lexLine_of_blank blank]
  simp [asLines]

theorem report_flatMap {α : Type} (found : α → List Diagnostic) (values : List α) :
    report settings source (values.flatMap found) =
      String.join (values.map fun value => report settings source (found value)) := by
  induction values with
  | nil => simp [report, asLines]
  | cons value values ih =>
      rw [List.flatMap_cons, List.map_cons, String.join_cons, ← ih]
      simp only [report, asLines, List.map_append, String.join_append]

theorem stderr_checkSource (source : SourceFile) (settings : Settings) :
    (checkSource source settings).stderr =
      String.join ((source.lines.zipIdx 1).map fun (line, number) =>
        report settings source (lexLine source settings line number).diagnostics) := by
  have reported := congrArg Prod.snd (verdict_checkSource source settings)
  have skipped : ∀ entry : String × Nat, (!Text.isBlankText entry.1) = false →
      (lexLine source settings entry.1 entry.2).diagnostics = [] :=
    fun entry blank => diagnostics_lexLine_of_blank (by simpa using blank) entry.2
  rw [verdictOf, checkedLines, flatMap_filter_of_nil skipped, report_flatMap] at reported
  exact reported

theorem stderr_checkSource_eq_lineReports (source : SourceFile) (settings : Settings) :
    (checkSource source settings).stderr = lineReports source.name settings source.lines 1 := by
  rw [stderr_checkSource, lineReports]
  congr 1
  exact List.map_congr_left fun entry numbered => report_lexLine numbered settings

theorem lexLine_of_not_checked (numbered : (line, number) ∈ source.lines.zipIdx 1)
    (skipped : (line, number) ∉ checkedLines source) (settings : Settings) :
    (lexLine source settings line number).tokens = [] ∧
      (lexLine source settings line number).diagnostics = [] := by
  have blank : Text.isBlankText line = true := by
    by_contra ink
    exact skipped (List.mem_filter.mpr ⟨numbered, by simpa using ink⟩)
  have nothing : (lexLine source settings line number).findings = [] :=
    Lexer.findings_run_of_blank number blank
  rw [Lexer.tokens, Lexer.diagnostics, nothing]
  exact ⟨rfl, rfl⟩

theorem length_checkedLines (source : SourceFile) :
    (checkedLines source).length =
      (source.lines.filter fun line => !Text.isBlankText line).length := by
  have kept : (checkedLines source).map Prod.fst =
      source.lines.filter fun line => !Text.isBlankText line := by
    have numbered := List.filter_map (f := Prod.fst)
      (p := fun line => !Text.isBlankText line) (l := source.lines.zipIdx 1)
    rw [List.zipIdx_map_fst] at numbered
    rw [numbered]
    rfl
  rw [← kept, List.length_map]

theorem any_isError_checkedLines (source : SourceFile) (settings : Settings) :
    (((checkedLines source).map fun (line, number) =>
        lexLine source settings line number).flatMap Lexer.diagnostics).any Diagnostic.isError =
          true ↔
      ∃ entry ∈ source.lines.zipIdx 1, (lexLine source settings entry.1 entry.2).IsRefused := by
  have skipped : ∀ entry : String × Nat, (!Text.isBlankText entry.1) = false →
      (lexLine source settings entry.1 entry.2).diagnostics = [] :=
    fun entry blank => diagnostics_lexLine_of_blank (by simpa using blank) entry.2
  rw [List.flatMap_map, checkedLines, flatMap_filter_of_nil skipped, List.any_flatMap]
  simp only [List.any_eq_true, Lexer.isRefused_iff]

/-! ## One line replaced -/

section Replacement

variable {before after : List Char}

/-- A line that stands between whole lines and a line break, or the end of the text, has
its report between theirs. -/
theorem lineReports_splitLines (ended : Text.EndsLine before)
    (closed : ∀ next ∈ after.head?, Text.isLineBreak next = true)
    (single : '\r' ∉ before ++ after) {line : List Char}
    (unbroken : ∀ char ∈ line, Text.isLineBreak char = false) (name : String)
    (settings : Settings) :
    lineReports name settings ((Text.splitLines (before ++ (line ++ after))).map String.ofList) 1 =
      lineReports name settings ((Text.splitLines before).map String.ofList) 1 ++
        lineReport name settings (String.ofList line) (1 + (Text.splitLines before).length) ++
        lineReports name settings ((Text.splitLines after.tail).map String.ofList)
          (2 + (Text.splitLines before).length) := by
  obtain ⟨beforeSingle, afterSingle⟩ : '\r' ∉ before ∧ '\r' ∉ after := by simpa using single
  rw [Text.splitLines_append_of_endsLine ended beforeSingle, List.map_append, lineReports_append,
    List.length_map, String.append_assoc]
  congr 1
  cases after with
  | nil =>
      rw [List.append_nil, List.tail_nil, Text.splitLines, List.map_nil, lineReports_nil,
        String.append_empty]
      by_cases empty : line = []
      · rw [empty, Text.splitLines, List.map_nil, lineReports_nil, lineReport_of_blank rfl]
      · rw [Text.splitLines_of_unbroken empty unbroken, List.map_singleton, lineReports_cons,
          lineReports_nil, String.append_empty]
  | cons next after =>
      have notCarriage : next ≠ '\r' := by
        intro same
        simp [same] at afterSingle
      rw [Text.splitLines_append_cons unbroken (closed next rfl)
        fun _ carriage _ => notCarriage carriage, List.map_cons, lineReports_cons]
      have later : 1 + (Text.splitLines before).length + 1 =
          2 + (Text.splitLines before).length := by
        omega
      rw [later]
      rfl

end Replacement

/-! ## Runs -/

variable {host : Host} {tree : FileTree} {directory : AbsolutePath} {arguments : List String}
  {path : String} {flags : Flags} {configured : Settings}

theorem carriageReturn_not_mem_of_readInput (read : readInput tree directory path = .ok source) :
    '\r' ∉ source.content.toList := by
  obtain ⟨bytes, _, decoded⟩ := content_of_readInput read
  obtain ⟨text, _, normal⟩ := Option.map_eq_some_iff.mp decoded
  rw [← normal, String.toList_ofList]
  exact Text.carriageReturn_not_mem_normalizeNewlines text.toList

theorem run_check (asked : host.read arguments = .ok (.check path flags))
    (read : readInput tree directory path = .ok source)
    (valid : Settings.resolve tree directory (some path) = .ok configured) :
    host.run tree directory arguments =
      .ok (checkSource source (effectiveSettings flags configured)) := by
  rw [Host.run_of_read asked, runCommand_of_ok (.check path flags) rfl valid, carryOut, read]
  rfl

/-- Checking a file writes what each line by itself reports, at its number and in order;
every diagnostic marks what it is about in its own line. The run fails, without output,
exactly when a line by itself is refused, and otherwise counts the lines that are not
blank; a line that is skipped yields nothing. So another line in the place of one changes
nothing but its own part of the report. -/
theorem run_check_line_by_line
    (asked : host.read arguments = .ok (.check path flags))
    (read : readInput tree directory path = .ok source)
    (valid : Settings.resolve tree directory (some path) = .ok configured) :
    let settings := effectiveSettings flags configured
    let numbered := source.lines.zipIdx 1
    let lexed (entry : String × Nat) := lexLine source settings entry.1 entry.2
    ∃ outcome, host.run tree directory arguments = .ok outcome ∧
      outcome.stderr =
        String.join (numbered.map fun entry => report settings source (lexed entry).diagnostics) ∧
      (∀ entry ∈ numbered,
        report settings source (lexed entry).diagnostics =
            lineReport source.name settings entry.1 entry.2 ∧
          List.Forall₂
            (fun piece diagnostic => Piece.TellsOf settings.legacyIntegers piece diagnostic ∧
              diagnostic.Shows ((Renderer.ofColor settings.color).addSource source) piece.text)
            ((pieces entry.1.toList).filter (Piece.isReported settings.legacyIntegers))
            (lexed entry).diagnostics) ∧
      ((∃ entry ∈ numbered, (lexed entry).IsRefused) →
        outcome.exitCode = 1 ∧ outcome.stdout = "") ∧
      ((∀ entry ∈ numbered, ¬(lexed entry).IsRefused) →
        outcome.exitCode = 0 ∧ outcome.stdout =
          let count := (source.lines.filter fun line => !Text.isBlankText line).length
          asLine s!"checked {count} expression(s), no errors") ∧
      (∀ entry ∈ numbered, entry ∉ checkedLines source →
        (lexed entry).tokens = [] ∧ (lexed entry).diagnostics = []) ∧
      ∀ before line after, source.content = String.ofList (before ++ (line ++ after)) →
        Text.EndsLine before → (∀ next ∈ after.head?, Text.isLineBreak next = true) →
        let earlier := SourceFile.lines ⟨source.name, String.ofList before⟩
        let later := SourceFile.lines ⟨source.name, String.ofList after.tail⟩
        ∀ other : List Char, (∀ char ∈ other, Text.isLineBreak char = false) →
          ∀ otherTree : FileTree,
          readInput otherTree directory path =
            .ok ⟨source.name, String.ofList (before ++ (other ++ after))⟩ →
          Settings.resolve otherTree directory (some path) = .ok configured →
          ∃ otherOutcome, host.run otherTree directory arguments = .ok otherOutcome ∧
            otherOutcome.stderr =
              lineReports source.name settings earlier 1 ++
                lineReport source.name settings (String.ofList other) (1 + earlier.length) ++
                lineReports source.name settings later (2 + earlier.length) := by
  intro settings numbered lexed
  refine ⟨_, run_check asked read valid, stderr_checkSource source settings, ?_, ?_, ?_, ?_, ?_⟩
  · intro entry member
    exact ⟨report_lexLine member settings, diagnostics_lexLine member settings _⟩
  · intro refused
    have errors := (any_isError_checkedLines source settings).mpr refused
    simp only [checkSource, settings] at errors ⊢
    rw [if_pos errors]
    exact ⟨rfl, rfl⟩
  · intro accepted
    have faultless := mt (any_isError_checkedLines source settings).mp (by simpa using accepted)
    simp only [checkSource, settings] at faultless ⊢
    rw [if_neg faultless, List.length_map, length_checkedLines]
    exact ⟨rfl, rfl⟩
  · intro entry member skipped
    exact lexLine_of_not_checked member skipped settings
  · intro before line after whole ended closed earlier later other unbroken otherTree otherRead
      otherValid
    refine ⟨_, run_check asked otherRead otherValid, ?_⟩
    have single := carriageReturn_not_mem_of_readInput read
    rw [whole, String.toList_ofList] at single
    have reports := lineReports_splitLines ended closed (by simp_all) unbroken source.name settings
    rw [stderr_checkSource_eq_lineReports]
    simpa only [SourceFile.lines, String.toList_ofList, List.length_map, earlier, later]
      using reports

theorem run_check_line_by_line_refused :
    let tree := FileTree.empty.writeFile ["a"] "x $\n\n2\n".toUTF8
    readInput tree [] "a" = .ok ⟨"a", "x $\n\n2\n"⟩ ∧
      Settings.resolve tree [] (some "a") = .ok {} ∧
      ∃ outcome, run tree [] ["check", "a", "--no-color"] = .ok outcome ∧
        outcome.exitCode = 1 ∧ outcome.stdout = "" := by
  intro tree
  have decoded : decodeFileText? "x $\n\n2\n".toUTF8 = some "x $\n\n2\n" := by
    decide +kernel
  have read : readInput tree [] "a" = .ok ⟨"a", "x $\n\n2\n"⟩ := by
    have found : tree.lookup [] "a" = .ok (.file "x $\n\n2\n".toUTF8) := rfl
    simp only [readInput, found, decoded]
    rfl
  have resolved : Settings.resolve tree [] (some "a") = .ok {} := rfl
  have asked : Host.own.read ["check", "a", "--no-color"] =
      .ok (.check "a" { noColor := true }) := rfl
  refine ⟨read, resolved, ?_⟩
  obtain ⟨outcome, ran, _, _, refused, _⟩ := run_check_line_by_line asked read resolved
  refine ⟨outcome, ran, refused ⟨("x $", 1), by decide +kernel, ?_⟩⟩
  rw [Lexer.isRefused_iff]
  decide +kernel

end CommandLine

end ExprLexer
