import ExprLexer.Proofs.Renderer.Carets
import ExprLexer.Proofs.Text.Quoting

/-! The frame of a rendered diagnostic. A source reaches it only in quotes and in the one
line that is shown, so that no text of a source can add a row, end one, or take one away. -/

set_option autoImplicit false

namespace ExprLexer

/-! ## Rows -/

namespace Diagnostic

variable {diagnostic : Diagnostic} {label : Label} {lineAt? : Span → Option String}
  {line : String}

theorem forall_mem_texts {test : String → Prop} (labels : diagnostic.labels = [label]) :
    (∀ text ∈ diagnostic.texts, test text) ↔
      test diagnostic.code ∧ test diagnostic.message ∧ test label.span.file ∧
        test label.message ∧ (∀ note ∈ diagnostic.notes, test note) ∧
        ∀ suggestion ∈ diagnostic.suggestions,
          test suggestion.message ∧ test suggestion.replacement := by
  simp only [texts, labels, List.forall_mem_cons, List.forall_mem_append,
    List.forall_mem_flatMap, List.not_mem_nil, IsEmpty.forall_iff, implies_true,
    and_true, and_assoc]

/-- What the row of carets has after its frame. -/
def caretText (label : Label) : String :=
  let carets := repeated ' ' (label.span.startColumn - 1)
    ++ repeated '^' (max 1 (label.span.endColumn - label.span.startColumn + 1))
  if label.message = "" then carets else carets ++ " " ++ label.message

def framedRows (diagnostic : Diagnostic) (label : Label) (line : String) : List String :=
  [diagnostic.severity.word ++ "[" ++ diagnostic.code ++ "]: " ++ diagnostic.message,
    "  --> " ++ label.span.display,
    "       |",
    gutter Palette.plain (toString label.span.startLine) ++ " " ++ line,
    "       | " ++ caretText label]
  ++ diagnostic.notes.map ("  = note: " ++ ·)
  ++ diagnostic.suggestions.map fun suggestion =>
      "  = help: " ++ suggestion.message ++ ": `" ++ suggestion.replacement ++ "`"

theorem length_framedRows (diagnostic : Diagnostic) (label : Label) (line : String) :
    (framedRows diagnostic label line).length =
      5 + diagnostic.notes.length + diagnostic.suggestions.length := by
  simp only [framedRows, List.length_append, List.length_map, List.length_cons, List.length_nil]

theorem remarkRow_note (note : String) :
    remarkRow Palette.plain ("note: " ++ note) = "  = note: " ++ note := by
  show "  = " ++ ("note: " ++ note) = "  = note: " ++ note
  rw [← String.append_assoc]
  rfl

theorem remarkRow_suggestion (suggestion : Suggestion) :
    remarkRow Palette.plain s!"help: {suggestion.message}: `{suggestion.replacement}`" =
      "  = help: " ++ suggestion.message ++ ": `" ++ suggestion.replacement ++ "`" := by
  have opening : "  = help: " = "  = " ++ "help: " := rfl
  show "  = " ++ ("help: " ++ suggestion.message ++ ": `" ++ suggestion.replacement ++ "`") = _
  rw [opening]
  simp only [String.append_assoc]

theorem markerRows_plain (oneLine : label.span.startLine = label.span.endLine) :
    markerRows Palette.plain "" label = ["       | " ++ caretText label] := by
  have frame : gutter Palette.plain "" ++ " " = "       | " := rfl
  simp only [markerRows, oneLine, if_true, paint_plain, frame, caretText]
  split
  · rw [String.append_empty]
  · simp only [String.append_assoc]

theorem labelRows_plain (oneLine : label.span.startLine = label.span.endLine) :
    labelRows Palette.plain "" label (some line) =
      ["  --> " ++ label.span.display, "       |",
        gutter Palette.plain (toString label.span.startLine) ++ " " ++ line,
        "       | " ++ caretText label] := by
  have arrow : "  " ++ Palette.plain.paint Palette.plain.frame "-->" ++ " " = "  --> " := rfl
  have empty : gutter Palette.plain "" = "       |" := rfl
  rw [labelRows, markerRows_plain oneLine, arrow, empty]
  rfl

theorem header_plain (diagnostic : Diagnostic) :
    Palette.plain.paint "" (diagnostic.severity.word ++ "[" ++ diagnostic.code ++ "]") ++
        Palette.plain.paint Palette.plain.bold (": " ++ diagnostic.message) =
      diagnostic.severity.word ++ "[" ++ diagnostic.code ++ "]: " ++ diagnostic.message := by
  have bold : Palette.plain.bold = "" := rfl
  have joined : "]: " = "]" ++ ": " := rfl
  rw [bold, paint_plain, paint_plain, joined]
  simp only [String.append_assoc]

theorem rows_eq_framedRows (labels : diagnostic.labels = [label])
    (oneLine : label.span.startLine = label.span.endLine)
    (found : lineAt? label.span = some line) :
    rows Palette.plain lineAt? diagnostic = framedRows diagnostic label line := by
  have noCode : Palette.plain.severity diagnostic.severity = "" := by
    cases diagnostic.severity <;> rfl
  simp only [rows, noCode, header_plain, labels, List.flatMap_cons, List.flatMap_nil,
    List.append_nil, found, labelRows_plain oneLine, framedRows, remarkRow_note,
    remarkRow_suggestion, List.cons_append, List.nil_append]

theorem ne_nil_of_mem_framedRows {row : String} (listed : row ∈ framedRows diagnostic label line) :
    row.toList ≠ [] := by
  simp only [framedRows, List.mem_append, List.mem_cons, List.mem_map, List.not_mem_nil,
    or_false] at listed
  rcases listed with ((rfl | rfl | rfl | rfl | rfl) | ⟨note, _, rfl⟩) | ⟨suggestion, _, rfl⟩ <;>
    simp

theorem splitLines_render (labels : diagnostic.labels = [label])
    (oneLine : label.span.startLine = label.span.endLine)
    (found : lineAt? label.span = some line)
    (texts : ∀ text ∈ diagnostic.texts, Text.IsOneLine text.toList)
    (shown : Text.IsOneLine line.toList) :
    (Text.splitLines (diagnostic.render Palette.plain lineAt?).toList).map String.ofList =
      framedRows diagnostic label line := by
  have foreign {char : Char} (ending : Text.isLineBreak char = true) :
      Text.isPlain char = false := by
    have each : (['\n', '\r', '\x0b', '\x0c', '\x1c', '\x1d', '\x1e', '\u0085', '\u2028',
        '\u2029'].all fun char => !Text.isPlain char) = true := by decide
    simpa using List.all_eq_true.mp each char (List.contains_iff_mem.mp ending)
  have unbroken : ∀ row ∈ rows Palette.plain lineAt? diagnostic, Text.IsOneLine row.toList := by
    intro row listed char member
    by_contra ending
    have ending : Text.isLineBreak char = true := by simpa using ending
    refine not_mem_rows (foreign ending) (fun text given contains => ?_)
      (fun text given contains => ?_) row listed member
    · have inside := texts text given char contains
      rw [ending] at inside
      cases inside
    · have same : diagnostic.shownLines lineAt? = [line] := by
        simp [shownLines, labels, found]
      rw [same, List.mem_singleton] at given
      have inside := shown char (given ▸ contains)
      rw [ending] at inside
      cases inside
  have feed : ("\n" : String).toList = ['\n'] := rfl
  rw [rows_eq_framedRows labels oneLine found] at unbroken
  rw [render, rows_eq_framedRows labels oneLine found, String.toList_intercalate, feed,
    Text.splitLines_intercalate]
  · simp
  · intro row listed
    obtain ⟨text, given, rfl⟩ := List.mem_map.mp listed
    exact unbroken text given
  · intro row last
    obtain ⟨text, given, rfl⟩ := List.mem_map.mp (List.mem_of_getLast? last)
    exact ne_nil_of_mem_framedRows given

end Diagnostic

/-! ## Texts of diagnostics -/

namespace Piece

variable {source : List Char} {options : LexerOptions} {line : Int} {piece : Piece}
  {found : Finding} {diagnostic : Diagnostic}

theorem Yields.isPrintable_message (yields : Yields options line piece found)
    (member : diagnostic ∈ found.diagnostic) : Text.IsPrintable diagnostic.message.toList := by
  have quoted (opening : String) (ascii : opening.toList.all Text.asciiTable.contains = true) :
      Text.IsPrintable (opening ++ Text.quote (String.ofList piece.text)).toList := by
    rw [String.toList_append]
    exact (Text.isPrintable_of_all_ascii ascii).append (Text.isPrintable_quote _)
  cases yields with
  | token _ _ _ =>
      split at member
      · cases member
        rw [Lexer.digitStringWarning, String.toList_append]
        exact (quoted "digit string " (by decide)).append
          (Text.isPrintable_of_all_ascii (by decide))
      · cases member
  | malformed _ _ =>
      cases member
      exact quoted "malformed numeric literal " (by decide)
  | unknown _ _ _ =>
      cases member
      exact quoted "invalid operator symbol " (by decide)

/-- No text of a diagnostic goes over lines, unless the name of its file does. -/
theorem Yields.isOneLine_texts (yields : Yields options line piece found)
    (valid : piece.IsPieceOf source) (file : Text.IsOneLine options.file.toList)
    (member : diagnostic ∈ found.diagnostic) :
    ∀ text ∈ diagnostic.texts, Text.IsOneLine text.toList := by
  have message := (yields.isPrintable_message member).isOneLine
  have literal (text : String) (ascii : text.toList.all Text.asciiTable.contains = true) :
      Text.IsOneLine text.toList := Text.isOneLine_of_all_ascii ascii
  cases yields with
  | token _ _ _ =>
      split at member
      · cases member
        have replacement : Text.IsOneLine (String.ofList piece.text ++ ".0").toList := by
          rw [String.toList_append, String.toList_ofList]
          exact Text.IsOneLine.append (fun _ inside => valid.not_isLineBreak inside)
            (literal ".0" (by decide))
        refine (Diagnostic.forall_mem_texts rfl).mpr ?_
        exact ⟨literal "W001" (by decide), message, file, literal "" (by decide),
          List.forall_mem_singleton.mpr (literal "legacy integer mode is enabled" (by decide)),
          List.forall_mem_singleton.mpr
            ⟨literal "write a decimal constant" (by decide), replacement⟩⟩
      · cases member
  | malformed _ _ =>
      cases member
      refine (Diagnostic.forall_mem_texts rfl).mpr ?_
      refine ⟨literal "E102" (by decide), message, file, literal "not a number" (by decide), ?_,
        List.forall_mem_nil _⟩
      intro note noted
      simp only [Lexer.faultDiagnostic] at noted
      split at noted
      · rw [List.mem_singleton.mp noted]
        exact literal Lexer.exponentNote (by decide)
      · cases noted
  | @unknown char _ _ _ =>
      cases member
      refine (Diagnostic.forall_mem_texts rfl).mpr ?_
      refine ⟨literal "E101" (by decide), message, file, literal "not an operator" (by decide),
        List.forall_mem_singleton.mpr (literal Lexer.operatorNote (by decide)), ?_⟩
      intro suggestion suggested
      obtain ⟨operator, _, rfl⟩ := List.mem_map.mp suggested
      refine ⟨literal "use the ASCII operator" (by decide), ?_⟩
      cases operator <;> exact literal _ (by decide)

/-- The line with the number of a piece is in the source file, although the lexer and the
source file may not mean the same line by it. -/
theorem IsPieceOf.exists_lineAt? (valid : piece.IsPieceOf source) (file : String) :
    ∃ line, (⟨file, String.ofList source⟩ : SourceFile).lineAt? (piece.span file 1).startLine =
      some line ∧ Text.IsOneLine line.toList := by
  have start : (piece.span file 1).startLine = 1 + (piece.before.count '\n' : Nat) := by
    rw [valid.span_eq]
  have own := Text.getElem?_splitLines_countBreaks valid.opensWithin piece.before
  rw [← List.append_assoc, valid.whole] at own
  obtain ⟨counted, _⟩ := List.getElem?_eq_some_iff.mp own
  have within : piece.before.count '\n' < (Text.splitLines source).length :=
    Nat.lt_of_le_of_lt (Text.count_newline_le_countBreaks piece.before) counted
  refine ⟨String.ofList (Text.splitLines source)[piece.before.count '\n'], ?_, ?_⟩
  · rw [start, SourceFile.lineAt?_ofList, List.getElem?_eq_getElem within, Option.map_some]
  · rw [String.toList_ofList]
    exact Text.not_isLineBreak_of_mem_splitLines (List.getElem_mem within)

end Piece

namespace Lexer

/-- A source cannot break the frame of what is reported on it. Every message is printable,
and a plain rendering is, line by line, the header, the place, an empty row, the line with
the number of the place, which is never missing, the row of carets, and then every note and
every suggestion in a row of its own. -/
theorem run_keeps_frame (source : SourceFile) (legacyIntegers : Bool) (tree : FileTree)
    (directory : AbsolutePath) (named : Text.IsOneLine source.name.toList) :
    let renderer := (Renderer.ofColor false).addSource source
    ∀ diagnostic ∈ (ofSource ⟨source.name, legacyIntegers⟩ source.content 1).run.diagnostics,
      Text.IsPrintable diagnostic.message.toList ∧
        ∃ rendered label line,
          (renderer.render tree directory diagnostic).1 = .ok rendered ∧
            diagnostic.labels = [label] ∧ label.span.file = source.name ∧
            source.lineAt? label.span.startLine = some line ∧
            let lines := (Text.splitLines rendered.toList).map String.ofList
            lines = diagnostic.framedRows label line ∧
              lines.length = 5 + diagnostic.notes.length + diagnostic.suggestions.length := by
  intro renderer diagnostic member
  rw [diagnostics, findings_run, List.filterMap_map] at member
  obtain ⟨piece, listed, reported⟩ := List.mem_filterMap.mp member
  have valid := mem_pieces_iff.mp listed
  have yields := valid.yields ⟨source.name, legacyIntegers⟩ 1
  obtain ⟨message, _, labels⟩ := yields.diagnostic_label reported
  obtain ⟨line, shown, oneLine⟩ := valid.exists_lineAt? source.name
  rw [String.ofList_toList] at shown
  have found : renderer.lineAt? (piece.span source.name 1) = some line :=
    (Renderer.lineAt?_addSource _ source rfl).trans shown
  have rendered := Renderer.render_of_known tree directory labels
    (Renderer.source?_addSource (Renderer.ofColor false) source)
  have lines := Diagnostic.splitLines_render labels (by rw [valid.span_eq]) found
    (yields.isOneLine_texts valid named reported) oneLine
  refine ⟨yields.isPrintable_message reported, _, _, line, rendered, labels, rfl, shown, lines, ?_⟩
  exact (congrArg List.length lines).trans (Diagnostic.length_framedRows ..)

/-- A character that shows nothing, on the second line of its source file but the first of
the lexer: the empty first line is shown, and the character only in its written form. -/
theorem run_keeps_frame_zero_width_space :
    let source : SourceFile := ⟨"<stdin>", "\u2028\u200b"⟩
    let renderer := (Renderer.ofColor false).addSource source
    Text.IsOneLine source.name.toList ∧
      ∃ diagnostic rendered,
        (ofSource ⟨source.name, false⟩ source.content 1).run.diagnostics = [diagnostic] ∧
          (renderer.render FileTree.empty [] diagnostic).1 = .ok rendered ∧
          (Text.splitLines rendered.toList).map String.ofList =
            ["error[E101]: invalid operator symbol '\\u200b'", "  --> <stdin>:1:2", "       |",
              "     1 | ", "       |  ^ not an operator",
              "  = note: supported operators are + - * / % ^"] := by
  intro source renderer
  have named : Text.IsOneLine source.name.toList := by decide +kernel
  have reported : (ofSource ⟨source.name, false⟩ source.content 1).run.diagnostics =
      [faultDiagnostic (.unknownOperator "\u200b") ⟨"<stdin>", 1, 2, 1, 2⟩ "not an operator"
        [operatorNote] []] := by
    decide +kernel
  have each := run_keeps_frame source false FileTree.empty [] named
  rw [reported] at each
  obtain ⟨_, rendered, label, line, ran, labels, _, shown, lines, _⟩ :=
    each _ (List.mem_singleton_self _)
  obtain rfl : label = ⟨⟨"<stdin>", 1, 2, 1, 2⟩, "not an operator"⟩ :=
    (List.head_eq_of_cons_eq labels).symm
  have empty : source.lineAt? 1 = some "" := by decide +kernel
  obtain rfl : line = "" := Option.some.inj (shown.symm.trans empty)
  refine ⟨named, _, rendered, reported, ran, lines.trans ?_⟩
  decide +kernel

end Lexer

end ExprLexer
