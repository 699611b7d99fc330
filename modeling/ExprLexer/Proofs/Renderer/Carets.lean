import ExprLexer.Proofs.Lexing.ShownLines
import ExprLexer.Proofs.Renderer.Rows

/-! Where carets stand. The row of carets has the frame of an empty number, which is as
wide as that of any number of up to four digits. From there on the source line goes further
to the right with every digit, and the carets do not follow. -/

set_option autoImplicit false

namespace ExprLexer

def IsBare (text : List Char) : Prop := '\n' ∉ text ∧ '^' ∉ text

instance (text : List Char) : Decidable (IsBare text) := inferInstanceAs (Decidable (_ ∧ _))

theorem IsBare.append {left right : String} (first : IsBare left.toList)
    (second : IsBare right.toList) : IsBare (left ++ right).toList :=
  ⟨Diagnostic.not_mem_append first.1 second.1, Diagnostic.not_mem_append first.2 second.2⟩

/-- A place where a text shows a row and, right under it, a row with one run of carets. -/
structure CaretRow (rendered : List Char) where
  above : List Char
  shown : List Char
  left : List Char
  count : Nat
  right : List Char
  below : List Char
  whole : rendered = above ++ '\n' ::
    (shown ++ '\n' :: (left ++ (List.replicate count '^' ++ (right ++ below))))
  rows : '\n' ∉ shown ++ (left ++ right)
  single : '^' ∉ left ++ right
  ends : ∀ next ∈ below.head?, next = '\n'

namespace CaretRow

theorem intercalate_append (first next : List Char) (rows others : List (List Char)) :
    ['\n'].intercalate (first :: rows ++ next :: others) =
      ['\n'].intercalate (first :: rows) ++ '\n' :: ['\n'].intercalate (next :: others) := by
  induction rows generalizing first with
  | nil => simp
  | cons row rows ih =>
      rw [List.cons_append, List.cons_append, List.intercalate_cons_cons, ← List.cons_append, ih,
        List.intercalate_cons_cons, List.append_assoc _ (['\n'].intercalate _)]

theorem exists_intercalate_cons (row : List Char) (rows : List (List Char)) :
    ∃ below, ['\n'].intercalate (row :: rows) = row ++ below ∧
      ∀ next ∈ below.head?, next = '\n' := by
  cases rows with
  | nil => exact ⟨[], by simp, by simp⟩
  | cons next rows =>
      refine ⟨'\n' :: ['\n'].intercalate (next :: rows), by simp, ?_⟩
      simp

/-- Rows joined have the carets of one of them under the row before it. -/
theorem exists_of_rows (first shown left right : String) (above below : List String)
    (count : Nat) (unbroken : '\n' ∉ shown.toList)
    (leftBare : IsBare left.toList) (rightBare : IsBare right.toList) :
    ∃ row : CaretRow ("\n".intercalate (first :: above ++ shown ::
        (left ++ String.ofList (List.replicate count '^') ++ right) :: below)).toList,
      row.shown = shown.toList ∧ row.left = left.toList ∧ row.count = count := by
  obtain ⟨rest, last, ends⟩ := exists_intercalate_cons
    (left.toList ++ (List.replicate count '^' ++ right.toList)) (below.map String.toList)
  have feed : ("\n" : String).toList = ['\n'] := rfl
  refine ⟨{
    above := ['\n'].intercalate ((first :: above).map String.toList)
    shown := shown.toList
    left := left.toList
    count
    right := right.toList
    below := rest
    whole := ?_
    rows := ?_
    single := ?_
    ends }, rfl, rfl, rfl⟩
  · rw [String.toList_intercalate, feed, List.map_append, List.map_cons, List.map_cons,
      List.map_cons, intercalate_append, List.intercalate_cons_cons, String.toList_append,
      String.toList_append, String.toList_ofList, List.append_assoc left.toList, last]
    simp only [List.append_assoc, List.singleton_append]
  · simp only [List.mem_append, not_or]
    exact ⟨unbroken, leftBare.1, rightBare.1⟩
  · simp only [List.mem_append, not_or]
    exact ⟨leftBare.2, rightBare.2⟩

end CaretRow

namespace Diagnostic

theorem paint_plain (text : String) : Palette.plain.paint "" text = text := by
  simp [Palette.paint, Palette.plain]

theorem exists_rows {diagnostic : Diagnostic} {label : Label} {lineAt? : Span → Option String}
    {line : String} (labels : diagnostic.labels = [label])
    (oneLine : label.span.endLine = label.span.startLine) (found : lineAt? label.span = some line) :
    ∃ header place remarks suffix,
      rows Palette.plain lineAt? diagnostic =
        header :: place :: gutter Palette.plain "" ::
          (gutter Palette.plain (toString label.span.startLine) ++ " " ++ line) ::
          (gutter Palette.plain "" ++ " " ++ (repeated ' ' (label.span.startColumn - 1) ++
            repeated '^' (max 1 (label.span.endColumn - label.span.startColumn + 1))) ++ suffix) ::
          remarks ∧
        (suffix = "" ∨ suffix = " " ++ label.message) := by
  have noCode : Palette.plain.severity diagnostic.severity = "" := by
    cases diagnostic.severity <;> rfl
  simp only [rows, labels, List.flatMap_cons, List.flatMap_nil, List.append_nil, labelRows, found,
    markerRows, noCode, oneLine, if_true, paint_plain, Option.map_some, Option.toList_some,
    List.cons_append, List.nil_append]
  refine ⟨_, _, _, _, rfl, ?_⟩
  split
  · exact .inl rfl
  · exact .inr rfl

theorem length_gutter (text : String) :
    (gutter Palette.plain text).toList.length = 4 + max 4 text.length := by
  have plain : gutter Palette.plain text = "  " ++ (repeated ' ' (4 - text.length) ++ text ++ " |") :=
    congrArg ("  " ++ ·) (paint_plain _)
  have shorter : (4 - (text.length : Int)).toNat = 4 - text.length := by omega
  simp only [plain, repeated, String.toList_append, String.toList_ofList, List.length_append,
    List.length_replicate, shorter, String.length_toList]
  have indent : ("  " : String).length = 2 := rfl
  have bar : (" |" : String).length = 2 := rfl
  omega

theorem exists_caretRow {diagnostic : Diagnostic} {label : Label} {lineAt? : Span → Option String}
    {line : String} (labels : diagnostic.labels = [label])
    (oneLine : label.span.endLine = label.span.startLine) (found : lineAt? label.span = some line)
    (unbroken : '\n' ∉ line.toList) (bare : IsBare label.message.toList) :
    ∃ row : CaretRow (diagnostic.render Palette.plain lineAt?).toList,
      row.shown = (gutter Palette.plain (toString label.span.startLine) ++ " " ++ line).toList ∧
        row.left.length = 9 + (label.span.startColumn - 1).toNat ∧
        row.count = (max 1 (label.span.endColumn - label.span.startColumn + 1)).toNat := by
  obtain ⟨header, place, remarks, suffix, each, tail⟩ := exists_rows labels oneLine found
  have foreign : Text.isPlain '\n' = false := by decide
  have shownRow : '\n' ∉
      (gutter Palette.plain (toString label.span.startLine) ++ " " ++ line).toList :=
    not_mem_append (not_mem_append (not_mem_gutter foreign (not_mem_toString foreign _))
      (not_mem_of_isPlain foreign (by decide))) unbroken
  have leftBare : IsBare
      (gutter Palette.plain "" ++ " " ++ repeated ' ' (label.span.startColumn - 1)).toList := by
    refine IsBare.append (by decide) ?_
    rw [repeated, String.toList_ofList]
    constructor <;> simp
  have suffixBare : IsBare suffix.toList := by
    rcases tail with rfl | rfl
    · decide
    · exact IsBare.append (by decide) bare
  obtain ⟨row, shown, left, count⟩ := CaretRow.exists_of_rows header _ _ suffix
    [place, gutter Palette.plain ""] remarks
    (max 1 (label.span.endColumn - label.span.startColumn + 1)).toNat
    shownRow leftBare suffixBare
  have same : diagnostic.render Palette.plain lineAt? = _ := congrArg ("\n".intercalate) each
  rw [same, ← String.append_assoc]
  refine ⟨row, shown, ?_, count⟩
  have width := length_gutter ""
  have empty : ("" : String).length = 0 := rfl
  have space : (" " : String).toList.length = 1 := rfl
  simp only [left, repeated, String.toList_append, String.toList_ofList, List.length_append,
    List.length_replicate, width, empty, space]
  omega

end Diagnostic

/-- The width of the frame is that of the number from five digits on. -/
theorem length_toString_le_iff {number : Int} (positive : 1 ≤ number) :
    (toString number).length ≤ 4 ↔ number < 10000 := by
  obtain ⟨natural, rfl⟩ := Int.eq_ofNat_of_zero_le (by omega : 0 ≤ number)
  have digits : (toString (natural : Int)).length = (Nat.toDigits 10 natural).length := by
    rw [← String.length_toList]
    exact congrArg List.length (Nat.toList_repr ..)
  rw [digits, Nat.length_toDigits_le_iff (by decide) (by decide)]
  omega

namespace Piece

variable {options : LexerOptions} {line : Int} {piece : Piece} {found : Finding}

theorem Yields.diagnostic_label (yields : Yields options line piece found)
    {diagnostic : Diagnostic} (member : diagnostic ∈ found.diagnostic) :
    ∃ message ∈ ["", "not an operator", "not a number"],
      diagnostic.labels = [⟨piece.span options.file line, message⟩] := by
  cases yields with
  | token _ _ _ =>
      split at member
      · cases member
        exact ⟨"", by decide, rfl⟩
      · cases member
  | malformed _ _ =>
      cases member
      exact ⟨"not a number", by decide, rfl⟩
  | unknown _ _ _ =>
      cases member
      exact ⟨"not an operator", by decide, rfl⟩

theorem IsPieceOf.segment_eq {source : List Char} (valid : piece.IsPieceOf source) {file : String}
    {segment : List Char}
    (found : (source.splitOn '\n')[((piece.span file line).startLine - line).toNat]? =
      some segment) :
    segment = Text.lastLine piece.before ++
      (piece.text ++ piece.after.takeWhile (· != '\n')) := by
  have within : ∀ char ∈ piece.text, (char != '\n') = true := fun char member => by
    simpa using ne_of_mem_of_not_mem member valid.newline_not_mem
  have index : ((piece.span file line).startLine - line).toNat = piece.before.count '\n' := by
    rw [valid.span_eq]
    dsimp only
    omega
  have there := Text.getElem?_splitOn_newline piece.before (piece.text ++ piece.after)
  rw [← List.append_assoc, valid.whole, List.takeWhile_append_of_pos within] at there
  rw [index, there] at found
  exact (Option.some.inj found).symm

end Piece

namespace Lexer

theorem diagnostic_labels_run (options : LexerOptions) (source : String) (line : Int) :
    List.Forall₂
      (fun piece report => ∃ message ∈ ["", "not an operator", "not a number"],
        report.labels = [⟨Piece.span options.file line piece, message⟩])
      ((pieces source.toList).filter (Piece.isReported options.legacyIntegers))
      (ofSource options source line).run.diagnostics := by
  rw [diagnostics, findings_run, List.filterMap_map]
  refine forall₂_filter_filterMap fun piece member => ?_
  have yields := (mem_pieces_iff.mp member).yields options line
  rcases yields.reports with ⟨reported, report, present, _⟩ | dropped
  · exact .inl ⟨reported, report, present, yields.diagnostic_label present⟩
  · exact .inr dropped

end Lexer

/-! ## Offsets -/

theorem SourceFile.positive_of_lineAt? {source : SourceFile} {number : Int} {line : String}
    (found : source.lineAt? number = some line) : 1 ≤ number := by
  by_contra low
  rw [lineAt?, if_neg low] at found
  cases found

theorem Renderer.render_of_known {renderer : Renderer} {diagnostic : Diagnostic} {label : Label}
    {source : SourceFile} (tree : FileTree) (directory : AbsolutePath)
    (labels : diagnostic.labels = [label])
    (known : renderer.source? label.span.file = some source) :
    (renderer.render tree directory diagnostic).1 = .ok (renderer.renderKnown diagnostic) := by
  simp only [render, labels, consultAll, consult, known, renderKnown]

section Offsets

variable {piece : Piece} {file : String} {line : Int} {segment : List Char}
  {diagnostic : Diagnostic} {message : String}

/-- The carets of a piece are as many as it has characters, and stand to its left by every
digit of the line number beyond the fourth. -/
theorem Piece.IsPieceOf.exists_caretRow {source : List Char} (valid : piece.IsPieceOf source)
    (labels : diagnostic.labels = [⟨piece.span file line, message⟩])
    (listed : message ∈ ["", "not an operator", "not a number"])
    {lineAt? : Span → Option String}
    (found : lineAt? (piece.span file line) = some (String.ofList
      (Text.lastLine piece.before ++ (piece.text ++ piece.after.takeWhile (· != '\n'))))) :
    let number := toString (piece.span file line).startLine
    let frame := (Diagnostic.gutter Palette.plain number ++ " ").toList
    ∃ row : CaretRow (diagnostic.render Palette.plain lineAt?).toList,
      row.shown = frame ++ (Text.lastLine piece.before ++
          (piece.text ++ piece.after.takeWhile (· != '\n'))) ∧
        row.count = piece.text.length ∧
        (frame ++ Text.lastLine piece.before).length = row.left.length + (number.length - 4) := by
  intro number frame
  have unbroken : '\n' ∉ Text.lastLine piece.before ++
      (piece.text ++ piece.after.takeWhile (· != '\n')) := by
    simp only [List.mem_append, not_or]
    refine ⟨fun member => ?_, valid.newline_not_mem, fun member => ?_⟩
    · exact absurd (List.mem_rtakeWhile_imp member) (by decide)
    · exact absurd (List.mem_takeWhile_imp member) (by decide)
  have bare : IsBare message.toList := by
    simp only [List.mem_cons, List.not_mem_nil, or_false] at listed
    rcases listed with rfl | rfl | rfl <;> decide
  obtain ⟨row, shown, left, count⟩ := Diagnostic.exists_caretRow labels (by rw [valid.span_eq])
    found (by rwa [String.toList_ofList]) bare
  have nonempty := List.length_pos_iff.mpr valid.text_ne_nil
  refine ⟨row, ?_, ?_, ?_⟩
  · rw [shown, String.toList_append, String.toList_ofList]
  · rw [count, valid.span_eq]
    dsimp only
    omega
  · have width := Diagnostic.length_gutter number
    have space : (" " : String).toList.length = 1 := rfl
    have start : (piece.span file line).startColumn - 1 = (Text.lastLine piece.before).length := by
      rw [valid.span_eq]
      dsimp only
      omega
    have wide : frame.length = 4 + max 4 number.length + 1 := by
      rw [← width, ← space, ← List.length_append, ← String.toList_append]
    rw [left, start, List.length_append, wide]
    omega

end Offsets

namespace Lexer

/-- A plain rendering of what is reported for a piece shows the line of the piece and has
carets in the row under it, as many as the piece has characters. They stand under the piece
exactly as long as the line number has no more than four digits: the row of the line moves
to the right with every further digit, and the row of carets does not. -/
theorem run_carets_under_lexemes_up_to_line_9999 (options : LexerOptions) (source : String)
    (line : Int) (tree : FileTree) (directory : AbsolutePath) {renderer : Renderer}
    {registered : SourceFile} (plain : renderer.palette = Palette.plain)
    (known : renderer.source? options.file = some registered) :
    List.Forall₂
      (fun (piece : Piece) (report : Diagnostic) => ∀ span ∈ report.spans, ∀ segment,
        (source.toList.splitOn '\n')[(span.startLine - line).toNat]? = some segment →
        registered.lineAt? span.startLine = some (String.ofList segment) →
        let number := toString span.startLine
        let frame := (Diagnostic.gutter Palette.plain number ++ " ").toList
        ∃ rendered, (renderer.render tree directory report).1 = .ok rendered ∧
          ∃ (row : CaretRow rendered.toList) (before after : List Char),
            segment = before ++ (piece.text ++ after) ∧
              span.startColumn = (before.length : Int) + 1 ∧
              row.shown = frame ++ segment ∧ row.count = piece.text.length ∧
              (frame ++ before).length = row.left.length + (number.length - 4) ∧
              ((frame ++ before).length = row.left.length ↔ span.startLine < 10000))
      ((pieces source.toList).filter (Piece.isReported options.legacyIntegers))
      (ofSource options source line).run.diagnostics := by
  have each := diagnostic_labels_run options source line
  refine Piece.forall₂_imp_of_isPieceOf each ?_
  intro piece report valid single span member segment there shownLine number frame
  obtain ⟨message, listed, labels⟩ := single
  obtain rfl : span = piece.span options.file line := by
    simpa [Diagnostic.spans, labels] using member
  have named : (piece.span options.file line).file = options.file := by rw [valid.span_eq]
  have found : renderer.lineAt? (piece.span options.file line) = some (String.ofList segment) := by
    rw [Renderer.lineAt?, named, known, Option.bind_some, shownLine]
  have rendered := Renderer.render_of_known tree directory labels (by rw [named, known])
  rw [Renderer.renderKnown, plain] at rendered
  refine ⟨_, rendered, ?_⟩
  obtain rfl := valid.segment_eq there
  obtain ⟨row, shown, count, offset⟩ := valid.exists_caretRow labels listed found
  refine ⟨row, Text.lastLine piece.before, _, rfl, ?_, shown, count, offset, ?_⟩
  · rw [valid.span_eq]
  · -- A line that is shown has a positive number, so that its digits count it.
    have digits := length_toString_le_iff (SourceFile.positive_of_lineAt? shownLine)
    rw [offset, ← digits]
    omega

theorem run_carets_under_lexemes_third_column :
    let renderer := (Renderer.ofColor false).addSource ⟨"<stdin>", "x @"⟩
    ∃ report, (ofSource ⟨"<stdin>", false⟩ "x @" 1).run.diagnostics = [report] ∧
      ∃ rendered, (renderer.render FileTree.empty [] report).1 = .ok rendered ∧
        ∃ row : CaretRow rendered.toList, row.left.length = 11 ∧ row.count = 1 := by
  intro renderer
  have reported : (ofSource ⟨"<stdin>", false⟩ "x @" 1).run.diagnostics =
      [faultDiagnostic (.unknownOperator "@") ⟨"<stdin>", 1, 3, 1, 3⟩ "not an operator"
        [operatorNote] []] := by
    decide +kernel
  have marked : (pieces "x @".toList).filter (Piece.isReported false) = [⟨['x', ' '], ['@'], []⟩] := by
    decide +kernel
  have each := run_carets_under_lexemes_up_to_line_9999 ⟨"<stdin>", false⟩ "x @" 1 FileTree.empty []
    (show renderer.palette = Palette.plain from rfl)
    (show renderer.source? "<stdin>" = some ⟨"<stdin>", "x @"⟩ by decide +kernel)
  rw [reported, marked] at each
  cases each with
  | cons first _ =>
      obtain ⟨rendered, ran, row, before, after, _, start, shown, count, offset, under⟩ :=
        first ⟨"<stdin>", 1, 3, 1, 3⟩ (by decide) ['x', ' ', '@'] (by decide) (by decide +kernel)
      refine ⟨_, reported, rendered, ran, row, ?_, count⟩
      have frame : (Diagnostic.gutter Palette.plain (toString (1 : Int)) ++ " ").toList.length = 9 := by
        decide
      rw [List.length_append, frame] at offset
      have digits : (toString (1 : Int)).length = 1 := by decide
      dsimp only at offset start
      rw [digits] at offset
      omega

theorem splitLines_replicate_append (count : Nat) (text : List Char) :
    Text.splitLines (List.replicate count '\n' ++ text) =
      List.replicate count [] ++ Text.splitLines text := by
  induction count with
  | zero => rfl
  | succ count ih =>
      rw [List.replicate_succ, List.replicate_succ, List.cons_append, List.cons_append, ← ih]
      rfl

/-- On the ten thousandth line the caret is under the space before the character. -/
theorem carets_beside_lexeme_at_line_10000 :
    let source : SourceFile := ⟨"<stdin>", String.ofList (List.replicate 9999 '\n' ++ ['@'])⟩
    let renderer := (Renderer.ofColor false).addSource source
    ∃ report ∈ (ofSource ⟨"<stdin>", false⟩ source.content 1).run.diagnostics,
      report.spans = [⟨"<stdin>", 10000, 1, 10000, 1⟩] ∧
        let shown := "  10000 | @"
        let marker := "       | ^ not an operator"
        (renderer.render FileTree.empty [] report).1 =
          .ok ("\n".intercalate ["error[E101]: invalid operator symbol '@'",
            "  --> <stdin>:10000:1", "       |", shown, marker,
            "  = note: supported operators are + - * / % ^"]) ∧
          shown.toList.idxOf '@' = 10 ∧ marker.toList.idxOf '^' = 9 := by
  intro source renderer
  have valid : Piece.IsPieceOf (List.replicate 9999 '\n' ++ ['@'])
      ⟨List.replicate 9999 '\n', ['@'], []⟩ :=
    Piece.isPieceOf_symbol (by decide) (by decide +kernel)
  have place : Piece.span "<stdin>" 1 ⟨List.replicate 9999 '\n', ['@'], []⟩ =
      ⟨"<stdin>", 10000, 1, 10000, 1⟩ := by
    have last : Text.lastLine (List.replicate 9999 '\n') = [] := by
      rw [List.replicate_succ', Text.lastLine_append_newline]
      rfl
    rw [valid.span_eq]
    dsimp only
    rw [last, List.count_replicate_self]
    rfl
  have line : renderer.lineAt? ⟨"<stdin>", 10000, 1, 10000, 1⟩ = some "@" := by
    have lines : (Text.splitLines (List.replicate 9999 '\n' ++ ['@']))[9999]? = some ['@'] := by
      rw [splitLines_replicate_append, List.getElem?_append_right (by rw [List.length_replicate]),
        List.length_replicate]
      rfl
    have numbered : source.lineAt? (1 + (9999 : Nat)) = some "@" := by
      rw [SourceFile.lineAt?_ofList, lines]
      rfl
    exact (Renderer.lineAt?_addSource _ source rfl).trans numbered
  let report := faultDiagnostic (.unknownOperator "@") ⟨"<stdin>", 10000, 1, 10000, 1⟩
    "not an operator" [operatorNote] []
  have reported : report ∈ (ofSource ⟨"<stdin>", false⟩ source.content 1).run.diagnostics := by
    rw [diagnostics, findings_run, String.toList_ofList, List.filterMap_map]
    refine List.mem_filterMap.mpr ⟨_, mem_pieces_iff.mpr valid, ?_⟩
    rw [Function.comp_apply, Piece.finding_symbol (by decide +kernel), place]
    rfl
  have rows : Diagnostic.rows Palette.plain renderer.lineAt? report =
      Diagnostic.rows Palette.plain (fun _ => some "@") report := by
    simp only [Diagnostic.rows, report, faultDiagnostic, List.flatMap_cons, List.flatMap_nil, line]
  refine ⟨report, reported, rfl, ?_, by decide, by decide⟩
  have known : renderer.source? "<stdin>" = some source := Renderer.source?_addSource _ source
  have ran : (renderer.render FileTree.empty [] report).1 = .ok (renderer.renderKnown report) :=
    Renderer.render_of_known FileTree.empty [] rfl known
  rw [ran]
  have rendered : Diagnostic.rows Palette.plain (fun _ => some "@") report =
      ["error[E101]: invalid operator symbol '@'", "  --> <stdin>:10000:1", "       |",
        "  10000 | @", "       | ^ not an operator",
        "  = note: supported operators are + - * / % ^"] := by
    decide +kernel
  have palette : renderer.palette = Palette.plain := rfl
  rw [Renderer.renderKnown, palette, Diagnostic.render, rows, rendered]

end Lexer

end ExprLexer
