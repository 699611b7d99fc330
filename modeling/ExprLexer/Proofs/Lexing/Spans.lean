import ExprLexer.Proofs.Lexing.Classification
import ExprLexer.Proofs.Text.Lines

/-! Spans name the lexemes they were made for and lie apart from each other.
Everything is read off the place of a piece in its source, so that tokens, errors
and warnings need no separate argument. -/

set_option autoImplicit false

namespace ExprLexer

namespace Span

/-- A span of one line that names a text: cut from its line of the source, it is
that text, whole. Only line feeds divide the source, and its first line is given. -/
structure Names (span : Span) (file : String) (source : List Char) (line : Int)
    (text : List Char) : Prop where
  file_eq : span.file = file
  oneLine : span.endLine = span.startLine
  columns : 1 ≤ span.startColumn ∧ span.endColumn = span.startColumn + text.length - 1
  lexeme : ∃ index segment, span.startLine = line + (index : Nat) ∧
    (source.splitOn '\n')[index]? = some segment ∧
    Text.cutColumns segment span.startColumn span.endColumn = text

/-- The first span ends before the second one starts. -/
def Precedes (first second : Span) : Prop :=
  first.endLine < second.startLine ∨
    first.endLine = second.startLine ∧ first.endColumn < second.startColumn

/-- The span reaches from a place at or before the given one to one at or after it. -/
def Covers (span : Span) (line column : Int) : Prop :=
  (span.startLine < line ∨ span.startLine = line ∧ span.startColumn ≤ column) ∧
    (line < span.endLine ∨ line = span.endLine ∧ column ≤ span.endColumn)

/-- Of the characters of a source the blank ones lie in no span of a list, and
each of the others lies in exactly one. -/
def CoverOnce (spans : List Span) (source : List Char) (line : Int) : Prop :=
  ∀ offset char, source[offset]? = some char →
    let covering (span : Span) := span.Covers (line + (source.take offset).count '\n')
      ((Text.lastLine (source.take offset)).length + 1)
    if Text.isBlank char then ∀ span ∈ spans, ¬covering span
    else ∃! span, span ∈ spans ∧ covering span

end Span

def Token.spans (token : Token) : List Span := token.span.toList

def Diagnostic.spans (diagnostic : Diagnostic) : List Span := diagnostic.labels.map (·.span)

namespace Piece

variable {source : List Char} {piece other : Piece} {file : String} {line : Int}

theorem IsPieceOf.newline_not_mem (valid : piece.IsPieceOf source) : '\n' ∉ piece.text := by
  intro member
  exact absurd (valid.not_blank member) (by decide)

theorem IsPieceOf.span_eq (valid : piece.IsPieceOf source) (file : String) (line : Int) :
    piece.span file line =
      { file
        startLine := line + piece.before.count '\n'
        startColumn := (Text.lastLine piece.before).length + 1
        endLine := line + piece.before.count '\n'
        endColumn := (Text.lastLine piece.before).length + piece.text.length } := by
  have within := valid.newline_not_mem
  have nonempty := List.length_pos_iff.mpr valid.text_ne_nil
  rw [span, ← Location.advanceBy_append, Location.advanceBy_start, Location.advanceBy_start,
    Text.count_append_of_not_mem within, Text.lastLine_append within]
  simp only [Location.spanTo, List.length_append, Span.mk.injEq, true_and]
  rw [if_pos (by omega)]
  omega

theorem IsPieceOf.cutColumns_eq (valid : piece.IsPieceOf source) (file : String) (line : Int)
    (right : List Char) :
    Text.cutColumns (Text.lastLine piece.before ++ (piece.text ++ right))
      (piece.span file line).startColumn (piece.span file line).endColumn = piece.text := by
  have dropped : (((Text.lastLine piece.before).length : Int) + 1 - 1).toNat =
      (Text.lastLine piece.before).length := by omega
  have taken : (((Text.lastLine piece.before).length : Int) + piece.text.length -
      ((Text.lastLine piece.before).length + 1) + 1).toNat = piece.text.length := by omega
  rw [valid.span_eq, Text.cutColumns, dropped, taken, List.drop_left, List.take_left]

theorem IsPieceOf.span_names (valid : piece.IsPieceOf source) (file : String) (line : Int) :
    (piece.span file line).Names file source line piece.text := by
  have within : ∀ char ∈ piece.text, (char != '\n') = true := fun char member => by
    simpa using ne_of_mem_of_not_mem member valid.newline_not_mem
  have segment := Text.getElem?_splitOn_newline piece.before (piece.text ++ piece.after)
  rw [← List.append_assoc, valid.whole, List.takeWhile_append_of_pos within] at segment
  have cut := valid.cutColumns_eq file line (piece.after.takeWhile (· != '\n'))
  rw [valid.span_eq] at cut ⊢
  exact ⟨rfl, rfl, ⟨by dsimp only; omega, by dsimp only; omega⟩, _, _, rfl, segment, cut⟩

theorem IsPieceOf.take_before (valid : piece.IsPieceOf source) :
    source.take piece.before.length = piece.before := by
  rw [← valid.whole, List.append_assoc, List.take_left]

theorem IsPieceOf.take_end (valid : piece.IsPieceOf source) :
    source.take (piece.before.length + piece.text.length) = piece.before ++ piece.text := by
  rw [← valid.whole, ← List.length_append, List.take_left]

theorem IsPieceOf.end_le (valid : piece.IsPieceOf source) :
    piece.before.length + piece.text.length ≤ source.length := by
  rw [← valid.whole, List.length_append, List.length_append]
  exact Nat.le_add_right _ _

/-- A piece covers the places of its own characters and no others. -/
theorem IsPieceOf.covers_iff (valid : piece.IsPieceOf source) {offset : Nat}
    (inside : offset < source.length) :
    (piece.span file line).Covers (line + (source.take offset).count '\n')
        ((Text.lastLine (source.take offset)).length + 1) ↔ piece.Holds offset := by
  have within := valid.newline_not_mem
  rw [valid.span_eq, Span.Covers, Holds]
  dsimp only
  -- Places are ordered as offsets are, so the three cases are those of the offset.
  rcases Nat.lt_or_ge offset piece.before.length with early | notEarly
  · have place := Text.place_lt_of_lt early (Nat.le_trans (Nat.le_add_right _ _) valid.end_le)
    rw [valid.take_before] at place
    omega
  · rcases Nat.lt_or_ge offset (piece.before.length + piece.text.length) with during | late
    · have reached : source.take offset =
          piece.before ++ piece.text.take (offset - piece.before.length) := by
        rw [← valid.whole, List.append_assoc, List.take_append, List.take_of_length_le notEarly,
          List.take_append_of_le_length (by omega)]
      have partly : '\n' ∉ piece.text.take (offset - piece.before.length) := fun member =>
        within (List.mem_of_mem_take member)
      rw [reached, Text.count_append_of_not_mem partly, Text.lastLine_append partly,
        List.length_append, List.length_take_of_le (by omega)]
      omega
    · have finish := valid.take_end
      rcases Nat.eq_or_lt_of_le late with same | later
      · rw [← same, finish, Text.count_append_of_not_mem within, Text.lastLine_append within,
          List.length_append]
        omega
      · have place := Text.place_lt_of_lt later (Nat.le_of_lt inside)
        rw [finish, Text.count_append_of_not_mem within, Text.lastLine_append within,
          List.length_append] at place
        omega

theorem IsPieceOf.span_precedes (valid : piece.IsPieceOf source)
    (otherValid : other.IsPieceOf source) (earlier : piece.before.length < other.before.length) :
    (piece.span file line).Precedes (other.span file line) := by
  have within := valid.newline_not_mem
  have finish := valid.take_end
  have apart := valid.ends_before otherValid earlier
  rw [valid.span_eq, otherValid.span_eq, Span.Precedes]
  dsimp only
  rcases Nat.eq_or_lt_of_le apart with same | later
  · have start := otherValid.take_before
    rw [← same, finish] at start
    rw [← start, Text.count_append_of_not_mem within, Text.lastLine_append within,
      List.length_append]
    omega
  · have place := Text.place_lt_of_lt later
      (Nat.le_trans (Nat.le_add_right _ _) otherValid.end_le)
    rw [finish, otherValid.take_before, Text.count_append_of_not_mem within,
      Text.lastLine_append within, List.length_append] at place
    omega

/-- There is one span, and it names the piece. -/
def IsNamedBy (file : String) (source : List Char) (line : Int) (piece : Piece)
    (spans : List Span) : Prop :=
  ∃ span, spans = [span] ∧ span.Names file source line piece.text

theorem IsPieceOf.isNamedBy {spans : List Span} (valid : piece.IsPieceOf source)
    (single : spans = [piece.span file line]) : piece.IsNamedBy file source line spans :=
  ⟨_, single, valid.span_names file line⟩

theorem forall₂_imp_of_isPieceOf {Found : Type} {related implied : Piece → Found → Prop}
    {keep : Piece → Bool} {results : List Found}
    (each : List.Forall₂ related ((pieces source).filter keep) results)
    (implies : ∀ piece result, piece.IsPieceOf source → related piece result →
      implied piece result) :
    List.Forall₂ implied ((pieces source).filter keep) results := by
  have valid : ∀ piece ∈ (pieces source).filter keep, piece.IsPieceOf source :=
    fun piece member => mem_pieces_iff.mp (List.mem_of_mem_filter member)
  refine ((List.forall₂_and_left _ _).mpr ⟨valid, each⟩).imp ?_
  intro piece result both
  exact implies piece result both.1 both.2

theorem forall₂_isNamedBy {Found : Type} {spans : Found → List Span} {keep : Piece → Bool}
    {results : List Found}
    (each : List.Forall₂ (fun piece result => spans result = [piece.span file line])
      ((pieces source).filter keep) results) :
    List.Forall₂ (fun piece result => piece.IsNamedBy file source line (spans result))
      ((pieces source).filter keep) results :=
  forall₂_imp_of_isPieceOf each fun _ _ valid single => valid.isNamedBy single

theorem coverOnce_pieces (file : String) (line : Int) :
    Span.CoverOnce ((pieces source).map (Piece.span file line)) source line := by
  intro offset char found
  have inside := (List.getElem?_eq_some_iff.mp found).1
  have covering : ∀ {piece : Piece}, piece ∈ pieces source →
      ((piece.span file line).Covers (line + (source.take offset).count '\n')
        ((Text.lastLine (source.take offset)).length + 1) ↔ piece.Holds offset) :=
    fun member => (mem_pieces_iff.mp member).covers_iff inside
  dsimp only
  split
  next blank =>
    intro span member covers
    obtain ⟨piece, listed, rfl⟩ := List.mem_map.mp member
    obtain ⟨other, within, same⟩ :=
      (mem_pieces_iff.mp listed).getElem?_of_holds ((covering listed).mp covers)
    rw [found, Option.some.injEq] at same
    rw [same, (mem_pieces_iff.mp listed).not_blank within] at blank
    cases blank
  next notBlank =>
    obtain ⟨piece, valid, holds⟩ := exists_holds found (by simpa using notBlank)
    have listed := mem_pieces_iff.mpr valid
    refine ⟨piece.span file line, ⟨List.mem_map_of_mem listed, (covering listed).mpr holds⟩, ?_⟩
    intro span both
    obtain ⟨member, covers⟩ := both
    obtain ⟨other, otherListed, rfl⟩ := List.mem_map.mp member
    rw [(mem_pieces_iff.mp otherListed).eq_of_holds valid ((covering otherListed).mp covers) holds]

variable {options : LexerOptions} {found : Finding}

theorem Yields.token_spans (yields : Yields options line piece found) :
    (!piece.isRejected options.legacyIntegers) = true ∧
        (∃ token, found.token = some token ∧ token.spans = [piece.span options.file line]) ∨
      (!piece.isRejected options.legacyIntegers) = false ∧ found.token = none := by
  rw [isRejected, ← yields.token?_eq]
  cases yields with
  | token _ _ _ => exact .inl ⟨rfl, _, rfl, rfl⟩
  | malformed _ _ => exact .inr ⟨rfl, rfl⟩
  | unknown _ _ _ => exact .inr ⟨rfl, rfl⟩

theorem Yields.diagnostic_spans (yields : Yields options line piece found)
    {diagnostic : Diagnostic} (member : diagnostic ∈ found.diagnostic) :
    diagnostic.spans = [piece.span options.file line] := by
  cases yields with
  | token _ _ _ =>
      split at member
      · cases member
        rfl
      · cases member
  | malformed _ _ =>
      cases member
      rfl
  | unknown _ _ _ =>
      cases member
      rfl

end Piece

theorem flatMap_eq_map_of_forall₂ {α β γ : Type} {parts : β → List γ} {part : α → γ}
    {left : List α} {right : List β}
    (each : List.Forall₂ (fun value result => parts result = [part value]) left right) :
    right.flatMap parts = left.map part := by
  induction each with
  | nil => rfl
  | cons single _ ih => rw [List.flatMap_cons, single, ih, List.map_cons, List.singleton_append]

namespace Lexer

def tokenSpans (lexer : Lexer) : List Span := lexer.tokens.flatMap Token.spans

def errorSpans (lexer : Lexer) : List Span :=
  (lexer.diagnostics.filter Diagnostic.isError).flatMap Diagnostic.spans

variable (options : LexerOptions) (source : String) (line : Int)

private theorem token_spans_run :
    List.Forall₂ (fun piece token => Token.spans token = [piece.span options.file line])
      ((pieces source.toList).filter fun piece => !piece.isRejected options.legacyIntegers)
      (ofSource options source line).run.tokens := by
  rw [tokens_run]
  exact forall₂_filter_filterMap fun piece member =>
    ((mem_pieces_iff.mp member).yields options line).token_spans

/-- Whichever diagnostics are kept, each has the span of the piece it is about. -/
theorem diagnostic_spans_run {keep : Diagnostic → Bool} {reported : Piece → Bool}
    {related : Piece → Diagnostic → Prop}
    (each : ∀ piece found, Piece.Yields options line piece found →
      (reported piece = true ∧
          ∃ report, found.diagnostic.filter keep = some report ∧ related piece report) ∨
        (reported piece = false ∧ found.diagnostic.filter keep = none)) :
    List.Forall₂ (fun piece report => Diagnostic.spans report = [piece.span options.file line])
      ((pieces source.toList).filter reported)
      ((ofSource options source line).run.diagnostics.filter keep) := by
  rw [filter_diagnostics_run]
  refine forall₂_filter_filterMap fun piece member => ?_
  have yields := (mem_pieces_iff.mp member).yields options line
  rcases each piece _ yields with ⟨kept, report, found, _⟩ | dropped
  · have present := (Option.filter_eq_some_iff.mp found).1
    exact .inl ⟨kept, report, found, yields.diagnostic_spans present⟩
  · exact .inr dropped

private theorem error_spans_run :
    List.Forall₂ (fun piece report => Diagnostic.spans report = [piece.span options.file line])
      ((pieces source.toList).filter (Piece.isRejected options.legacyIntegers))
      ((ofSource options source line).run.diagnostics.filter Diagnostic.isError) :=
  diagnostic_spans_run options source line fun _ _ yields => yields.reported

private theorem warning_spans_run :
    List.Forall₂ (fun piece report => Diagnostic.spans report = [piece.span options.file line])
      ((pieces source.toList).filter (Piece.isDigitVariable options.legacyIntegers))
      ((ofSource options source line).run.diagnostics.filter fun report => !report.isError) :=
  diagnostic_spans_run options source line fun _ _ yields => yields.warned

/-- Every span of a run names the piece it was made for. The spans of tokens and
errors together follow each other without meeting, and every character that is not
blank lies in one of them. The run stops at the end of the source, refused or not. -/
theorem run_spans_faithful :
    ∃ split, (∀ list, IsSplit source.toList list ↔ list = split) ∧
      List.Forall₂
        (fun piece token => piece.IsNamedBy options.file source.toList line (Token.spans token))
        (split.filter fun piece => !piece.isRejected options.legacyIntegers)
        (ofSource options source line).run.tokens ∧
      List.Forall₂
        (fun piece report => piece.IsNamedBy options.file source.toList line report.spans)
        (split.filter (Piece.isRejected options.legacyIntegers))
        ((ofSource options source line).run.diagnostics.filter Diagnostic.isError) ∧
      List.Forall₂
        (fun piece report => piece.IsNamedBy options.file source.toList line report.spans)
        (split.filter (Piece.isDigitVariable options.legacyIntegers))
        ((ofSource options source line).run.diagnostics.filter fun report => !report.isError) ∧
      (∃ spans : List Span,
        spans.Perm ((ofSource options source line).run.tokenSpans ++
          (ofSource options source line).run.errorSpans) ∧
        (ofSource options source line).run.tokenSpans.Sublist spans ∧
        (ofSource options source line).run.errorSpans.Sublist spans ∧
        spans.Pairwise Span.Precedes ∧ Span.CoverOnce spans source.toList line) ∧
      (ofSource options source line).run.location =
        ⟨source.length, line + source.toList.count '\n',
          (Text.lastLine source.toList).length + 1⟩ := by
  have tokenSpans_eq := flatMap_eq_map_of_forall₂ (token_spans_run options source line)
  have errorSpans_eq := flatMap_eq_map_of_forall₂ (error_spans_run options source line)
  refine ⟨pieces source.toList, fun list => isSplit_iff_eq_pieces,
    Piece.forall₂_isNamedBy (token_spans_run options source line),
    Piece.forall₂_isNamedBy (error_spans_run options source line),
    Piece.forall₂_isNamedBy (warning_spans_run options source line),
    ⟨(pieces source.toList).map (Piece.span options.file line), ?_, ?_, ?_, ?_,
      Piece.coverOnce_pieces options.file line⟩, ?_⟩
  · rw [tokenSpans, errorSpans, tokenSpans_eq, errorSpans_eq, ← List.map_append]
    refine (List.Perm.trans (List.filter_append_perm
      (Piece.isRejected options.legacyIntegers) _).symm List.perm_append_comm).map _
  · rw [tokenSpans, tokenSpans_eq]
    exact List.filter_sublist.map _
  · rw [errorSpans, errorSpans_eq]
    exact List.filter_sublist.map _
  · rw [List.pairwise_map]
    refine (isSplit_pieces source.toList).ordered.imp_of_mem fun member otherMember earlier => ?_
    exact (mem_pieces_iff.mp member).span_precedes (mem_pieces_iff.mp otherMember) earlier
  · rw [location_run, Location.advanceBy_start, String.length_toList]

end Lexer

end ExprLexer
