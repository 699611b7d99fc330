import ExprLexer.Proofs.Lexing.Spans

/-! Lexing of two texts that are put together. Unless a word reaches over the seam,
the pieces of the whole are those of the two texts. What is found in the second
text only moves, and of the first one only a word at its very end can tell what follows. -/

set_option autoImplicit false

namespace ExprLexer

section Boundaries

variable {α : Type} {test : α → Bool} {text rest : List α}

/-- What passes a test at the end of one list does not go on at the start of the next. -/
def Closes (test : α → Bool) (text rest : List α) : Prop :=
  ∀ last ∈ text.getLast?, test last = true → ∀ next ∈ rest.head?, test next = false

theorem Closes.of_append (before : List α) (closes : Closes test (before ++ text) rest) :
    Closes test text rest := by
  intro last found
  apply closes
  rw [Option.mem_def] at found ⊢
  rw [List.getLast?_append, found, Option.some_or]

/-- The first run of a list that closes before the next one is the same in both together. -/
theorem Closes.first_run (closes : Closes test text rest) (nonempty : text ≠ []) :
    (text ++ rest).takeWhile test = text.takeWhile test ∧
      (text ++ rest).dropWhile test = text.dropWhile test ++ rest := by
  induction text with
  | nil => exact absurd rfl nonempty
  | cons value text ih =>
      cases passes : test value with
      | false => simp [passes]
      | true =>
          cases text with
          | nil =>
              have stops := closes value rfl passes
              cases rest with
              | nil => simp [passes]
              | cons next others => simp [passes, stops next rfl]
          | cons second text =>
              have run := ih (closes.of_append [value]) (List.cons_ne_nil _ _)
              rw [List.cons_append, List.takeWhile_cons_of_pos passes,
                List.takeWhile_cons_of_pos passes, List.dropWhile_cons_of_pos passes,
                List.dropWhile_cons_of_pos passes, run.1, run.2]
              exact ⟨rfl, rfl⟩

end Boundaries

/-- No word reaches over the seam of two texts: one of them is empty, or one of the two
characters at the seam is no word character. -/
def Lexer.MeetOutsideWord (left right : List Char) : Prop :=
  left = [] ∨ right = [] ∨
    (∃ last ∈ left.getLast?, Lexer.isWordChar last = false) ∨
    ∃ next ∈ right.head?, Lexer.isWordChar next = false

theorem Lexer.MeetOutsideWord.closes {left right : List Char}
    (seam : Lexer.MeetOutsideWord left right) : Closes Lexer.isWordChar left right := by
  intro last found lastWord next follows
  rcases seam with rfl | rfl | ⟨other, same, notWord⟩ | ⟨other, same, notWord⟩
  · cases found
  · cases follows
  · rw [Option.mem_unique found same, notWord] at lastWord
    cases lastWord
  · rw [Option.mem_unique follows same, notWord]

/-! ## Pieces -/

def Piece.within (leading trailing : List Char) (piece : Piece) : Piece :=
  ⟨leading ++ piece.before, piece.text, piece.after ++ trailing⟩

theorem piecesAfter_append {left right : List Char}
    (closes : Closes Lexer.isWordChar left right) (before : List Char) :
    piecesAfter before (left ++ right) =
      (piecesAfter before left).map (Piece.within [] right) ++
        piecesAfter (before ++ left) right := by
  fun_induction piecesAfter before left with
  | case1 before => simp
  | case2 before char rest blank ih =>
      rw [List.cons_append, piecesAfter, if_pos blank, ih (closes.of_append [char]),
        ← List.append_cons]
  | case3 before char rest notBlank wordChar word remaining ih =>
      have run := closes.first_run (List.cons_ne_nil _ _)
      rw [List.cons_append, List.takeWhile_cons_of_pos wordChar,
        List.takeWhile_cons_of_pos wordChar, List.dropWhile_cons_of_pos wordChar,
        List.dropWhile_cons_of_pos wordChar, List.cons.injEq] at run
      obtain ⟨⟨_, taken⟩, dropped⟩ := run
      have whole : word ++ remaining = char :: rest := by
        simp [word, remaining, List.takeWhile_append_dropWhile]
      rw [← whole] at closes
      rw [List.cons_append, piecesAfter, if_neg notBlank, if_pos wordChar, taken, dropped,
        ← whole, ← List.append_assoc, List.map_cons, List.cons_append]
      exact congrArg _ (ih (closes.of_append word))
  | case4 before char rest notBlank notWord ih =>
      rw [List.cons_append, piecesAfter, if_neg notBlank, if_neg notWord,
        ih (closes.of_append [char]), List.append_cons before char rest]
      rfl

theorem piecesAfter_append_eq_map (leading before text : List Char) :
    piecesAfter (leading ++ before) text =
      (piecesAfter before text).map (Piece.within leading []) := by
  fun_induction piecesAfter before text with
  | case1 before => rw [piecesAfter]; rfl
  | case2 before char rest blank ih =>
      rw [piecesAfter, if_pos blank, List.append_assoc, ih]
  | case3 before char rest notBlank wordChar word remaining ih =>
      rw [piecesAfter, if_neg notBlank, if_pos wordChar, List.map_cons, ← ih,
        ← List.append_assoc, Piece.within, List.append_nil]
  | case4 before char rest notBlank notWord ih =>
      rw [piecesAfter, if_neg notBlank, if_neg notWord, List.append_assoc, ih, List.map_cons,
        Piece.within, List.append_nil]

theorem pieces_append {left right : List Char} (seam : Lexer.MeetOutsideWord left right) :
    pieces (left ++ right) =
      (pieces left).map (Piece.within [] right) ++ (pieces right).map (Piece.within left []) := by
  have second := piecesAfter_append_eq_map left [] right
  rw [List.append_nil] at second
  rw [pieces, piecesAfter_append seam.closes [], List.nil_append, second]
  rfl

theorem pieces_eq_nil_of_blank {source : List Char}
    (blank : ∀ char ∈ source, Text.isBlank char = true) : pieces source = [] := by
  refine List.eq_nil_iff_forall_not_mem.mpr fun piece member => ?_
  have valid := mem_pieces_iff.mp member
  obtain ⟨char, others, shape⟩ := List.exists_cons_of_ne_nil valid.text_ne_nil
  have notBlank : Text.isBlank char = false := valid.not_blank (by simp [shape])
  rw [blank char (by rw [← valid.whole, shape]; simp)] at notBlank
  cases notBlank

/-! ## Places -/

theorem Text.length_lastLine_append (left right : List Char) :
    (Text.lastLine (left ++ right)).length =
      (if right.count '\n' = 0 then (Text.lastLine left).length else 0) +
        (Text.lastLine right).length := by
  split
  next none =>
    have within := List.count_eq_zero.mp none
    have alone : Text.lastLine ([] ++ right) = Text.lastLine [] ++ right :=
      Text.lastLine_append within
    rw [List.nil_append] at alone
    rw [Text.lastLine_append within, alone, List.length_append]
    rfl
  next some =>
    obtain ⟨first, others, rfl⟩ :=
      List.append_of_mem (List.count_pos_iff.mp (Nat.pos_of_ne_zero some))
    rw [← List.append_assoc, Text.lastLine_append_newline, Text.lastLine_append_newline,
      Nat.zero_add]

/-- The span in a source that has a text before it, where the line is the first one of
the source: lines count on, and on the first line columns do too. -/
def Span.shift (text : List Char) (line : Int) (span : Span) : Span where
  file := span.file
  startLine := span.startLine + text.count '\n'
  startColumn :=
    if span.startLine = line then span.startColumn + (Text.lastLine text).length
    else span.startColumn
  endLine := span.endLine + text.count '\n'
  endColumn :=
    if span.endLine = line then span.endColumn + (Text.lastLine text).length
    else span.endColumn

def Token.mapSpan (change : Span → Span) (token : Token) : Token :=
  { token with span := token.span.map change }

def Diagnostic.mapSpans (change : Span → Span) (diagnostic : Diagnostic) : Diagnostic :=
  { diagnostic with
    labels := diagnostic.labels.map fun label => { label with span := change label.span } }

def Finding.mapSpans (change : Span → Span) (found : Finding) : Finding where
  token := found.token.map (Token.mapSpan change)
  diagnostic := found.diagnostic.map (Diagnostic.mapSpans change)

namespace Lexer

theorem symbolFinding_mapSpans (char : Char) (change : Span → Span) (span : Span) :
    symbolFinding char (change span) = (symbolFinding char span).mapSpans change := by
  unfold symbolFinding
  cases TokenValue.ofSymbol? [char] with
  | none => rfl
  | some value => rfl

theorem wordFinding_of_error {options : LexerOptions} {word : List Char} {cause : LexicalFault}
    (refused : TokenValue.classify options.legacyIntegers (String.ofList word) = .error cause)
    (rest : List Char) (span : Span) :
    wordFinding options word rest span =
      ⟨none, some (faultDiagnostic cause span "not a number"
        (if isCutExponent word rest then [exponentNote] else []) [])⟩ := by
  simp only [wordFinding, refused]

theorem wordFinding_of_ok {options : LexerOptions} {word : List Char} {value : TokenValue}
    (classified : TokenValue.classify options.legacyIntegers (String.ofList word) = .ok value)
    (rest : List Char) (span : Span) :
    wordFinding options word rest span =
      ⟨some ⟨value, some span⟩,
        if options.legacyIntegers && value.kind == .variable && isDigitRun word then
          some (digitStringWarning (String.ofList word) span)
        else none⟩ := by
  simp only [wordFinding, classified]

theorem wordFinding_mapSpans {options : LexerOptions} {word rest otherRest : List Char}
    (sameHead : otherRest.head? = rest.head?) (change : Span → Span) (span : Span) :
    wordFinding options word otherRest (change span) =
      (wordFinding options word rest span).mapSpans change := by
  cases classified : TokenValue.classify options.legacyIntegers (String.ofList word) with
  | error cause =>
      rw [wordFinding_of_error classified, wordFinding_of_error classified, isCutExponent,
        isCutExponent, sameHead]
      rfl
  | ok value =>
      rw [wordFinding_of_ok classified, wordFinding_of_ok classified, Finding.mapSpans]
      dsimp only
      split <;> rfl

end Lexer

namespace Piece

variable {left right source : List Char} {piece other : Piece} {options : LexerOptions}
  {line otherLine : Int}

theorem finding_eq_mapSpans {change : Span → Span} (sameText : other.text = piece.text)
    (sameHead : (∀ char ∈ piece.text, Lexer.isWordChar char = true) →
      other.after.head? = piece.after.head?)
    (moved : other.span options.file otherLine = change (piece.span options.file line)) :
    other.finding options otherLine = (piece.finding options line).mapSpans change := by
  unfold finding
  rw [sameText, moved]
  split
  next => exact Lexer.symbolFinding_mapSpans _ _ _
  next none =>
    have wordChars : ∀ char ∈ piece.text, Lexer.isWordChar char = true := by
      simpa using List.find?_eq_none.mp none
    exact Lexer.wordFinding_mapSpans (sameHead wordChars) _ _

theorem IsPieceOf.finding_within_left (valid : piece.IsPieceOf right)
    (validWithin : (piece.within left []).IsPieceOf source) (options : LexerOptions) (line : Int) :
    (piece.within left []).finding options line =
      (piece.finding options line).mapSpans (Span.shift left line) := by
  refine finding_eq_mapSpans rfl (fun _ => congrArg List.head? (List.append_nil _)) ?_
  rw [validWithin.span_eq, valid.span_eq]
  simp only [within, Span.shift, List.count_append, Text.length_lastLine_append, Span.mk.injEq,
    true_and]
  split <;> omega

end Piece

/-! ## The end of the first text -/

/-- The diagnostic with the note about a signed exponent after its own notes. -/
def Diagnostic.withExponentNote (diagnostic : Diagnostic) : Diagnostic :=
  { diagnostic with notes := diagnostic.notes ++ [Lexer.exponentNote] }

theorem Diagnostic.isError_withExponentNote (diagnostic : Diagnostic) :
    diagnostic.withExponentNote.isError = diagnostic.isError := rfl

namespace Piece

/-- The last word of a text is refused and ends in an exponent mark, and the text
after it starts with a sign. -/
structure IsCutAtSeam (legacyIntegers : Bool) (left right : List Char) (piece : Piece) : Prop where
  isPieceOf : piece.IsPieceOf left
  last : piece.after = []
  refused : TokenValue.classify legacyIntegers (String.ofList piece.text) =
    .error (.malformedNumeral (String.ofList piece.text))
  exponent : (piece.within [] right).IsCutExponent

variable {left right source : List Char} {piece : Piece} {options : LexerOptions}

theorem IsWord.finding_within_right_eq (word : piece.IsWord) (options : LexerOptions) (line : Int) :
    (piece.within [] right).finding options line =
      Lexer.wordFinding options piece.text (piece.after ++ right)
        (piece.span options.file line) :=
  have wordChars : ∀ char ∈ (piece.within [] right).text, Lexer.isWordChar char = true :=
    word.wordChars
  finding_of_wordChars wordChars options line

theorem IsPieceOf.finding_within_right (valid : piece.IsPieceOf left)
    (uncut : ¬piece.IsCutAtSeam options.legacyIntegers left right) (line : Int) :
    (piece.within [] right).finding options line = piece.finding options line := by
  rcases valid.shape with word | ⟨char, single, _, notWord⟩
  · rw [word.finding_eq, word.finding_within_right_eq]
    cases classified : TokenValue.classify options.legacyIntegers (String.ofList piece.text) with
    | ok value =>
        rw [Lexer.wordFinding_of_ok classified, Lexer.wordFinding_of_ok classified]
    | error cause =>
        have same := TokenValue.eq_malformedNumeral_of_classify_error classified
        subst same
        have cuts : Lexer.isCutExponent piece.text (piece.after ++ right) =
            Lexer.isCutExponent piece.text piece.after := by
          by_cases last : piece.after = []
          · have notCut := mt (fun exponent => ⟨valid, last, classified, exponent⟩) uncut
            rw [← isCutExponent_iff] at notCut
            simpa [within, last, Lexer.isCutExponent] using notCut
          · rw [Lexer.isCutExponent, List.head?_append_of_ne_nil _ last]
            rfl
        rw [Lexer.wordFinding_of_error classified, Lexer.wordFinding_of_error classified, cuts]
  · obtain ⟨before, text, after⟩ := piece
    subst single
    rw [finding_symbol notWord, within, finding_symbol notWord]
    rfl

theorem IsCutAtSeam.isWord (cut : piece.IsCutAtSeam options.legacyIntegers left right) :
    piece.IsWord := by
  obtain ⟨⟨stem, mark, marked, letter⟩, _⟩ := cut.exponent
  have text : piece.text = stem ++ [mark] := marked
  have wordChar : Lexer.isWordChar mark = true := by
    rcases letter with rfl | rfl <;> decide +kernel
  exact cut.isPieceOf.isWord_of_mem (text ▸ List.mem_append_right _ List.mem_cons_self) wordChar

/-- A word that is cut at the seam is reported in both texts, with a note in the longer one. -/
theorem IsCutAtSeam.finding_within_right
    (cut : piece.IsCutAtSeam options.legacyIntegers left right) (line : Int) :
    ∃ report : Diagnostic, piece.finding options line = ⟨none, some report⟩ ∧
      (piece.within [] right).finding options line = ⟨none, some report.withExponentNote⟩ ∧
      report.code = "E102" ∧ report.notes = [] ∧
      report.spans = [piece.span options.file line] := by
  have word := cut.isWord
  have alone : Lexer.isCutExponent piece.text piece.after = false := by
    rw [cut.last]
    simp [Lexer.isCutExponent]
  have signed : Lexer.isCutExponent piece.text (piece.after ++ right) = true :=
    isCutExponent_iff.mpr cut.exponent
  rw [word.finding_eq, word.finding_within_right_eq, Lexer.wordFinding_of_error cut.refused,
    Lexer.wordFinding_of_error cut.refused, alone, signed]
  exact ⟨_, rfl, rfl, rfl, rfl, rfl⟩

theorem IsPieceOf.pieces_eq_append (valid : piece.IsPieceOf source) (last : piece.after = []) :
    ∃ earlier, pieces source = earlier ++ [piece] ∧ ∀ other ∈ earlier, other.after ≠ [] := by
  have length : piece.before.length + piece.text.length = source.length := by
    rw [← valid.whole, last, List.append_nil, List.length_append]
  have ordered := (isSplit_pieces source).ordered
  obtain ⟨earlier, later, split⟩ := List.append_of_mem (mem_pieces_iff.mpr valid)
  have validOther : ∀ other ∈ earlier ++ piece :: later, other.IsPieceOf source :=
    fun other member => mem_pieces_iff.mp (split ▸ member)
  rw [split, List.pairwise_append, List.pairwise_cons] at ordered
  obtain ⟨_, ⟨after, _⟩, before⟩ := ordered
  have none : later = [] := by
    refine List.eq_nil_iff_forall_not_mem.mpr fun other member => ?_
    have otherValid := validOther other (by simp [member])
    have apart := valid.ends_before otherValid (after other member)
    have ends := otherValid.end_le
    have some := List.length_pos_iff.mpr otherValid.text_ne_nil
    omega
  subst none
  refine ⟨earlier, split, fun other member stops => ?_⟩
  have otherValid := validOther other (by simp [member])
  have apart := otherValid.ends_before valid (before other member piece List.mem_cons_self)
  have some := List.length_pos_iff.mpr valid.text_ne_nil
  have whole := congrArg List.length otherValid.whole
  rw [stops, List.append_nil, List.length_append] at whole
  omega

theorem IsPieceOf.pieces_eq_singleton (valid : piece.IsPieceOf source) (first : piece.before = [])
    (last : piece.after = []) : pieces source = [piece] := by
  obtain ⟨earlier, split, _⟩ := valid.pieces_eq_append last
  have ordered := (isSplit_pieces source).ordered
  rw [split, List.pairwise_append] at ordered
  have none : earlier = [] := by
    refine List.eq_nil_iff_forall_not_mem.mpr fun other member => ?_
    have before := ordered.2.2 other member piece List.mem_cons_self
    rw [first] at before
    cases before
  rw [split, none, List.nil_append]

theorem IsCutAtSeam.not_blank_getLast {legacyIntegers : Bool}
    (cut : piece.IsCutAtSeam legacyIntegers left right)
    (blank : ∀ last ∈ left.getLast?, Text.isBlank last = true) : False := by
  have nonempty := cut.isPieceOf.text_ne_nil
  have notBlank := cut.isPieceOf.not_blank (List.getLast_mem nonempty)
  have ends : some (piece.text.getLast nonempty) = left.getLast? := by
    rw [← cut.isPieceOf.whole, cut.last, List.append_nil,
      List.getLast?_append_of_ne_nil _ nonempty, List.getLast?_eq_some_getLast nonempty]
  rw [blank _ ends.symm] at notBlank
  cases notBlank

theorem IsCutAtSeam.exists_sign {legacyIntegers : Bool}
    (cut : piece.IsCutAtSeam legacyIntegers left right) :
    ∃ sign rest, right = sign :: rest ∧ (sign = '+' ∨ sign = '-') := by
  obtain ⟨_, sign, rest, follows, plusOrMinus⟩ := cut.exponent
  refine ⟨sign, rest, ?_, plusOrMinus⟩
  rw [← follows]
  simp [within, cut.last]

theorem IsCutAtSeam.not_blank_head {legacyIntegers : Bool}
    (cut : piece.IsCutAtSeam legacyIntegers left right)
    (blank : ∀ next ∈ right.head?, Text.isBlank next = true) : False := by
  obtain ⟨sign, rest, starts, plusOrMinus⟩ := cut.exists_sign
  have signBlank := blank sign (by rw [starts]; rfl)
  rcases plusOrMinus with rfl | rfl <;> exact absurd signBlank (by decide)

theorem IsCutAtSeam.unique {legacyIntegers : Bool} {other : Piece}
    (cut : piece.IsCutAtSeam legacyIntegers left right)
    (otherCut : other.IsCutAtSeam legacyIntegers left right) : piece = other := by
  obtain ⟨earlier, split, going⟩ := otherCut.isPieceOf.pieces_eq_append otherCut.last
  have member := mem_pieces_iff.mpr cut.isPieceOf
  rw [split, List.mem_append, List.mem_singleton] at member
  exact member.resolve_left fun among => going piece among cut.last

/-- Where no exponent is cut at the seam, the first text yields what it yields alone. -/
theorem findings_within_of_uncut
    (uncut : ∀ piece : Piece, ¬piece.IsCutAtSeam options.legacyIntegers left right) (line : Int) :
    (pieces left).map (fun piece => (piece.within [] right).finding options line) =
      (pieces left).map (finding options line) :=
  List.map_congr_left fun piece member =>
    (mem_pieces_iff.mp member).finding_within_right (uncut piece) line

/-- Where an exponent is cut at the seam, the first text yields one more note at its end. -/
theorem IsCutAtSeam.exists_findings_within
    (cut : piece.IsCutAtSeam options.legacyIntegers left right) (line : Int) :
    ∃ earlier, ∃ report : Diagnostic,
      (pieces left).map (finding options line) = earlier ++ [⟨none, some report⟩] ∧
      (pieces left).map (fun piece => (piece.within [] right).finding options line) =
        earlier ++ [⟨none, some report.withExponentNote⟩] ∧
      report.code = "E102" ∧ report.notes = [] ∧
      report.spans = [piece.span options.file line] := by
  obtain ⟨earlier, split, going⟩ := cut.isPieceOf.pieces_eq_append cut.last
  obtain ⟨report, alone, noted, about⟩ := cut.finding_within_right line
  refine ⟨earlier.map (finding options line), report, ?_, ?_, about⟩
  · rw [split, List.map_append, List.map_singleton, alone]
  · rw [split, List.map_append, List.map_singleton, noted]
    congr 1
    refine List.map_congr_left fun other member => ?_
    have valid : other.IsPieceOf left := mem_pieces_iff.mp (split ▸ List.mem_append_left _ member)
    exact valid.finding_within_right (fun otherCut => going other member otherCut.last) line

end Piece

namespace Lexer

variable {options : LexerOptions} {left right : String} (line : Int)

theorem findings_run_append (seam : MeetOutsideWord left.toList right.toList) :
    (ofSource options (left ++ right) line).run.findings =
      (pieces left.toList).map
          (fun piece => (piece.within [] right.toList).finding options line) ++
        (ofSource options right line).run.findings.map
          (Finding.mapSpans (Span.shift left.toList line)) := by
  have second : (pieces right.toList).map
      (fun piece => (piece.within left.toList []).finding options line) =
      (pieces right.toList).map fun piece =>
        (piece.finding options line).mapSpans (Span.shift left.toList line) := by
    refine List.map_congr_left fun piece member => ?_
    have within : piece.within left.toList [] ∈ pieces (left.toList ++ right.toList) := by
      rw [pieces_append seam]
      exact List.mem_append_right _ (List.mem_map_of_mem member)
    exact (mem_pieces_iff.mp member).finding_within_left (mem_pieces_iff.mp within) options line
  rw [findings_run, findings_run, String.toList_append, pieces_append seam, List.map_append,
    List.map_map, List.map_map, List.map_map]
  exact congrArg _ second

theorem findings_run_append_of_uncut (seam : MeetOutsideWord left.toList right.toList)
    (uncut : ∀ piece : Piece,
      ¬piece.IsCutAtSeam options.legacyIntegers left.toList right.toList) :
    (ofSource options (left ++ right) line).run.findings =
      (ofSource options left line).run.findings ++
        (ofSource options right line).run.findings.map
          (Finding.mapSpans (Span.shift left.toList line)) := by
  rw [findings_run_append line seam, findings_run options left, Piece.findings_within_of_uncut uncut]

theorem findings_run_append_of_cut (seam : MeetOutsideWord left.toList right.toList) {piece : Piece}
    (cut : piece.IsCutAtSeam options.legacyIntegers left.toList right.toList) :
    ∃ earlier, ∃ report : Diagnostic,
      (ofSource options left line).run.findings = earlier ++ [⟨none, some report⟩] ∧
      (ofSource options (left ++ right) line).run.findings =
        earlier ++ [⟨none, some report.withExponentNote⟩] ++
          (ofSource options right line).run.findings.map
            (Finding.mapSpans (Span.shift left.toList line)) ∧
      report.code = "E102" ∧ report.notes = [] ∧
      report.spans = [piece.span options.file line] := by
  obtain ⟨earlier, report, alone, noted, about⟩ := cut.exists_findings_within line
  refine ⟨earlier, report, ?_, ?_, about⟩
  · rw [findings_run, alone]
  · rw [findings_run_append line seam, noted]

theorem findings_run_of_blank {source : String} (blank : Text.isBlankText source = true) :
    (ofSource options source line).run.findings = [] := by
  rw [findings_run, pieces_eq_nil_of_blank (List.all_eq_true.mp blank)]
  rfl

/-- Blank characters between two texts keep them apart, and yield nothing themselves. -/
theorem findings_run_separated {separator : String} (nonempty : separator.toList ≠ [])
    (blank : Text.isBlankText separator = true) :
    (ofSource options (left ++ separator ++ right) line).run.findings =
      (ofSource options left line).run.findings ++
        (ofSource options right line).run.findings.map
          (Finding.mapSpans (Span.shift (left ++ separator).toList line)) := by
  have eachBlank := List.all_eq_true.mp blank
  have firstBlank : ∀ next ∈ separator.toList.head?, Text.isBlank next = true :=
    fun next found => eachBlank next (List.mem_of_mem_head? found)
  have lastBlank : ∀ last ∈ (left ++ separator).toList.getLast?, Text.isBlank last = true := by
    intro last found
    rw [String.toList_append, List.getLast?_append_of_ne_nil _ nonempty] at found
    exact eachBlank last (List.mem_of_mem_getLast? found)
  have firstSeam : MeetOutsideWord left.toList separator.toList := by
    obtain ⟨next, others, shape⟩ := List.exists_cons_of_ne_nil nonempty
    have found : next ∈ separator.toList.head? := by simp [shape]
    exact .inr (.inr (.inr ⟨next, found, not_isWordChar_of_isBlank (firstBlank next found)⟩))
  have secondSeam : MeetOutsideWord (left ++ separator).toList right.toList := by
    have some : (left ++ separator).toList ≠ [] := by simp [nonempty]
    have found := List.getLast?_eq_some_getLast some
    exact .inr (.inr (.inl ⟨_, found, not_isWordChar_of_isBlank (lastBlank _ found)⟩))
  have firstUncut : ∀ piece : Piece,
      ¬piece.IsCutAtSeam options.legacyIntegers left.toList separator.toList :=
    fun piece cut => cut.not_blank_head firstBlank
  have secondUncut : ∀ piece : Piece,
      ¬piece.IsCutAtSeam options.legacyIntegers (left ++ separator).toList right.toList :=
    fun piece cut => cut.not_blank_getLast lastBlank
  rw [findings_run_append_of_uncut line secondSeam secondUncut,
    findings_run_append_of_uncut line firstSeam firstUncut, findings_run_of_blank line blank,
    List.map_nil, List.append_nil]

theorem filterMap_token_map_mapSpans (change : Span → Span) (findings : List Finding) :
    (findings.map (Finding.mapSpans change)).filterMap (·.token) =
      (findings.filterMap (·.token)).map (Token.mapSpan change) := by
  rw [List.filterMap_map, List.map_filterMap]
  rfl

theorem filterMap_diagnostic_map_mapSpans (change : Span → Span) (findings : List Finding) :
    (findings.map (Finding.mapSpans change)).filterMap (·.diagnostic) =
      (findings.filterMap (·.diagnostic)).map (Diagnostic.mapSpans change) := by
  rw [List.filterMap_map, List.map_filterMap]
  rfl

theorem run_append_of_uncut (seam : MeetOutsideWord left.toList right.toList)
    (uncut : ∀ piece : Piece,
      ¬piece.IsCutAtSeam options.legacyIntegers left.toList right.toList) :
    (ofSource options (left ++ right) line).run.tokens =
        (ofSource options left line).run.tokens ++
          (ofSource options right line).run.tokens.map
            (Token.mapSpan (Span.shift left.toList line)) ∧
      (ofSource options (left ++ right) line).run.diagnostics =
        (ofSource options left line).run.diagnostics ++
          (ofSource options right line).run.diagnostics.map
            (Diagnostic.mapSpans (Span.shift left.toList line)) := by
  simp only [tokens, diagnostics]
  rw [findings_run_append_of_uncut line seam uncut, List.filterMap_append, List.filterMap_append,
    filterMap_token_map_mapSpans, filterMap_diagnostic_map_mapSpans]
  exact ⟨rfl, rfl⟩

theorem run_append_of_cut (seam : MeetOutsideWord left.toList right.toList)
    {piece : Piece} (cut : piece.IsCutAtSeam options.legacyIntegers left.toList right.toList) :
    (ofSource options (left ++ right) line).run.tokens =
        (ofSource options left line).run.tokens ++
          (ofSource options right line).run.tokens.map
            (Token.mapSpan (Span.shift left.toList line)) ∧
      ∃ earlier report,
        (ofSource options left line).run.diagnostics = earlier ++ [report] ∧
        (ofSource options (left ++ right) line).run.diagnostics =
          earlier ++ report.withExponentNote ::
            (ofSource options right line).run.diagnostics.map
              (Diagnostic.mapSpans (Span.shift left.toList line)) ∧
        report.code = "E102" ∧ report.notes = [] ∧
        report.spans = [piece.span options.file line] := by
  obtain ⟨earlier, report, first, whole, about⟩ := findings_run_append_of_cut line seam cut
  simp only [tokens, diagnostics]
  rw [first, whole]
  refine ⟨?_, earlier.filterMap (·.diagnostic), report, ?_, ?_, about⟩
  · rw [List.filterMap_append, List.filterMap_append, List.filterMap_append,
      filterMap_token_map_mapSpans]
    rfl
  · rw [List.filterMap_append]
    rfl
  · rw [List.filterMap_append, List.filterMap_append, filterMap_diagnostic_map_mapSpans,
      List.append_assoc]
    rfl

/-- A text is refused together with everything that was reported on it. -/
def IsRefused (lexer : Lexer) : Prop := ∃ reports, lexer.result = .error reports

theorem isRefused_iff (lexer : Lexer) :
    lexer.IsRefused ↔ lexer.diagnostics.any Diagnostic.isError = true := by
  rw [IsRefused, result]
  cases lexer.diagnostics.any Diagnostic.isError <;> simp

theorem any_isError_map_mapSpans (change : Span → Span) (diagnostics : List Diagnostic) :
    (diagnostics.map (Diagnostic.mapSpans change)).any Diagnostic.isError =
      diagnostics.any Diagnostic.isError :=
  List.any_map

/-- Lexing goes over a seam that is outside of words. Tokens and diagnostics are those
of the first text and then those of the second one at their new places; a refused
word that is cut off before the sign of its exponent is the one exception, and its
report has a note more. The whole is refused when one of the two texts is. -/
theorem run_append (options : LexerOptions) (left right : String) (line : Int)
    (seam : MeetOutsideWord left.toList right.toList) :
    (ofSource options (left ++ right) line).run.tokens =
        (ofSource options left line).run.tokens ++
          (ofSource options right line).run.tokens.map
            (Token.mapSpan (Span.shift left.toList line)) ∧
      ((∀ piece : Piece,
          ¬piece.IsCutAtSeam options.legacyIntegers left.toList right.toList) →
        (ofSource options (left ++ right) line).run.diagnostics =
          (ofSource options left line).run.diagnostics ++
            (ofSource options right line).run.diagnostics.map
              (Diagnostic.mapSpans (Span.shift left.toList line))) ∧
      (∀ piece : Piece, piece.IsCutAtSeam options.legacyIntegers left.toList right.toList →
        ∃ earlier report,
          (ofSource options left line).run.diagnostics = earlier ++ [report] ∧
          report.code = "E102" ∧ report.notes = [] ∧
          report.spans = [piece.span options.file line] ∧
          (ofSource options (left ++ right) line).run.diagnostics =
            earlier ++ report.withExponentNote ::
              (ofSource options right line).run.diagnostics.map
                (Diagnostic.mapSpans (Span.shift left.toList line))) ∧
      ((ofSource options (left ++ right) line).run.IsRefused ↔
        (ofSource options left line).run.IsRefused ∨
          (ofSource options right line).run.IsRefused) := by
  by_cases cuts : ∃ piece : Piece,
      piece.IsCutAtSeam options.legacyIntegers left.toList right.toList
  · obtain ⟨piece, cut⟩ := cuts
    obtain ⟨tokensEq, earlier, report, first, whole, about⟩ := run_append_of_cut line seam cut
    refine ⟨tokensEq, fun uncut => absurd cut (uncut piece), fun other otherCut => ?_, ?_⟩
    · rw [otherCut.unique cut]
      exact ⟨earlier, report, first, about.1, about.2.1, about.2.2, whole⟩
    · rw [isRefused_iff, isRefused_iff, isRefused_iff, first, whole, List.any_append,
        List.any_append, List.any_cons, List.any_cons, any_isError_map_mapSpans,
        Diagnostic.isError_withExponentNote]
      simp [or_assoc]
  · have uncut := not_exists.mp cuts
    obtain ⟨tokensEq, diagnosticsEq⟩ := run_append_of_uncut line seam uncut
    refine ⟨tokensEq, fun _ => diagnosticsEq, fun piece cut => absurd cut (uncut piece), ?_⟩
    rw [isRefused_iff, isRefused_iff, isRefused_iff, diagnosticsEq, List.any_append,
      any_isError_map_mapSpans, Bool.or_eq_true]

/-- A sign after the word `1.e` is the exception. -/
theorem run_append_before_sign :
    let options : LexerOptions := ⟨"<expr>", false⟩
    let left := "x\n1.e"
    let right := "+ @"
    MeetOutsideWord left.toList right.toList ∧
      (⟨['x', '\n'], ['1', '.', 'e'], []⟩ : Piece).IsCutAtSeam false left.toList right.toList ∧
      ∃ earlier report,
        (ofSource options left 1).run.diagnostics = earlier ++ [report] ∧
        report.notes = [] ∧ report.spans = [⟨"<expr>", 2, 1, 2, 3⟩] ∧
        (ofSource options (left ++ right) 1).run.diagnostics =
          earlier ++ report.withExponentNote ::
            (ofSource options right 1).run.diagnostics.map
              (Diagnostic.mapSpans (Span.shift left.toList 1)) := by
  intro options left right
  have seam : MeetOutsideWord left.toList right.toList :=
    .inr (.inr (.inr ⟨'+', by decide, by decide +kernel⟩))
  have word : (⟨['x', '\n'], ['1', '.', 'e'], []⟩ : Piece).IsWord := by
    refine ⟨by decide, List.all_eq_true.mp (by decide +kernel), ?_, by simp⟩
    intro char found
    cases found
    decide +kernel
  have cut : (⟨['x', '\n'], ['1', '.', 'e'], []⟩ : Piece).IsCutAtSeam false
      left.toList right.toList :=
    ⟨⟨by decide, .inl word⟩, rfl, by decide +kernel,
      ⟨['1', '.'], 'e', rfl, .inl rfl⟩, '+', [' ', '@'], by decide, .inl rfl⟩
  obtain ⟨_, _, noted, _⟩ := run_append options left right 1 seam
  obtain ⟨earlier, report, first, _, plain, place, whole⟩ := noted _ cut
  exact ⟨seam, cut, earlier, report, first, plain, place, whole⟩

end Lexer

end ExprLexer
