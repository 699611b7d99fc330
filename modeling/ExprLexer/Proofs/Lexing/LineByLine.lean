import ExprLexer.Proofs.Lexing.Concatenation
import ExprLexer.Proofs.Text.LineBreaks

/-! Lexing a text in one run finds what lexing its lines alone finds, each at its
number, as long as line feeds are the only line breaks. -/

set_option autoImplicit false

namespace ExprLexer

/-! ## Lines of a text -/

namespace Text

variable {line rest : List Char}

def BreaksByLineFeed (text : List Char) : Prop :=
  ∀ char ∈ text, isLineBreak char = true → char = '\n'

instance (text : List Char) : Decidable (BreaksByLineFeed text) :=
  List.decidableBAll _ text

theorem BreaksByLineFeed.not_isLineBreak (breaks : BreaksByLineFeed line) (within : '\n' ∉ line) :
    ∀ char ∈ line, isLineBreak char = false := by
  intro char member
  by_contra ending
  have feed := breaks char member (by simpa using ending)
  exact within (feed ▸ member)

/-- A text is one line, or a line and a text after its line feed. -/
theorem lineInduction {motive : List Char → Prop}
    (single : ∀ line, '\n' ∉ line → motive line)
    (ended : ∀ line rest, '\n' ∉ line → motive rest → motive (line ++ '\n' :: rest))
    (text : List Char) : motive text := by
  -- The line is kept apart while the text is taken character by character.
  suffices general : ∀ line, '\n' ∉ line → motive (line ++ text) from general [] (by simp)
  induction text with
  | nil =>
      intro line within
      rw [List.append_nil]
      exact single line within
  | cons char text ih =>
      intro line within
      by_cases feed : char = '\n'
      · subst feed
        exact ended line text within (ih [] (by simp))
      · rw [List.append_cons]
        exact ih (line ++ [char]) (by simp [within, Ne.symm feed])

end Text

/-! ## Lexing the lines alone -/

theorem Piece.IsPieceOf.finding_later {piece : Piece} {source before : List Char}
    (valid : piece.IsPieceOf source) (fresh : Text.lastLine before = []) (options : LexerOptions)
    (line : Int) :
    piece.finding options (line + before.count '\n') =
      (piece.finding options line).mapSpans (Span.shift before line) := by
  refine finding_eq_mapSpans rfl (fun _ => rfl) ?_
  rw [valid.span_eq, valid.span_eq]
  simp only [Span.shift, fresh, Span.mk.injEq, true_and]
  split <;> simp <;> omega

namespace Lexer

variable (options : LexerOptions)

/-- After text that ends a line, a run is a run from a later line. -/
theorem findings_run_later {before : List Char} (fresh : Text.lastLine before = [])
    (source : String) (line : Int) :
    (ofSource options source (line + before.count '\n')).run.findings =
      (ofSource options source line).run.findings.map
        (Finding.mapSpans (Span.shift before line)) := by
  rw [findings_run, findings_run, List.map_map]
  refine List.map_congr_left fun piece member => ?_
  exact (mem_pieces_iff.mp member).finding_later fresh options line

theorem findings_run_cons_line {line : List Char} (within : '\n' ∉ line) (rest : List Char)
    (number : Int) :
    (ofSource options (String.ofList (line ++ '\n' :: rest)) number).run.findings =
      (ofSource options (String.ofList line) number).run.findings ++
        (ofSource options (String.ofList rest) (number + 1)).run.findings := by
  have whole : String.ofList (line ++ '\n' :: rest) =
      String.ofList line ++ "\n" ++ String.ofList rest := by
    rw [String.ext_iff]
    simp
  have ended : (String.ofList line ++ "\n").toList = line ++ ['\n'] := by simp
  have fresh : Text.lastLine (line ++ ['\n']) = [] := Text.lastLine_append_newline line []
  have counted : (line ++ ['\n']).count '\n' = 1 := by
    simp [List.count_append, List.count_eq_zero.mpr within]
  have later := findings_run_later options fresh (String.ofList rest) number
  rw [counted] at later
  rw [whole, findings_run_separated number (by simp) (by decide), ended, ← later]
  rfl

theorem findings_run_eq_flatMap {text : List Char} (breaks : Text.BreaksByLineFeed text)
    (number : Nat) :
    (ofSource options (String.ofList text) number).run.findings =
      ((Text.splitLines text).zipIdx number).flatMap fun (line, number) =>
        (ofSource options (String.ofList line) number).run.findings := by
  induction text using Text.lineInduction generalizing number with
  | single line within =>
      by_cases empty : line = []
      · subst empty
        exact findings_run_of_blank number rfl
      · rw [Text.splitLines_of_unbroken empty (breaks.not_isLineBreak within)]
        simp
  | ended line rest within ih =>
      obtain ⟨lineBreaks, restBreaks⟩ := List.forall_mem_append.mp breaks
      have restBreaks := (List.forall_mem_cons.mp restBreaks).2
      have unbroken := Text.BreaksByLineFeed.not_isLineBreak lineBreaks within
      rw [Text.splitLines_append_cons unbroken (by decide) (by simp), List.zipIdx_cons,
        List.flatMap_cons, ← ih restBreaks, findings_run_cons_line options within]
      rfl

end Lexer

end ExprLexer
