import ExprLexer.Diagnostic.Rendering
import ExprLexer.Proofs.Text.CharClasses

/-! The rows of a rendered diagnostic. What a row has beyond printable ASCII comes from
the diagnostic or from a source line that is shown. -/

set_option autoImplicit false

namespace ExprLexer

def Text.isPlain (char : Char) : Bool := ' ' ≤ char && char ≤ '~'

namespace Diagnostic

def texts (diagnostic : Diagnostic) : List String :=
  diagnostic.code :: diagnostic.message ::
    ((diagnostic.labels.flatMap fun label => [label.span.file, label.message]) ++
      diagnostic.notes ++
      diagnostic.suggestions.flatMap fun suggestion =>
        [suggestion.message, suggestion.replacement])

def shownLines (lineAt? : Span → Option String) (diagnostic : Diagnostic) : List String :=
  diagnostic.labels.filterMap fun label => lineAt? label.span

section Foreign

variable {char : Char} {left right : String} {label : Label} {lineAt? : Span → Option String}
  {diagnostic : Diagnostic}

theorem not_mem_append (first : char ∉ left.toList) (second : char ∉ right.toList) :
    char ∉ (left ++ right).toList := by
  rw [String.toList_append, List.mem_append, not_or]
  exact ⟨first, second⟩

theorem not_mem_paint {text : String} (absent : char ∉ text.toList) :
    char ∉ (Palette.plain.paint "" text).toList := by
  simpa [Palette.paint, Palette.plain] using absent

variable (foreign : Text.isPlain char = false)
include foreign

theorem not_mem_of_isPlain {text : String} (plain : text.toList.all Text.isPlain = true) :
    char ∉ text.toList := by
  intro member
  rw [List.all_eq_true.mp plain char member] at foreign
  cases foreign

theorem not_mem_toString (value : Int) : char ∉ (toString value).toList := by
  intro member
  rcases Text.isDigit_or_eq_of_mem_repr member with digit | rfl
  · have plain : Text.isPlain char = true := by
      simp only [Char.isDigit, Bool.and_eq_true, decide_eq_true_eq] at digit
      simp only [Text.isPlain, Bool.and_eq_true, decide_eq_true_eq]
      exact ⟨UInt32.le_trans (by decide) digit.1, UInt32.le_trans digit.2 (by decide)⟩
    rw [plain] at foreign
    cases foreign
  · exact absurd foreign (by decide)

theorem not_mem_repeated {other : Char} (plain : Text.isPlain other = true) (count : Int) :
    char ∉ (repeated other count).toList := by
  rw [repeated, String.toList_ofList, List.mem_replicate, not_and]
  rintro _ rfl
  rw [plain] at foreign
  cases foreign

theorem not_mem_gutter {text : String} (absent : char ∉ text.toList) :
    char ∉ (gutter Palette.plain text).toList :=
  not_mem_append (not_mem_of_isPlain foreign (by decide))
    (not_mem_paint (not_mem_append
      (not_mem_append (not_mem_repeated foreign (by decide) _) absent)
      (not_mem_of_isPlain foreign (by decide))))

theorem not_mem_markerRows (message : char ∉ label.message.toList) :
    ∀ row ∈ markerRows Palette.plain "" label, char ∉ row.toList := by
  intro row member
  have frame : char ∉ (gutter Palette.plain "" ++ " ").toList :=
    not_mem_append (not_mem_gutter foreign (not_mem_of_isPlain foreign (by decide)))
      (not_mem_of_isPlain foreign (by decide))
  unfold markerRows at member
  dsimp only at member
  split at member
  · rw [List.mem_singleton] at member
    subst member
    refine not_mem_append (not_mem_append frame (not_mem_append
      (not_mem_repeated foreign (by decide) _)
      (not_mem_paint (not_mem_repeated foreign (by decide) _)))) ?_
    split
    · exact not_mem_of_isPlain foreign (by decide)
    · exact not_mem_append (not_mem_of_isPlain foreign (by decide))
        (not_mem_paint message)
  · split at member
    · cases member
    · rw [List.mem_singleton] at member
      subst member
      exact not_mem_append frame (not_mem_paint message)

theorem not_mem_display {span : Span} (file : char ∉ span.file.toList) :
    char ∉ span.display.toList := by
  have colon : char ∉ (":" : String).toList := not_mem_of_isPlain foreign (by decide)
  exact not_mem_append (not_mem_append (not_mem_append (not_mem_append file colon)
    (not_mem_toString foreign _)) colon) (not_mem_toString foreign _)

theorem not_mem_labelRows {sourceLine : Option String} (file : char ∉ label.span.file.toList)
    (message : char ∉ label.message.toList) (shown : ∀ line ∈ sourceLine, char ∉ line.toList) :
    ∀ row ∈ labelRows Palette.plain "" label sourceLine, char ∉ row.toList := by
  have space : char ∉ (" " : String).toList := not_mem_of_isPlain foreign (by decide)
  intro row member
  simp only [labelRows, List.mem_append, List.mem_cons, List.not_mem_nil, or_false,
    Option.mem_toList, Option.map_eq_some_iff] at member
  rcases member with ((rfl | rfl) | ⟨line, found, rfl⟩) | marker
  · refine not_mem_append (not_mem_append (not_mem_append ?_ ?_) space)
      (not_mem_display foreign file)
    · exact not_mem_of_isPlain foreign (by decide)
    · exact not_mem_paint (not_mem_of_isPlain foreign (by decide))
  · exact not_mem_gutter foreign (not_mem_of_isPlain foreign (by decide))
  · exact not_mem_append (not_mem_append (not_mem_gutter foreign (not_mem_toString foreign _))
      space) (shown line found)
  · exact not_mem_markerRows foreign message row marker

theorem not_mem_remarkRow {text : String} (absent : char ∉ text.toList) :
    char ∉ (remarkRow Palette.plain text).toList := by
  refine not_mem_append (not_mem_append (not_mem_append ?_ ?_) ?_) absent
  · exact not_mem_of_isPlain foreign (by decide)
  · exact not_mem_paint (not_mem_of_isPlain foreign (by decide))
  · exact not_mem_of_isPlain foreign (by decide)

theorem not_mem_rows (absent : ∀ text ∈ diagnostic.texts, char ∉ text.toList)
    (shown : ∀ line ∈ diagnostic.shownLines lineAt?, char ∉ line.toList) :
    ∀ row ∈ rows Palette.plain lineAt? diagnostic, char ∉ row.toList := by
  have plain {text : String} (plain : text.toList.all Text.isPlain = true) :=
    not_mem_of_isPlain foreign plain
  simp only [texts, List.mem_cons, List.mem_append, List.mem_flatMap, List.not_mem_nil,
    or_false] at absent
  have noCode : Palette.plain.severity diagnostic.severity = "" := by
    cases diagnostic.severity <;> rfl
  intro row member
  simp only [rows, noCode, List.mem_cons, List.mem_append, List.mem_flatMap, List.mem_map]
    at member
  rcases member with rfl | (⟨label, listed, member⟩ | ⟨note, listed, rfl⟩) |
      ⟨suggestion, listed, rfl⟩
  · refine not_mem_append (not_mem_paint (not_mem_append (not_mem_append (not_mem_append ?_ ?_)
      ?_) ?_)) (not_mem_paint (not_mem_append ?_ ?_))
    · cases diagnostic.severity <;> exact plain (by decide)
    · exact plain (by decide)
    · exact absent _ (.inl rfl)
    · exact plain (by decide)
    · exact plain (by decide)
    · exact absent _ (.inr (.inl rfl))
  · refine not_mem_labelRows foreign ?_ ?_ ?_ row member
    · exact absent _ (.inr (.inr (.inl (.inl ⟨label, listed, .inl rfl⟩))))
    · exact absent _ (.inr (.inr (.inl (.inl ⟨label, listed, .inr rfl⟩))))
    · exact fun line found => shown line (List.mem_filterMap.mpr ⟨label, listed, found⟩)
  · exact not_mem_remarkRow foreign (not_mem_append (plain (by decide))
      (absent _ (.inr (.inr (.inl (.inr listed))))))
  · refine not_mem_remarkRow foreign (not_mem_append (not_mem_append (not_mem_append
      (not_mem_append ?_ ?_) ?_) ?_) ?_)
    · exact plain (by decide)
    · exact absent _ (.inr (.inr (.inr ⟨suggestion, listed, .inl rfl⟩)))
    · exact plain (by decide)
    · exact absent _ (.inr (.inr (.inr ⟨suggestion, listed, .inr rfl⟩)))
    · exact plain (by decide)

end Foreign

end Diagnostic

end ExprLexer
