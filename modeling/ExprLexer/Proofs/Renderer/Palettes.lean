import ExprLexer.Proofs.Renderer.Rows
import ExprLexer.Proofs.Text.ControlSequences
import ExprLexer.Renderer

/-! Colour does not change what is read. The codes of a palette stand where no control
sequence of the texts around them can reach over them, so that with all sequences gone a
coloured rendering is the plain one, whatever sequences the texts have of their own. -/

set_option autoImplicit false

namespace ExprLexer

/-! ## Texts -/

namespace Text

/-- What a text shows, without its control sequences. -/
def visible (text : String) : String := String.ofList (stripControls text.toList)

section Visible

variable {left right text : String}

theorem visible_append (parts : Parts left.toList right.toList) :
    visible (left ++ right) = visible left ++ visible right := by
  rw [visible, String.toList_append, stripControls_append parts, String.ofList_append]
  rfl

theorem visible_of_not_mem (absent : escapeChar ∉ text.toList) : visible text = text := by
  rw [visible, stripControls_of_not_mem absent, String.ofList_toList]

theorem visible_empty : visible "" = "" := visible_of_not_mem (by decide)

theorem isClosed_append_singleton {char : Char} (closed : leavesOpen char = false)
    (text : List Char) : IsClosed (text ++ [char]) := by
  intro last found
  rw [List.getLast?_concat, Option.mem_some] at found
  exact found ▸ closed

/-- Texts around a character that has no part in control sequences are apart. -/
theorem visible_separated (separator : Char) (closed : leavesOpen separator = false)
    (fresh : goesOn separator = false) (left right : String) :
    visible (left ++ String.singleton separator ++ right) =
      visible left ++ String.singleton separator ++ visible right := by
  have before : Parts left.toList (String.singleton separator).toList :=
    .inr (by rw [String.toList_singleton]; exact .cons fresh [])
  have after : Parts (left ++ String.singleton separator).toList right.toList := by
    rw [String.toList_append, String.toList_singleton]
    exact .inl (isClosed_append_singleton closed _)
  have itself : visible (String.singleton separator) = String.singleton separator := by
    apply visible_of_not_mem
    rw [String.toList_singleton, List.mem_singleton]
    rintro rfl
    cases closed
  rw [visible_append after, visible_append before, itself]

theorem visible_spaced (left right : String) :
    visible (left ++ " " ++ right) = visible left ++ " " ++ visible right :=
  visible_separated ' ' (by decide) (by decide) left right

theorem visible_intercalate (rows : List String) :
    visible ("\n".intercalate rows) = "\n".intercalate (rows.map visible) := by
  induction rows with
  | nil => exact visible_empty
  | cons row rows ih =>
      cases rows with
      | nil => rw [String.intercalate_singleton, List.map_singleton, String.intercalate_singleton]
      | cons next rows =>
          rw [String.intercalate_cons_cons, List.map_cons, List.map_cons,
            String.intercalate_cons_cons, ← List.map_cons, ← ih]
          exact visible_separated '\n' (by decide) (by decide) row _

theorem visible_spaces_append {spaces : String} (blank : ∀ char ∈ spaces.toList, char = ' ')
    (right : String) : visible (spaces ++ right) = spaces ++ visible right := by
  have closed : IsClosed spaces.toList := by
    intro last found
    rw [blank last (List.mem_of_getLast? found)]
    decide
  have itself : visible spaces = spaces := by
    apply visible_of_not_mem
    intro member
    exact absurd (blank _ member) (by decide)
  rw [visible_append (.inl closed), itself]

end Visible

theorem IsInvisible.isFresh_append {code text : List Char} (invisible : IsInvisible code)
    (fresh : IsFresh text) : IsFresh (code ++ text) := by
  rcases invisible with rfl | ⟨rest, rfl, _⟩
  · exact fresh
  · exact .cons (by decide) _

end Text

/-! ## Rows -/

/-- Every code of a palette is a control sequence, or empty. -/
structure Palette.IsInvisible (palette : Palette) : Prop where
  severity : ∀ severity, Text.IsInvisible (palette.severity severity).toList
  bold : Text.IsInvisible palette.bold.toList
  frame : Text.IsInvisible palette.frame.toList
  reset : Text.IsInvisible palette.reset.toList

namespace Palette

theorem isInvisible_ofColor (color : Bool) : (ofColor color).IsInvisible := by
  cases color with
  | false =>
      have empty (severity : Severity) : (ofColor false).severity severity = "" := by
        cases severity <;> rfl
      exact ⟨fun severity => .inl (by rw [empty]; rfl), .inl rfl, .inl rfl, .inl rfl⟩
  | true =>
      have single (severity : Severity) :
          Text.IsInvisible ((ofColor true).severity severity).toList := by
        cases severity <;> exact .inr ⟨_, rfl, rfl⟩
      exact ⟨single, .inr ⟨_, rfl, rfl⟩, .inr ⟨_, rfl, rfl⟩, .inr ⟨_, rfl, rfl⟩⟩

theorem IsInvisible.visible_paint {palette : Palette} {code : String}
    (invisible : palette.IsInvisible) (hidden : Text.IsInvisible code.toList) (text : String) :
    Text.visible (palette.paint code text) = Text.visible text := by
  have shown : (palette.paint code text).toList =
      code.toList ++ (text.toList ++ (palette.reset.toList ++ [])) := by
    rw [paint, String.toList_append, String.toList_append, List.append_nil, List.append_assoc]
  have before : Text.Parts [] (text.toList ++ (palette.reset.toList ++ [])) := .inl Text.isClosed_nil
  have after : Text.Parts text.toList [] := .inr Text.isFresh_nil
  rw [Text.visible, shown]
  exact congrArg String.ofList ((Text.stripControls_insert hidden before).trans
    ((Text.stripControls_insert invisible.reset after).trans (by rw [List.append_nil])))

end Palette

namespace Diagnostic

open Text

section Rows

variable {palette other : Palette} (first : palette.IsInvisible) (second : other.IsInvisible)
include first second

theorem visible_frame (text : String) :
    visible ("  " ++ palette.paint palette.frame text) =
      visible ("  " ++ other.paint other.frame text) := by
  have blank : ∀ char ∈ ("  " : String).toList, char = ' ' := by simp
  rw [visible_spaces_append blank, visible_spaces_append blank, first.visible_paint first.frame,
    second.visible_paint second.frame]

theorem visible_framed (frame text : String) :
    visible ("  " ++ palette.paint palette.frame frame ++ " " ++ text) =
      visible ("  " ++ other.paint other.frame frame ++ " " ++ text) := by
  rw [visible_spaced, visible_spaced, visible_frame first second]

theorem visible_colored (severity : Severity) (text : String) :
    visible (palette.paint (palette.severity severity) text) =
      visible (other.paint (other.severity severity) text) := by
  rw [first.visible_paint (first.severity severity),
    second.visible_paint (second.severity severity)]

theorem visible_markerRows (severity : Severity) (label : Label) :
    (markerRows palette (palette.severity severity) label).map visible =
      (markerRows other (other.severity severity) label).map visible := by
  have frame := visible_frame first second (repeated ' ' (4 - ("" : String).length) ++ "" ++ " |")
  have spaces : ∀ char ∈ (repeated ' ' (label.span.startColumn - 1)).toList, char = ' ' := by
    rw [repeated, String.toList_ofList]
    exact fun char member => List.eq_of_mem_replicate member
  have marker (carets : String) :
      visible (gutter palette "" ++ " " ++ (repeated ' ' (label.span.startColumn - 1) ++
        palette.paint (palette.severity severity) carets)) =
      visible (gutter other "" ++ " " ++ (repeated ' ' (label.span.startColumn - 1) ++
        other.paint (other.severity severity) carets)) := by
    rw [visible_spaced, visible_spaced, visible_spaces_append spaces,
      visible_spaces_append spaces, visible_colored first second]
    exact congrArg (· ++ " " ++ _) frame
  unfold markerRows
  dsimp only
  -- On one line there are codes around the carets and around the message, if there is one.
  split
  · rw [List.map_singleton, List.map_singleton]
    split
    · rw [String.append_empty, String.append_empty, marker]
    · have suffixed (left right : String) :
          visible (left ++ (" " ++ right)) = visible left ++ " " ++ visible right := by
        rw [← String.append_assoc, visible_spaced]
      rw [suffixed, suffixed, marker, visible_colored first second]
  · split
    · rfl
    · rw [List.map_singleton, List.map_singleton, visible_spaced, visible_spaced,
        visible_colored first second]
      exact congrArg (fun shown => [shown ++ " " ++ _]) frame

theorem visible_labelRows (severity : Severity) (label : Label) (sourceLine : Option String) :
    (labelRows palette (palette.severity severity) label sourceLine).map visible =
      (labelRows other (other.severity severity) label sourceLine).map visible := by
  have framed := visible_framed first second
  have source : (sourceLine.map fun line => visible
      (gutter palette (toString label.span.startLine) ++ " " ++ line)) =
      sourceLine.map fun line => visible
        (gutter other (toString label.span.startLine) ++ " " ++ line) :=
    congrArg (Option.map · sourceLine) (funext fun line => framed _ line)
  have gutters : visible (gutter palette "") = visible (gutter other "") :=
    visible_frame first second _
  rw [labelRows, labelRows]
  simp only [List.map_append, List.map_cons, List.map_nil, framed, gutters,
    visible_markerRows first second]
  cases sourceLine with
  | none => rfl
  | some line => simpa using source

theorem visible_header (severity : Severity) (title message : String) :
    visible (palette.paint (palette.severity severity) title ++
        palette.paint palette.bold (": " ++ message)) =
      visible (other.paint (other.severity severity) title ++
        other.paint other.bold (": " ++ message)) := by
  have apart (palette : Palette) (invisible : palette.IsInvisible) (left : String) :
      Parts left.toList (palette.paint palette.bold (": " ++ message)).toList := by
    rw [Palette.paint, String.toList_append, String.toList_append, String.toList_append,
      List.append_assoc, List.append_assoc]
    exact .inr (invisible.bold.isFresh_append (.cons (show goesOn ':' = false by decide) _))
  rw [visible_append (apart palette first _), visible_append (apart other second _),
    visible_colored first second, first.visible_paint first.bold, second.visible_paint second.bold]

theorem visible_rows (lineAt? : Span → Option String) (diagnostic : Diagnostic) :
    (rows palette lineAt? diagnostic).map visible = (rows other lineAt? diagnostic).map visible := by
  have remark (text : String) : visible (remarkRow palette text) = visible (remarkRow other text) :=
    visible_framed first second _ text
  simp only [rows, List.map_cons, List.map_append, List.map_flatMap, List.map_map,
    Function.comp_def, remark, visible_header first second, visible_labelRows first second]

end Rows

theorem visible_render {palette other : Palette} (first : palette.IsInvisible) (second : other.IsInvisible)
    (lineAt? : Span → Option String) (diagnostic : Diagnostic) :
    visible (diagnostic.render palette lineAt?) = visible (diagnostic.render other lineAt?) := by
  rw [render, render, visible_intercalate, visible_intercalate, visible_rows first second]

theorem visible_render_plain {lineAt? : Span → Option String} {diagnostic : Diagnostic}
    (absent : ∀ text ∈ diagnostic.texts ++ diagnostic.shownLines lineAt?,
      escapeChar ∉ text.toList) :
    visible (diagnostic.render Palette.plain lineAt?) = diagnostic.render Palette.plain lineAt? := by
  have rowsAbsent := not_mem_rows (show isPlain escapeChar = false by decide)
    (fun text member => absent text (List.mem_append_left _ member))
    (fun line member => absent line (List.mem_append_right _ member))
  have itself : (rows Palette.plain lineAt? diagnostic).map visible =
      (rows Palette.plain lineAt? diagnostic).map id :=
    List.map_congr_left fun row member => visible_of_not_mem (rowsAbsent row member)
  rw [render, visible_intercalate, itself, List.map_id]

end Diagnostic

/-! ## Renderers -/

namespace Renderer

def withPalette (renderer : Renderer) (palette : Palette) : Renderer := { renderer with palette }

section Renderers

variable (tree : FileTree) (directory : AbsolutePath) (renderer : Renderer) (palette : Palette)

theorem consult_withPalette (name : String) :
    (renderer.withPalette palette).consult tree directory name =
      (renderer.consult tree directory name).map (withPalette · palette) := by
  have known : (renderer.withPalette palette).source? name = renderer.source? name := rfl
  rw [consult, consult, known]
  cases renderer.source? name with
  | some source => rfl
  | none => cases readSource tree directory name <;> rfl

theorem consultAll_withPalette (labels : List Label) :
    (renderer.withPalette palette).consultAll tree directory labels =
      (renderer.consultAll tree directory labels).map id (withPalette · palette) := by
  induction labels generalizing renderer with
  | nil => rfl
  | cons label labels ih =>
      rw [consultAll, consultAll, consult_withPalette]
      cases renderer.consult tree directory label.span.file with
      | ok known => exact ih known
      | error cause => rfl

/-- The palette has no part in which sources are looked up and which of them are found. -/
theorem render_withPalette (diagnostic : Diagnostic) :
    (renderer.withPalette palette).render tree directory diagnostic =
      let (outcome, known) := renderer.render tree directory diagnostic
      (outcome.map fun _ => diagnostic.render palette known.lineAt?,
        known.withPalette palette) := by
  rw [render, render, consultAll_withPalette]
  rcases renderer.consultAll tree directory diagnostic.labels with ⟨cause | _, known⟩
  · rfl
  · rfl

end Renderers

end Renderer

end ExprLexer
