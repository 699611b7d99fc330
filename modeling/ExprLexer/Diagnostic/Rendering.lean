import ExprLexer.Diagnostic

/-!
# Rendering of diagnostics

A diagnostic is shown as a header, then for each label its place, the source
line and a row of carets under the span, then notes and suggestions. Colours
come from a palette; the plain palette has empty codes, so that colour never
changes the layout.
-/

set_option autoImplicit false

namespace ExprLexer

/-- The control sequences that change the look of a text. -/
structure Palette where
  error : String
  warning : String
  bold : String
  frame : String
  reset : String

namespace Palette

def colored : Palette where
  error := "\x1b[1;31m"
  warning := "\x1b[1;33m"
  bold := "\x1b[1m"
  frame := "\x1b[1;34m"
  reset := "\x1b[0m"

def plain : Palette := ⟨"", "", "", "", ""⟩

def ofColor (color : Bool) : Palette := if color then colored else plain

def severity (palette : Palette) : Severity → String
  | .error => palette.error
  | .warning => palette.warning

def paint (palette : Palette) (code text : String) : String := code ++ text ++ palette.reset

end Palette

namespace Diagnostic

/-- A character a number of times; none for a negative number. -/
def repeated (char : Char) (count : Int) : String :=
  String.ofList (List.replicate count.toNat char)

/-- The left frame of a row, with a text aligned to the right in four columns. -/
def gutter (palette : Palette) (text : String) : String :=
  "  " ++ palette.paint palette.frame (repeated ' ' (4 - text.length) ++ text ++ " |")

/-- The row under the source line, if the span lies on one line, or else the
message alone, if there is one. -/
def markerRows (palette : Palette) (code : String) (label : Label) : List String :=
  let span := label.span
  let message := palette.paint code label.message
  if span.startLine = span.endLine then
    let padding := repeated ' ' (span.startColumn - 1)
    let carets := repeated '^' (max 1 (span.endColumn - span.startColumn + 1))
    let marker := padding ++ palette.paint code carets
    let suffix := if label.message = "" then "" else " " ++ message
    [gutter palette "" ++ " " ++ marker ++ suffix]
  else if label.message = "" then []
  else [gutter palette "" ++ " " ++ message]

def labelRows (palette : Palette) (code : String) (label : Label)
    (sourceLine : Option String) : List String :=
  let place := "  " ++ palette.paint palette.frame "-->" ++ " " ++ label.span.display
  let sourceRow :=
    sourceLine.map fun line => gutter palette (toString label.span.startLine) ++ " " ++ line
  [place, gutter palette ""] ++ sourceRow.toList ++ markerRows palette code label

def remarkRow (palette : Palette) (text : String) : String :=
  "  " ++ palette.paint palette.frame "=" ++ " " ++ text

/-- The rows of a diagnostic, where `lineAt?` gives the line at which a span starts. -/
def rows (palette : Palette) (lineAt? : Span → Option String) (diagnostic : Diagnostic) :
    List String :=
  let code := palette.severity diagnostic.severity
  let header :=
    palette.paint code (diagnostic.severity.word ++ "[" ++ diagnostic.code ++ "]")
      ++ palette.paint palette.bold (": " ++ diagnostic.message)
  let labels :=
    diagnostic.labels.flatMap fun label => labelRows palette code label (lineAt? label.span)
  let notes := diagnostic.notes.map fun note => remarkRow palette ("note: " ++ note)
  let suggestions := diagnostic.suggestions.map fun suggestion =>
    remarkRow palette s!"help: {suggestion.message}: `{suggestion.replacement}`"
  header :: (labels ++ notes ++ suggestions)

def render (palette : Palette) (lineAt? : Span → Option String) (diagnostic : Diagnostic) :
    String :=
  "\n".intercalate (rows palette lineAt? diagnostic)

end Diagnostic

end ExprLexer
