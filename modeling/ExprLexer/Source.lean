import ExprLexer.Text.Line

/-!
# Sources

A source is a named text with its lines. A span names a range of a source by
lines and columns, counted from one and both ends included.
-/

set_option autoImplicit false

namespace ExprLexer

/-- A range of a source. Lines and columns are not checked against any text. -/
structure Span where
  file : String
  startLine : Int
  startColumn : Int
  endLine : Int
  endColumn : Int
  deriving DecidableEq

/-- The place of a span: its file and where it starts. -/
def Span.display (span : Span) : String :=
  s!"{span.file}:{span.startLine}:{span.startColumn}"

structure SourceFile where
  name : String
  content : String
  deriving DecidableEq

namespace SourceFile

def lines (source : SourceFile) : List String :=
  (Text.splitLines source.content.toList).map String.ofList

/-- The line of the given number, if the source has it. -/
def lineAt? (source : SourceFile) (number : Int) : Option String :=
  if 1 ≤ number then source.lines[(number - 1).toNat]? else none

end SourceFile

end ExprLexer
