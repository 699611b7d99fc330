import ExprLexer.Diagnostic.Rendering
import ExprLexer.FileTree

/-!
# The renderer and its sources

A renderer keeps the sources it knows by name. A file that was not added is
read when a diagnostic first concerns it, and then kept; whatever is no readable
file counts as empty. A file that is not UTF-8 is a fault every time, since it is
never kept.
-/

set_option autoImplicit false

namespace ExprLexer

/-- The file of a span is not UTF-8. -/
structure UndecodableFile where
  name : String
  deriving DecidableEq

/-- A renderer: its palette and the sources it knows. -/
structure Renderer where
  palette : Palette
  sources : List SourceFile

namespace Renderer

def ofColor (color : Bool) : Renderer := ⟨Palette.ofColor color, []⟩

def source? (renderer : Renderer) (name : String) : Option SourceFile :=
  renderer.sources.find? fun source => source.name == name

/-- Makes a source known; it takes the place of one of the same name. -/
def addSource (renderer : Renderer) (source : SourceFile) : Renderer :=
  { renderer with
    sources := source :: renderer.sources.filter fun known => known.name != source.name }

/-- Reads the source of a name from a file tree, seen from a directory. -/
def readSource (tree : FileTree) (directory : AbsolutePath) (name : String) :
    Except UndecodableFile SourceFile :=
  match tree.lookup directory (FilePath.tidy name) with
  | .ok (.file bytes) =>
      match decodeFileText? bytes with
      | some content => .ok ⟨name, content⟩
      | none => .error ⟨name⟩
  | _ => .ok ⟨name, ""⟩

/-- Makes the source of a name known, unless it is so already. -/
def consult (tree : FileTree) (directory : AbsolutePath) (renderer : Renderer)
    (name : String) : Except UndecodableFile Renderer :=
  match renderer.source? name with
  | some _ => .ok renderer
  | none => (readSource tree directory name).map renderer.addSource

/-- Makes the sources of labels known, in order, up to the first that is a fault. -/
def consultAll (tree : FileTree) (directory : AbsolutePath) (renderer : Renderer) :
    List Label → Option UndecodableFile × Renderer
  | [] => (none, renderer)
  | label :: labels =>
      match renderer.consult tree directory label.span.file with
      | .ok known => known.consultAll tree directory labels
      | .error cause => (some cause, renderer)

/-- The line at which a span starts, from the sources that are known. -/
def lineAt? (renderer : Renderer) (span : Span) : Option String :=
  (renderer.source? span.file).bind fun source => source.lineAt? span.startLine

/-- Renders a diagnostic, and keeps the sources it needed. -/
def render (tree : FileTree) (directory : AbsolutePath) (renderer : Renderer)
    (diagnostic : Diagnostic) : Except UndecodableFile String × Renderer :=
  match renderer.consultAll tree directory diagnostic.labels with
  | (some cause, known) => (.error cause, known)
  | (none, known) => (.ok (diagnostic.render known.palette known.lineAt?), known)

def renderKnown (renderer : Renderer) (diagnostic : Diagnostic) : String :=
  diagnostic.render renderer.palette renderer.lineAt?

end Renderer

end ExprLexer
