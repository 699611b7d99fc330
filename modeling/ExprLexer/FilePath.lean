/-!
# File paths

A path text is split at slashes. Its tidy form drops empty and `.` components
and keeps `..`; its absolute form also resolves `..` against the components
before it, whether or not these exist.
-/

set_option autoImplicit false

namespace ExprLexer

/-- An absolute path: its components from the root on. -/
abbrev AbsolutePath := List String

namespace FilePath

/-- The pieces of a path text between slashes, empty ones too. -/
def pieces (path : String) : List String :=
  (path.toList.splitOn '/').map String.ofList

def components (path : String) : List String :=
  (pieces path).filter fun piece => piece ≠ "" ∧ piece ≠ "."

def isAbsolute (path : String) : Bool := path.toList.head? == some '/'

/-- What a tidy path starts with: nothing, one slash, or exactly two. -/
def rootText (path : String) : String :=
  match path.toList with
  | '/' :: '/' :: '/' :: _ => "/"
  | '/' :: '/' :: _ => "//"
  | '/' :: _ => "/"
  | _ => ""

/-- The tidy form of a path text; an empty one is the current directory. -/
def tidy (path : String) : String :=
  let text := rootText path ++ "/".intercalate (components path)
  if text = "" then "." else text

/-- Goes from a directory to one component of a path. -/
def enter (directory : AbsolutePath) (component : String) : AbsolutePath :=
  if component = ".." then directory.dropLast else directory ++ [component]

/-- The absolute form of a path text, seen from a directory. -/
def resolve (directory : AbsolutePath) (path : String) : AbsolutePath :=
  (components path).foldl enter (if isAbsolute path then [] else directory)

def absoluteText (path : AbsolutePath) : String := "/" ++ "/".intercalate path

/-- A path and the directories above it, the deepest first and the root last. -/
def ancestors (path : AbsolutePath) : List AbsolutePath :=
  (List.range (path.length + 1)).reverse.map path.take

end FilePath

end ExprLexer
