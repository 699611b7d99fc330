import ExprLexer.FilePath
import ExprLexer.Text.Line

/-!
# File trees

A snapshot of files and directories, asked by absolute paths. There are no
symbolic links in it, so that a path can be resolved without asking for its
entries, and no entry that cannot be read. Opening a path text walks over it piece
by piece, and every piece but the last must lead to a directory that is there.
-/

set_option autoImplicit false

namespace ExprLexer

inductive FileEntry where
  | file (bytes : ByteArray)
  | directory

inductive PathFault where
  /-- There is no such entry, or a directory on the way is not there. -/
  | missing
  /-- Something on the way is a file. -/
  | notDirectory
  | nameTooLong
  | nulInName
  deriving DecidableEq

def PathFault.message : PathFault → String
  | .missing => "no such file or directory"
  | .notDirectory => "not a directory"
  | .nameTooLong => "file name too long"
  | .nulInName => "embedded null byte"

/-- The entries of a file tree: files and directories that can be read, and no links. -/
structure FileTree where
  entry? : AbsolutePath → Option FileEntry

namespace FileTree

def empty : FileTree where
  entry? path := if path = [] then some .directory else none

def insert (tree : FileTree) (path : AbsolutePath) (entry : FileEntry) : FileTree where
  entry? asked := if asked = path then some entry else tree.entry? asked

/-- The tree with a directory and all directories above it. -/
def makeDirectories (tree : FileTree) (path : AbsolutePath) : FileTree :=
  (FilePath.ancestors path).foldl (fun grown directory => grown.insert directory .directory) tree

/-- The tree with a file and all directories above it. -/
def writeFile (tree : FileTree) (path : AbsolutePath) (bytes : ByteArray) : FileTree :=
  (tree.makeDirectories path.dropLast).insert path (.file bytes)

/-- The longest component that a directory can hold, in bytes. -/
def longestName : Nat := 255

/-- The longest path text that can be followed, in bytes. -/
def longestPath : Nat := 4095

/-- One step of a walk: only a directory that is there can be entered. -/
def walkInto (tree : FileTree) (directory : AbsolutePath) (piece : String) :
    Except PathFault AbsolutePath :=
  match tree.entry? directory with
  | none => .error .missing
  | some (.file _) => .error .notDirectory
  | some .directory =>
      if piece = "" ∨ piece = "." then .ok directory
      else if longestName < piece.utf8ByteSize then .error .nameTooLong
      else .ok (FilePath.enter directory piece)

/-- Walks from a directory over pieces of a path to an entry. -/
def walk (tree : FileTree) : AbsolutePath → List String → Except PathFault FileEntry
  | place, [] =>
      match tree.entry? place with
      | some entry => .ok entry
      | none => .error .missing
  | place, piece :: pieces =>
      match tree.walkInto place piece with
      | .ok next => tree.walk next pieces
      | .error cause => .error cause

/-- The entry that a path text leads to, seen from a directory. -/
def lookup (tree : FileTree) (directory : AbsolutePath) (path : String) :
    Except PathFault FileEntry :=
  if path.toList.contains '\x00' then .error .nulInName
  else if longestPath < path.utf8ByteSize then .error .nameTooLong
  else if path = "" then .error .missing
  else tree.walk (if FilePath.isAbsolute path then [] else directory) (FilePath.pieces path)

def follow (tree : FileTree) (path : AbsolutePath) : Except PathFault FileEntry :=
  if longestPath < (FilePath.absoluteText path).utf8ByteSize then .error .nameTooLong
  else tree.walk [] path

end FileTree

/-- The text of a file: its bytes are UTF-8, and its line ends are made line feeds. -/
def decodeFileText? (bytes : ByteArray) : Option String :=
  (String.fromUTF8? bytes).map fun text =>
    String.ofList (Text.normalizeNewlines text.toList)

end ExprLexer
