import ExprLexer.FileTree
import ExprLexer.Number.Basic
import ExprLexer.Toml.Reader
import ExprLexer.Toml.Written

/-!
# Settings

Two settings can be made in a file `algot.toml`. The file that counts is the one
in the deepest directory above a start path that has an entry of that name; what
it does not set has its default, whatever other such files say.
-/

set_option autoImplicit false

namespace ExprLexer

structure Settings where
  /-- Whether digit strings are variables. -/
  legacyIntegers : Bool := false
  color : Bool := true
  deriving DecidableEq

inductive SettingsFault where
  | notFound
  | path (cause : PathFault)
  | isDirectory
  | undecodable
  | document (cause : Toml.Fault)
  /-- A name that should be that of a table has another value. -/
  | notTable (name : String)
  | notBoolean (table name : String) (value : Toml.Value)

namespace Settings

def fileName : String := "algot.toml"

end Settings

/-- How the libraries that decode and read a settings file word what is wrong with the
content at hand. -/
structure FaultWording where
  undecodable : String
  malformed : String

/-- The wording where no library has a say. -/
def FaultWording.own : FaultWording where
  undecodable := "the settings file is not UTF-8"
  malformed := "the settings file is not a TOML document"

namespace SettingsFault

/-- What a fault is reported as. A value too long to be written is reported as such. -/
def messageIn (wording : FaultWording) : SettingsFault → String
  | .notFound => s!"No {Settings.fileName} found in any parent directory"
  | .path cause => cause.message
  | .isDirectory => "the settings file is a directory"
  | .undecodable => wording.undecodable
  | .document .malformed => wording.malformed
  | .document (.longInteger digits) => (NumberFault.tooManyDigits digits).message
  | .notTable name => s!"{name} must be a table"
  | .notBoolean table name value =>
      match value.write? with
      | some text => s!"[{table}] {name} must be true or false, got {text}"
      | none =>
          s!"Exceeds the limit ({digitLimit} digits) for integer string conversion; "
            ++ s!"use {NumberFault.limitAdvice} to increase the limit"

def message : SettingsFault → String := messageIn .own

/-- Whether the content of the settings file is at fault, so that its user can be
told what to mend. -/
def isInvalidContent : SettingsFault → Bool
  | .undecodable => true
  | .document _ => true
  | .notBoolean _ _ _ => true
  | _ => false

/-- Whether there is no settings file, so that the defaults hold. -/
def isAbsence : SettingsFault → Bool
  | .notFound => true
  | .path .missing => true
  | _ => false

end SettingsFault

namespace Settings

/-! ## Finding the file -/

/-- The directory in which the search starts: the start itself, or the directory
of a start that is a file. -/
def searchBase (tree : FileTree) (start : AbsolutePath) : AbsolutePath :=
  match tree.follow start with
  | .ok (.file _) => start.dropLast
  | _ => start

/-- The settings file of the first of some directories that has one. A path that is
too long to be followed ends the search. -/
def firstIn (tree : FileTree) : List AbsolutePath → Except SettingsFault AbsolutePath
  | [] => .error .notFound
  | directory :: others =>
      match tree.follow (directory ++ [fileName]) with
      | .ok _ => .ok (directory ++ [fileName])
      | .error .nameTooLong => .error (.path .nameTooLong)
      | .error _ => firstIn tree others

/-- The settings file nearest to a path, which need not exist. -/
def find (tree : FileTree) (directory : AbsolutePath) (start : Option String) :
    Except SettingsFault AbsolutePath :=
  let path := start.getD "."
  if path.toList.contains '\x00' then .error (.path .nulInName)
  else
    let resolved := FilePath.resolve directory path
    match tree.follow resolved with
    | .error .nameTooLong => .error (.path .nameTooLong)
    | _ => firstIn tree (FilePath.ancestors (searchBase tree resolved))

/-! ## Reading the file -/

/-- A setting from a table of a document: the default if the table or the name is
missing. -/
def booleanIn (document : Toml.Table) (table name : String) (default : Bool) :
    Except SettingsFault Bool :=
  match Toml.Table.find? document table with
  | none => .ok default
  | some (.table entries) =>
      match Toml.Table.find? entries name with
      | none => .ok default
      | some (.boolean value) => .ok value
      | some value => .error (.notBoolean table name value)
  | some _ => .error (.notTable table)

def ofDocument (document : Toml.Table) : Except SettingsFault Settings := do
  let legacyIntegers ← booleanIn document "lexer" "legacy_integers" false
  let color ← booleanIn document "output" "color" true
  return { legacyIntegers, color }

def ofBytes (bytes : ByteArray) : Except SettingsFault Settings :=
  match String.fromUTF8? bytes with
  | none => .error .undecodable
  | some text =>
      match Toml.read text with
      | .error cause => .error (.document cause)
      | .ok document => ofDocument document

/-- The settings of a file that was looked up. -/
def ofEntry : Except PathFault FileEntry → Except SettingsFault Settings
  | .ok (.file bytes) => ofBytes bytes
  | .ok .directory => .error .isDirectory
  | .error cause => .error (.path cause)

def load (tree : FileTree) (directory : AbsolutePath) (path : String) :
    Except SettingsFault Settings :=
  ofEntry (tree.lookup directory (FilePath.tidy path))

/-- The settings of the nearest settings file, or the defaults if there is none. -/
def resolve (tree : FileTree) (directory : AbsolutePath) (start : Option String) :
    Except SettingsFault Settings :=
  match (find tree directory start).bind fun found => ofEntry (tree.follow found) with
  | .ok settings => .ok settings
  | .error cause => if cause.isAbsence then .ok {} else .error cause

end Settings

end ExprLexer
