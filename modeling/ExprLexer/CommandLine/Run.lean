import ExprLexer.CommandLine.Arguments
import ExprLexer.Lexer
import ExprLexer.Renderer
import ExprLexer.Settings
import ExprLexer.Text.Ansi

/-!
# Runs of the commands

A run takes the arguments and a snapshot of the files and says what is written
to the two streams and how the program ends. The lex command lists the tokens of
one source, all or none; the check command lexes every line of a file alone. What
libraries decide, how arguments are read and how their faults are worded, is that
of a host.
-/

set_option autoImplicit false

namespace ExprLexer.CommandLine

structure Outcome where
  exitCode : Nat
  stdout : String
  stderr : String
  deriving DecidableEq

inductive RunFault where
  | usage (cause : UsageFault)
  | nulInPath
  | undecodableInput
  /-- The settings are at fault in a way that their content does not show. -/
  | settings (cause : SettingsFault)

def RunFault.message : RunFault → String
  | .usage cause => cause.message
  | .nulInPath => PathFault.nulInName.message
  | .undecodableInput => "the input is not UTF-8"
  | .settings cause => cause.message

def RunFault.exitCode : RunFault → Nat
  | .usage _ => 2
  | _ => 1

def asLine (text : String) : String := text ++ "\n"

def asLines (texts : List String) : String := String.join (texts.map asLine)

namespace Outcome

def success (stdout stderr : String) : Outcome := ⟨0, stdout, stderr⟩

def failure (stderr : String) : Outcome := ⟨1, "", stderr⟩

/-- The outcome on streams that are no terminals. -/
def stripped (outcome : Outcome) : Outcome :=
  let strip (text : String) := String.ofList (Text.stripControls text.toList)
  { outcome with stdout := strip outcome.stdout, stderr := strip outcome.stderr }

end Outcome

/-- The settings of a run: a value from the command line goes before the settings file,
and colour needs the consent of both. -/
def effectiveSettings (flags : Flags) (configured : Settings) : Settings where
  legacyIntegers :=
    if flags.legacySource = .default then configured.legacyIntegers else flags.legacyIntegers
  color := configured.color && !flags.noColor

def readInput (tree : FileTree) (directory : AbsolutePath) (path : String) :
    Except RunFault SourceFile :=
  match tree.lookup directory path with
  | .ok (.file bytes) =>
      match decodeFileText? bytes with
      | some content => .ok ⟨FilePath.tidy path, content⟩
      | none => .error .undecodableInput
  | .error .nulInName => .error .nulInPath
  | _ => .error (.usage .notFile)

/-- The rendered diagnostics of a source, each as lines of its own. -/
def report (settings : Settings) (source : SourceFile) (diagnostics : List Diagnostic) :
    String :=
  let renderer := (Renderer.ofColor settings.color).addSource source
  asLines (diagnostics.map renderer.renderKnown)

/-! ## The lex command -/

def listingLine (token : Token) : String :=
  let place := match token.span with
    | some span => s!"{span.startLine}:{span.startColumn} "
    | none => ""
  place ++ token.value.kind.word ++ " " ++ token.value.display

def lexSource (source : SourceFile) (settings : Settings) : Outcome :=
  let lexer := (Lexer.ofSource ⟨source.name, settings.legacyIntegers⟩ source.content 1).run
  let stderr := report settings source lexer.diagnostics
  match lexer.result with
  | .ok cursor => .success (asLines (cursor.elements.map listingLine)) stderr
  | .error _ => .failure stderr

/-! ## The check command -/

/-- The lines of a source that are not blank, with their numbers. -/
def checkedLines (source : SourceFile) : List (String × Nat) :=
  (source.lines.zipIdx 1).filter fun (line, _) => !Text.isBlankText line

def lexLine (source : SourceFile) (settings : Settings) (line : String) (number : Nat) :
    Lexer :=
  (Lexer.ofSource ⟨source.name, settings.legacyIntegers⟩ line number).run

def checkSource (source : SourceFile) (settings : Settings) : Outcome :=
  let lexers := (checkedLines source).map fun (line, number) =>
    lexLine source settings line number
  let diagnostics := lexers.flatMap Lexer.diagnostics
  let stderr := report settings source diagnostics
  if diagnostics.any Diagnostic.isError then .failure stderr
  else .success (asLine s!"checked {lexers.length} expression(s), no errors") stderr

/-! ## Runs -/

/-- What a run leaves to the libraries under it. -/
structure Host where
  read : Reader
  wording : FaultWording

namespace Host

/-- Goes on with the effective settings, or reports what is wrong with them. -/
def withSettings (host : Host) (tree : FileTree) (directory : AbsolutePath)
    (start : Option String) (flags : Flags) (finish : Settings → Outcome) :
    Except RunFault Outcome :=
  match Settings.resolve tree directory start with
  | .ok configured => .ok (finish (effectiveSettings flags configured))
  | .error cause =>
      if cause.isInvalidContent then
        .ok (.failure (asLine (s!"error: invalid {Settings.fileName}: "
          ++ cause.messageIn host.wording)))
      else .error (.settings cause)

def runCommand (host : Host) (tree : FileTree) (directory : AbsolutePath) :
    Command → Except RunFault Outcome
  | .shown text => .ok (.success text "")
  | .lexExpression expression flags =>
      host.withSettings tree directory none flags (lexSource ⟨"<expr>", expression⟩)
  | .lexFile path flags => do
      let source ← readInput tree directory path
      host.withSettings tree directory (some path) flags (lexSource source)
  | .check path flags => do
      let source ← readInput tree directory path
      host.withSettings tree directory (some path) flags (checkSource source)

def run (host : Host) (tree : FileTree) (directory : AbsolutePath) (arguments : List String) :
    Except RunFault Outcome :=
  match host.read arguments with
  | .ok command => host.runCommand tree directory command
  | .error cause => .error (.usage cause)

def own : Host := ⟨readArguments, .own⟩

end Host

def run : FileTree → AbsolutePath → List String → Except RunFault Outcome := Host.own.run

/-! ## The files of a run -/

def inputPath? : Command → Option String
  | .lexFile path _ => some path
  | .check path _ => some path
  | _ => none

/-- The places on a walk over pieces of a path, without regard to what is there. -/
def walkedPlaces (start : AbsolutePath) : List String → List AbsolutePath
  | [] => [start]
  | piece :: pieces =>
      let next := if piece = "" ∨ piece = "." then start else FilePath.enter start piece
      start :: walkedPlaces next pieces

/-- Every path that a run of a command may ask its files for. -/
def consultedPaths (directory : AbsolutePath) (command : Command) : List AbsolutePath :=
  let path := (inputPath? command).getD "."
  let start := if FilePath.isAbsolute path then [] else directory
  let above := FilePath.ancestors (FilePath.resolve directory path)
  walkedPlaces start (FilePath.pieces path) ++ above
    ++ above.map (· ++ [Settings.fileName])

end ExprLexer.CommandLine
