import ExprLexer.CommandLine.Command

/-!
# A reader of command lines

The reader that the program is run with. Options may stand before, between and
after the other arguments of a command, a double dash ends them, and the last of
several occurrences counts.
-/

set_option autoImplicit false

namespace ExprLexer.CommandLine

structure Options where
  file : Option String := none
  legacyIntegers : Option Bool := none
  noColor : Bool := false
  help : Bool := false
  positional : List String := []

def Options.flags (options : Options) : Flags where
  legacyIntegers := options.legacyIntegers.getD false
  legacySource := if options.legacyIntegers.isSome then .commandLine else .default
  noColor := options.noColor

/-- Whether an argument is an option: it starts with a dash that is not all of it. -/
def isOption (argument : String) : Bool :=
  match argument.toList with
  | '-' :: _ :: _ => true
  | _ => false

/-- An option's name, and the value after its equals sign if it has one. -/
def splitOption (argument : String) : String × Option String :=
  let chars := argument.toList
  let name := String.ofList (chars.takeWhile (· != '='))
  match chars.dropWhile (· != '=') with
  | _ :: value => (name, some (String.ofList value))
  | [] => (name, none)

inductive OptionEffect where
  | change (apply : Options → Options)
  | takePath

/-- What an argument that is an option does, if it is a known one. Only the option
for a file, which some commands take, may have a value of its own. -/
def optionEffect? (takesFile : Bool) (argument : String) : Option OptionEffect :=
  match splitOption argument with
  | ("--legacy-integers", none) =>
      some (.change fun options => { options with legacyIntegers := some true })
  | ("--integer-constants", none) =>
      some (.change fun options => { options with legacyIntegers := some false })
  | ("--no-color", none) => some (.change fun options => { options with noColor := true })
  | ("--help", none) => some (.change fun options => { options with help := true })
  | ("--file", some path) =>
      if takesFile then some (.change fun options => { options with file := some path }) else none
  | ("--file", none) => if takesFile then some .takePath else none
  | _ => none

/-- Reads the arguments after a command. The option for a file takes the next
argument whatever it is. -/
def readOptions (takesFile : Bool) (options : Options) : List String → Option Options
  | [] => some options
  | argument :: rest =>
      if argument = "--" then
        some { options with positional := options.positional ++ rest }
      else if isOption argument then
        match optionEffect? takesFile argument with
        | some (.change apply) => readOptions takesFile (apply options) rest
        | some .takePath =>
            match rest with
            | path :: others => readOptions takesFile { options with file := some path } others
            | [] => none
        | none => none
      else
        readOptions takesFile
          { options with positional := options.positional ++ [argument] } rest

/-- The lex command that options ask for. A file goes before an expression. -/
def lexCommand (options : Options) : Except UsageFault Command :=
  match options.file, options.positional with
  | some path, [] => .ok (.lexFile path options.flags)
  | some path, [_] => .ok (.lexFile path options.flags)
  | none, [expression] => .ok (.lexExpression expression options.flags)
  | none, [] => .error .nothingToLex
  | _, _ => .error .malformed

def checkCommand (options : Options) : Except UsageFault Command :=
  match options.positional with
  | [path] => .ok (.check path options.flags)
  | _ => .error .malformed

/-! ## Texts -/

def versionText : String := "algot, version 0.1.0\n"

def programHelp : String :=
  "Usage: algot [OPTIONS] COMMAND [ARGS]...\n\n"
    ++ "  Algot expression tokenizer.\n\n"
    ++ "Options:\n"
    ++ "  --version  Show the version and exit.\n"
    ++ "  --help     Show this message and exit.\n\n"
    ++ "Commands:\n"
    ++ "  check  Lex every non-blank line of a file as its own expression.\n"
    ++ "  lex    Print the tokens of an expression, one per line.\n"

def commonOptionsHelp : String :=
  "  --legacy-integers / --integer-constants\n"
    ++ "                                  Treat bare digit strings as variables\n"
    ++ "                                  (legacy behavior).\n"
    ++ "  --no-color                      Disable colored diagnostics.\n"
    ++ "  --help                          Show this message and exit.\n"

def lexHelp : String :=
  "Usage: algot lex [OPTIONS] [EXPRESSION]\n\n"
    ++ "  Print the tokens of an expression, one per line.\n\n"
    ++ "Options:\n"
    ++ "  --file FILE                     Read the expression from a file.\n"
    ++ commonOptionsHelp

def checkHelp : String :=
  "Usage: algot check [OPTIONS] PATH\n\n"
    ++ "  Lex every non-blank line of a file as its own expression.\n\n"
    ++ "Options:\n"
    ++ commonOptionsHelp

/-! ## Command lines -/

def readCommand (command : String) (arguments : List String) : Except UsageFault Command :=
  let build (takesFile : Bool) (help : String)
      (finish : Options → Except UsageFault Command) : Except UsageFault Command :=
    match readOptions takesFile {} arguments with
    | none => .error .malformed
    | some options => if options.help then .ok (.shown help) else finish options
  if command = "lex" then build true lexHelp lexCommand
  else if command = "check" then build false checkHelp checkCommand
  else .error .malformed

/-- Reads a command line of which the text to show may be settled. Options before the
command end at the first argument that is none; the first of the two that are known
decides once all are. -/
def readAfter (settled : Option String) : Reader
  | [] => settled.elim (.error .malformed) fun text => .ok (.shown text)
  | argument :: rest =>
      if argument = "--version" then readAfter (settled.or (some versionText)) rest
      else if argument = "--help" then readAfter (settled.or (some programHelp)) rest
      else
        match settled, argument == "--", isOption argument, rest with
        | _, false, true, _ => .error .malformed
        | some text, _, _, _ => .ok (.shown text)
        | none, true, _, command :: arguments => readCommand command arguments
        | none, true, _, [] => .error .malformed
        | none, false, _, arguments => readCommand argument arguments

def readArguments : Reader := readAfter none

end ExprLexer.CommandLine
