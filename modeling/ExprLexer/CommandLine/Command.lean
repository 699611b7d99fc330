/-!
# Commands

What a command line comes to once it is read. Reading it is left to a library: a
run takes any reader of command lines. Whether there is a file at a path is not for
the reader to say, but for the run.
-/

set_option autoImplicit false

namespace ExprLexer.CommandLine

inductive ParameterSource where
  | commandLine
  | default
  deriving DecidableEq

structure Flags where
  legacyIntegers : Bool := false
  /-- Where the value above comes from; a default leaves the settings file its say. -/
  legacySource : ParameterSource := .default
  noColor : Bool := false
  deriving DecidableEq

inductive Command where
  /-- The reader answers by itself, with help or a version, and that is all. -/
  | shown (text : String)
  | lexExpression (expression : String) (flags : Flags)
  | lexFile (path : String) (flags : Flags)
  | check (path : String) (flags : Flags)

inductive UsageFault where
  /-- An option or a command is unknown, or there are too few or too many arguments. -/
  | malformed
  /-- There is neither an expression nor a file. -/
  | nothingToLex
  | notFile
  deriving DecidableEq

def UsageFault.message : UsageFault → String
  | .malformed => "unknown command or option, or wrong number of arguments"
  | .nothingToLex => "give an EXPRESSION or --file"
  | .notFile => "no such file"

abbrev Reader := List String → Except UsageFault Command

end ExprLexer.CommandLine
