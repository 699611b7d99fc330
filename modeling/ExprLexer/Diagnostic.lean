import ExprLexer.Source

/-!
# Diagnostics

What is reported about a source: a severity, a code and a message, the spans it
concerns, notes, and suggested replacements.
-/

set_option autoImplicit false

namespace ExprLexer

/-- How serious a diagnostic is. Only errors reject a source. -/
inductive Severity where
  | error
  | warning
  deriving DecidableEq

def Severity.word : Severity → String
  | .error => "error"
  | .warning => "warning"

/-- A span that a diagnostic concerns, with its own message. -/
structure Label where
  span : Span
  message : String
  deriving DecidableEq

/-- A text that could stand instead. -/
structure Suggestion where
  message : String
  replacement : String
  deriving DecidableEq

structure Diagnostic where
  severity : Severity
  code : String
  message : String
  labels : List Label
  notes : List String
  suggestions : List Suggestion
  deriving DecidableEq

namespace Diagnostic

def isError (diagnostic : Diagnostic) : Bool := diagnostic.severity == .error

def rejectionMessage (diagnostics : List Diagnostic) : String :=
  let errors := (diagnostics.filter isError).map (·.message)
  s!"{errors.length} error(s): " ++ "; ".intercalate errors

end Diagnostic

end ExprLexer
