import ExprLexer.CommandLine.Run

/-!
# Recursion limits

A document is read and a value is written here at any depth. An interpreter follows them
only so far: arrays in arrays, and the tables that a dotted key makes, can meet its recursion
limit. It then raises an error that is not one of the values, and that no command catches.
-/

set_option autoImplicit false

namespace ExprLexer

/-- How far an interpreter follows what is nested. -/
structure RecursionLimit where
  /-- Whether a text can be read as a document, or refused as none. -/
  reads : String → Bool
  /-- Whether a value can be written for a message. -/
  writes : Toml.Value → Bool

inductive Limited (Result : Type) where
  | exceeded
  | finished (result : Result)

namespace RecursionLimit

variable (limit : RecursionLimit)

/-- Whether a content of a settings file meets the limit: as it is read, or as a value of it
is written that is neither true nor false. -/
def isMetBy (bytes : ByteArray) : Bool :=
  match String.fromUTF8? bytes with
  | none => false
  | some text =>
      !limit.reads text ||
        match Settings.ofBytes bytes with
        | .error (.notBoolean _ _ value) => !limit.writes value
        | _ => false

def isMetFrom (tree : FileTree) (directory : AbsolutePath) (start : Option String) : Bool :=
  match (Settings.find tree directory start).toOption.map tree.follow with
  | some (.ok (.file bytes)) => limit.isMetBy bytes
  | _ => false

/-- Whether a command comes to meet the limit: its input is read before its settings. -/
def isMetIn (tree : FileTree) (directory : AbsolutePath) : CommandLine.Command → Bool
  | .shown _ => false
  | .lexExpression _ _ => limit.isMetFrom tree directory none
  | .lexFile path _ =>
      (CommandLine.readInput tree directory path).isOk &&
        limit.isMetFrom tree directory (some path)
  | .check path _ =>
      (CommandLine.readInput tree directory path).isOk &&
        limit.isMetFrom tree directory (some path)

def load (tree : FileTree) (directory : AbsolutePath) (path : String) :
    Limited (Except SettingsFault Settings) :=
  match tree.lookup directory (FilePath.tidy path) with
  | .ok (.file bytes) =>
      if limit.isMetBy bytes then .exceeded else .finished (Settings.ofBytes bytes)
  | entry => .finished (Settings.ofEntry entry)

def run (host : CommandLine.Host) (tree : FileTree) (directory : AbsolutePath)
    (arguments : List String) : Limited (Except CommandLine.RunFault CommandLine.Outcome) :=
  match host.read arguments with
  | .ok command =>
      if limit.isMetIn tree directory command then .exceeded
      else .finished (host.runCommand tree directory command)
  | .error cause => .finished (.error (.usage cause))

end RecursionLimit

end ExprLexer
