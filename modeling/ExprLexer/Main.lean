import ExprLexer.CommandLine.Run

/-!
# The program

The outer layer reads the files that a run may ask for, hands a snapshot of them
to the run, and writes what comes out. A stream that is no terminal gets its
text without control sequences.
-/

set_option autoImplicit false

namespace ExprLexer

/-- Adds what is on disk at a path to a snapshot. A file that cannot be read is left
out. -/
def addFromDisk (snapshot : FileTree) (path : AbsolutePath) : IO FileTree := do
  let place := (← IO.currentDir) / FilePath.absoluteText path
  if ← place.isDir then return snapshot.insert path .directory
  try
    return snapshot.insert path (.file (← IO.FS.readBinFile place))
  catch _ => return snapshot

def writeTo (stream : IO.FS.Stream) (text stripped : String) : IO Unit := do
  stream.putStr (if ← stream.isTty then text else stripped)

/-- Runs a command line and writes its outcome; gives the exit code. -/
def runOnDisk (arguments : List String) : IO Nat := do
  let directory := FilePath.resolve [] (← IO.currentDir).toString
  let result ← match CommandLine.Host.own.read arguments with
    | .error cause => pure (.error (.usage cause))
    | .ok command =>
        let paths := CommandLine.consultedPaths directory command
        let snapshot ← paths.foldlM addFromDisk FileTree.empty
        pure (CommandLine.Host.own.runCommand snapshot directory command)
  match result with
  | .ok outcome =>
      writeTo (← IO.getStderr) outcome.stderr outcome.stripped.stderr
      writeTo (← IO.getStdout) outcome.stdout outcome.stripped.stdout
      return outcome.exitCode
  | .error cause =>
      (← IO.getStderr).putStrLn ("error: " ++ cause.message)
      return cause.exitCode

end ExprLexer

def main (arguments : List String) : IO UInt32 := do
  return UInt32.ofNat (← ExprLexer.runOnDisk arguments)
