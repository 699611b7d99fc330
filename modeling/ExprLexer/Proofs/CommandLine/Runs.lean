import ExprLexer.Proofs.CommandLine.Flags

/-! What a run comes to once its arguments are read: under settings that can be had, the
command is carried out; else the input is read all the same, and then the fault is reported. -/

set_option autoImplicit false

namespace ExprLexer.CommandLine

/-- What a command does under settings that are settled. -/
def carryOut (tree : FileTree) (directory : AbsolutePath) (settings : Settings) :
    Command → Except RunFault Outcome
  | .shown text => .ok (.success text "")
  | .lexExpression expression _ => .ok (lexSource ⟨"<expr>", expression⟩ settings)
  | .lexFile path _ => (readInput tree directory path).map fun source => lexSource source settings
  | .check path _ => (readInput tree directory path).map fun source => checkSource source settings

def Host.faultReport (host : Host) (cause : SettingsFault) : Except RunFault Outcome :=
  if cause.isInvalidContent then
    .ok (.failure (asLine (s!"error: invalid {Settings.fileName}: "
      ++ cause.messageIn host.wording)))
  else .error (.settings cause)

section Unflagged

variable {tree : FileTree} {directory : AbsolutePath} {parsed other : Command} {flags : Flags}

theorem carryOut_unflagged (settings : Settings) (command : Command) :
    carryOut tree directory settings command.unflagged =
      carryOut tree directory settings command := by
  cases command <;> rfl

theorem inputPath?_unflagged (command : Command) :
    inputPath? command.unflagged = inputPath? command := by
  cases command <;> rfl

theorem exists_flags_of_unflagged (alike : parsed.unflagged = other.unflagged)
    (lexes : parsed.flags? = some flags) : ∃ otherFlags, other.flags? = some otherFlags := by
  cases other with
  | shown text => cases parsed <;> cases lexes <;> cases alike
  | lexExpression expression own => exact ⟨own, rfl⟩
  | lexFile path own => exact ⟨own, rfl⟩
  | check path own => exact ⟨own, rfl⟩

end Unflagged

section Runs

variable {host : Host} {tree : FileTree} {directory : AbsolutePath} {arguments : List String}
  {parsed : Command} {flags : Flags} {configured settings : Settings} {cause : SettingsFault}

theorem Host.run_of_read (asked : host.read arguments = .ok parsed) :
    host.run tree directory arguments = host.runCommand tree directory parsed := by
  simp only [Host.run, asked]

theorem runCommand_of_ok (parsed : Command) (lexes : parsed.flags? = some flags)
    (valid : Settings.resolve tree directory (inputPath? parsed) = .ok configured) :
    host.runCommand tree directory parsed =
      carryOut tree directory (effectiveSettings flags configured) parsed := by
  cases parsed with
  | shown text => cases lexes
  | lexExpression expression own =>
      cases lexes
      simp only [inputPath?] at valid
      simp only [Host.runCommand, Host.withSettings, valid, carryOut]
  | lexFile path own =>
      cases lexes
      simp only [inputPath?] at valid
      simp only [Host.runCommand, Host.withSettings, valid, carryOut]
      cases readInput tree directory path <;> rfl
  | check path own =>
      cases lexes
      simp only [inputPath?] at valid
      simp only [Host.runCommand, Host.withSettings, valid, carryOut]
      cases readInput tree directory path <;> rfl

/-- The input is read before the settings, so that its fault goes before theirs. -/
theorem runCommand_of_error (parsed : Command) (lexes : parsed.flags? = some flags)
    (failed : Settings.resolve tree directory (inputPath? parsed) = .error cause) :
    host.runCommand tree directory parsed =
      (carryOut tree directory {} parsed).bind fun _ => host.faultReport cause := by
  cases parsed with
  | shown text => cases lexes
  | lexExpression expression own =>
      simp only [inputPath?] at failed
      simp only [Host.runCommand, Host.withSettings, failed]
      rfl
  | lexFile path own =>
      simp only [inputPath?] at failed
      simp only [Host.runCommand, Host.withSettings, failed, carryOut]
      cases readInput tree directory path <;> rfl
  | check path own =>
      simp only [inputPath?] at failed
      simp only [Host.runCommand, Host.withSettings, failed, carryOut]
      cases readInput tree directory path <;> rfl

theorem runCommand_eq_carryOut (flagged : ∀ flags ∈ parsed.flags?,
      effectiveSettings flags configured = settings)
    (valid : Settings.resolve tree directory (inputPath? parsed) = .ok configured) :
    host.runCommand tree directory parsed = carryOut tree directory settings parsed := by
  cases lexes : parsed.flags? with
  | none =>
      cases parsed with
      | shown text => rfl
      | _ => cases lexes
  | some flags => rw [runCommand_of_ok parsed lexes valid, flagged flags lexes]

end Runs

end ExprLexer.CommandLine
