import ExprLexer.CommandLine.RecursionLimit
import ExprLexer.Proofs.CommandLine.Precedence
import ExprLexer.Proofs.Settings.Contents

/-! What a run does about the content of its settings file. Content that is no document, or
that makes a setting neither true nor false, is reported, and the run fails; but a value
that stands where a table should be breaks the run off, and so does one that is nested
more deeply than the interpreter follows. -/

set_option autoImplicit false

namespace ExprLexer

open Settings (ReadsAs Says NotTable NotBoolean)

namespace RecursionLimit

variable {limit : RecursionLimit} {bytes : ByteArray}

/-- The text of the bytes, if they are one, is followed to its end. -/
def Follows (limit : RecursionLimit) (bytes : ByteArray) : Prop :=
  ∀ text, String.fromUTF8? bytes = some text → limit.reads text = true

/-- A value of a document is neither true nor false, and cannot be written. -/
def IsMetByValue (limit : RecursionLimit) (bytes : ByteArray) : Prop :=
  ∃ document table name value, ReadsAs bytes document ∧
    NotBoolean document table name value ∧ limit.writes value = false

theorem isMetByValue_iff :
    limit.IsMetByValue bytes ↔ ∃ table name value,
      Settings.ofBytes bytes = .error (.notBoolean table name value) ∧
        limit.writes value = false := by
  constructor
  · rintro ⟨document, table, name, value, reads, other, deep⟩
    exact ⟨table, name, value, Settings.ofBytes_eq_notBoolean_iff.mpr ⟨document, reads, other⟩,
      deep⟩
  · rintro ⟨table, name, value, failed, deep⟩
    obtain ⟨document, reads, other⟩ := Settings.ofBytes_eq_notBoolean_iff.mp failed
    exact ⟨document, table, name, value, reads, other, deep⟩

theorem isMetBy_iff :
    limit.isMetBy bytes = true ↔ ¬limit.Follows bytes ∨ limit.IsMetByValue bytes := by
  rw [isMetByValue_iff]
  cases decoded : String.fromUTF8? bytes with
  | none =>
      have follows : limit.Follows bytes := fun text other => by
        rw [decoded] at other
        cases other
      have undecodable : Settings.ofBytes bytes = .error .undecodable := by
        simp only [Settings.ofBytes, decoded]
      simp [isMetBy, decoded, follows, undecodable]
  | some text =>
      have follows : limit.Follows bytes ↔ limit.reads text = true := by
        simp [Follows, decoded]
      rw [isMetBy, decoded, follows, Bool.or_eq_true, Bool.not_eq_true', Bool.not_eq_true]
      refine or_congr_right ?_
      cases Settings.ofBytes bytes with
      | ok settings => simp
      | error cause =>
          cases cause with
          | notBoolean table name value =>
              refine ⟨fun deep => ⟨table, name, value, rfl, by simpa using deep⟩, ?_⟩
              rintro ⟨_, _, _, same, deep⟩
              cases same
              simpa using deep
          | _ => simp

/-- Within the limit there is no value that cannot be written. -/
theorem isMetBy_iff_of_ofBytes (apart : ∀ table name value,
      Settings.ofBytes bytes ≠ .error (.notBoolean table name value)) :
    limit.isMetBy bytes = true ↔ ¬limit.Follows bytes := by
  rw [isMetBy_iff, isMetByValue_iff, or_iff_left]
  rintro ⟨table, name, value, failed, -⟩
  exact apart table name value failed

section Load

variable {tree : FileTree} {directory : AbsolutePath} {path : String}
  {made : Except SettingsFault Settings}

theorem load_of_file (isFile : tree.lookup directory (FilePath.tidy path) = .ok (.file bytes)) :
    limit.load tree directory path =
      if limit.isMetBy bytes then .exceeded else .finished (Settings.ofBytes bytes) := by
  simp only [load, isFile]

theorem load_eq_exceeded_iff
    (isFile : tree.lookup directory (FilePath.tidy path) = .ok (.file bytes)) :
    limit.load tree directory path = .exceeded ↔ limit.isMetBy bytes = true := by
  rw [load_of_file isFile]
  split
  next met => exact ⟨fun _ => met, fun _ => rfl⟩
  next unmet => exact ⟨nofun, fun met => absurd met unmet⟩

theorem load_eq_finished_iff
    (isFile : tree.lookup directory (FilePath.tidy path) = .ok (.file bytes)) :
    limit.load tree directory path = .finished made ↔
      limit.isMetBy bytes = false ∧ Settings.ofBytes bytes = made := by
  rw [load_of_file isFile]
  split
  next met => simp [met]
  next unmet => simp [unmet]

/-- Where the outcome is no setting that is neither true nor false, it only counts whether
the text is followed. -/
theorem load_eq_finished_iff_follows
    (isFile : tree.lookup directory (FilePath.tidy path) = .ok (.file bytes))
    (apart : ∀ table name value, made ≠ .error (.notBoolean table name value)) :
    limit.load tree directory path = .finished made ↔
      limit.Follows bytes ∧ Settings.ofBytes bytes = made := by
  rw [load_eq_finished_iff isFile]
  refine and_congr_left fun result => ?_
  rw [← Bool.not_eq_true, isMetBy_iff_of_ofBytes (result ▸ apart), Classical.not_not]

end Load

end RecursionLimit

namespace CommandLine

/-! ## Runs -/

def Readable (tree : FileTree) (directory : AbsolutePath) (command : Command) : Prop :=
  ∀ path ∈ inputPath? command, ∃ source, readInput tree directory path = .ok source

/-- A run of a command that lexes, with an input that can be read. The bytes are those of
its settings file. -/
structure MeetsFile (host : Host) (tree : FileTree) (directory : AbsolutePath)
    (arguments : List String) (command : Command) (flags : Flags) (bytes : ByteArray) : Prop where
  asked : host.read arguments = .ok command
  lexes : command.flags? = some flags
  readable : Readable tree directory command
  nearest : ∃ found, Settings.find tree directory (inputPath? command) = .ok found ∧
    tree.follow found = .ok (.file bytes)

section Runs

variable {limit : RecursionLimit} {host : Host} {tree : FileTree} {directory : AbsolutePath}
  {arguments : List String} {command : Command} {flags : Flags} {bytes : ByteArray}
  {configured : Settings} {cause : SettingsFault}

theorem carryOut_of_readable (readable : Readable tree directory command)
    (settings : Settings) :
    ∃ outcome, carryOut tree directory settings command = .ok outcome := by
  cases command with
  | shown text => exact ⟨_, rfl⟩
  | lexExpression expression flags => exact ⟨_, rfl⟩
  | lexFile path flags =>
      obtain ⟨source, read⟩ := readable path rfl
      exact ⟨lexSource source settings, by simp only [carryOut, read]; rfl⟩
  | check path flags =>
      obtain ⟨source, read⟩ := readable path rfl
      exact ⟨checkSource source settings, by simp only [carryOut, read]; rfl⟩

theorem runCommand_of_readable (lexes : command.flags? = some flags)
    (readable : Readable tree directory command)
    (failed : Settings.resolve tree directory (inputPath? command) = .error cause) :
    host.runCommand tree directory command = host.faultReport cause := by
  obtain ⟨outcome, done⟩ := carryOut_of_readable readable {}
  rw [runCommand_of_error command lexes failed, done]
  rfl

namespace MeetsFile

theorem resolve_eq (meets : MeetsFile host tree directory arguments command flags bytes) :
    Settings.resolve tree directory (inputPath? command) = Settings.ofBytes bytes := by
  obtain ⟨found, nearest, content⟩ := meets.nearest
  simp only [Settings.resolve, nearest, Except.bind, content, Settings.ofEntry]
  cases made : Settings.ofBytes bytes with
  | ok settings => rfl
  | error cause =>
      have present := Settings.isAbsence_of_ofBytes made
      simp only [present, Bool.false_eq_true, if_false]

theorem isMetIn_eq (meets : MeetsFile host tree directory arguments command flags bytes) :
    limit.isMetIn tree directory command = limit.isMetBy bytes := by
  obtain ⟨found, nearest, content⟩ := meets.nearest
  have metFrom : limit.isMetFrom tree directory (inputPath? command) = limit.isMetBy bytes := by
    simp only [RecursionLimit.isMetFrom, nearest, Except.toOption, Option.map_some, content]
  have lexes := meets.lexes
  have readable := meets.readable
  cases command with
  | shown text => cases lexes
  | lexExpression expression own => exact metFrom
  | lexFile path own =>
      obtain ⟨source, read⟩ := readable path rfl
      simp only [RecursionLimit.isMetIn, read]
      exact metFrom
  | check path own =>
      obtain ⟨source, read⟩ := readable path rfl
      simp only [RecursionLimit.isMetIn, read]
      exact metFrom

theorem run_eq (meets : MeetsFile host tree directory arguments command flags bytes) :
    limit.run host tree directory arguments =
      if limit.isMetBy bytes then .exceeded
      else .finished (host.runCommand tree directory command) := by
  simp only [RecursionLimit.run, meets.asked, meets.isMetIn_eq]

theorem run_of_ok (meets : MeetsFile host tree directory arguments command flags bytes)
    (unmet : limit.isMetBy bytes = false) (made : Settings.ofBytes bytes = .ok configured) :
    ∃ outcome, limit.run host tree directory arguments = .finished (.ok outcome) ∧
      carryOut tree directory (effectiveSettings flags configured) command = .ok outcome := by
  obtain ⟨outcome, done⟩ :=
    carryOut_of_readable meets.readable (effectiveSettings flags configured)
  refine ⟨outcome, ?_, done⟩
  rw [meets.run_eq, unmet, runCommand_of_ok command meets.lexes (meets.resolve_eq.trans made),
    done]
  rfl

theorem run_of_error (meets : MeetsFile host tree directory arguments command flags bytes)
    (unmet : limit.isMetBy bytes = false) (failed : Settings.ofBytes bytes = .error cause) :
    limit.run host tree directory arguments = .finished (host.faultReport cause) := by
  rw [meets.run_eq, unmet,
    runCommand_of_readable meets.lexes meets.readable (meets.resolve_eq.trans failed)]
  rfl

end MeetsFile

/-- Every content of a settings file makes settings or is at fault, unless the interpreter
does not follow it. It makes settings exactly if it is a document that says nothing of them
or says true or false. A fault is reported as one of the content, and the run fails, unless a
value stands where the table of the lexer or of the output should be: no run survives such a
file, nor one that meets the recursion limit. -/
theorem run_reports_settings_unless_not_table (limit : RecursionLimit) {path : String}
    (isFile : tree.lookup directory (FilePath.tidy path) = .ok (.file bytes)) :
    let loaded := limit.load tree directory path
    (loaded = .exceeded ↔ ¬limit.Follows bytes ∨ limit.IsMetByValue bytes) ∧
      (∀ settings, loaded = .finished (.ok settings) ↔
        limit.Follows bytes ∧ ∃ document, ReadsAs bytes document ∧
          ∃ legacyIntegers color, Says document "lexer" "legacy_integers" legacyIntegers ∧
            Says document "output" "color" color ∧
            settings = ⟨legacyIntegers.getD false, color.getD true⟩) ∧
      (∀ cause, loaded = .finished (.error cause) →
        cause.isInvalidContent = true ∨ ∃ name, cause = .notTable name) ∧
      (∀ name, loaded = .finished (.error (.notTable name)) ↔
        limit.Follows bytes ∧ ∃ document, ReadsAs bytes document ∧ NotTable document name) ∧
      ∀ host other here arguments command flags,
        MeetsFile host other here arguments command flags bytes →
          (∀ configured, loaded = .finished (.ok configured) →
            ∃ outcome, limit.run host other here arguments = .finished (.ok outcome) ∧
              carryOut other here (effectiveSettings flags configured) command =
                .ok outcome) ∧
          (∀ cause, loaded = .finished (.error cause) → cause.isInvalidContent = true →
            limit.run host other here arguments =
              .finished (.ok (.failure (asLine ("error: invalid algot.toml: "
                ++ cause.messageIn host.wording))))) ∧
          (∀ name, loaded = .finished (.error (.notTable name)) →
            limit.run host other here arguments =
              .finished (.error (.settings (.notTable name)))) ∧
          (loaded = .exceeded → limit.run host other here arguments = .exceeded) := by
  intro loaded
  refine ⟨?_, ?_, ?_, ?_, ?_⟩
  · exact (RecursionLimit.load_eq_exceeded_iff isFile).trans RecursionLimit.isMetBy_iff
  · intro settings
    have apart (table key : String) (value : Toml.Value) :
        (.ok settings : Except SettingsFault Settings) ≠ .error (.notBoolean table key value) :=
      nofun
    rw [RecursionLimit.load_eq_finished_iff_follows isFile apart, Settings.ofBytes_eq_ok_iff]
  · intro cause failed
    obtain ⟨-, failed⟩ := (RecursionLimit.load_eq_finished_iff isFile).mp failed
    exact Settings.isInvalidContent_or_notTable_of_ofBytes failed
  · intro name
    have apart (table key : String) (value : Toml.Value) :
        (.error (.notTable name) : Except SettingsFault Settings) ≠
          .error (.notBoolean table key value) :=
      nofun
    rw [RecursionLimit.load_eq_finished_iff_follows isFile apart,
      Settings.ofBytes_eq_notTable_iff]
  · intro host other here arguments command flags meets
    refine ⟨?_, ?_, ?_, ?_⟩
    · intro configured made
      obtain ⟨unmet, made⟩ := (RecursionLimit.load_eq_finished_iff isFile).mp made
      exact meets.run_of_ok unmet made
    · intro cause failed invalid
      obtain ⟨unmet, failed⟩ := (RecursionLimit.load_eq_finished_iff isFile).mp failed
      rw [meets.run_of_error unmet failed, Host.faultReport, if_pos invalid]
      rfl
    · intro name failed
      obtain ⟨unmet, failed⟩ := (RecursionLimit.load_eq_finished_iff isFile).mp failed
      exact meets.run_of_error unmet failed
    · intro exceeded
      have met := (RecursionLimit.load_eq_exceeded_iff isFile).mp exceeded
      rw [meets.run_eq, if_pos met]

/-! ### A settings file in the root -/

def loneFile (bytes : ByteArray) : FileTree := FileTree.empty.writeFile ["algot.toml"] bytes

theorem meetsFile_loneFile (bytes : ByteArray) :
    MeetsFile Host.own (loneFile bytes) [] ["lex", "x"] (.lexExpression "x" {}) {} bytes :=
  ⟨rfl, rfl, nofun, ["algot.toml"], rfl, rfl⟩

theorem exists_fault (outcome : Except SettingsFault Settings) (test : SettingsFault → Bool)
    (failed : (match outcome with
      | .ok _ => false
      | .error cause => test cause) = true) :
    ∃ cause, outcome = .error cause ∧ test cause = true := by
  cases outcome with
  | ok settings => cases failed
  | error cause => exact ⟨cause, rfl, failed⟩

/-- A number for a colour is reported, by an interpreter that follows a text with no more than
a hundred brackets, and any value. -/
theorem run_reports_settings_unless_not_table_color :
    let tree := loneFile "[output]\ncolor = 1\n".toUTF8
    let limit : RecursionLimit := ⟨fun text => text.toList.count '[' ≤ 100, fun _ => true⟩
    tree.lookup [] (FilePath.tidy "algot.toml") = .ok (.file "[output]\ncolor = 1\n".toUTF8) ∧
      limit.run Host.own tree [] ["lex", "x"] =
        .finished (.ok (.failure (asLine ("error: invalid algot.toml: " ++
          "[output] color must be true or false, got 1")))) := by
  intro tree limit
  have isFile : tree.lookup [] (FilePath.tidy "algot.toml") = .ok (.file _) := rfl
  refine ⟨isFile, ?_⟩
  obtain ⟨-, -, -, -, runs⟩ := run_reports_settings_unless_not_table limit isFile
  obtain ⟨-, reported, -⟩ := runs Host.own tree [] _ _ _ (meetsFile_loneFile _)
  obtain ⟨cause, failed, told⟩ := exists_fault (Settings.ofBytes "[output]\ncolor = 1\n".toUTF8)
    (fun cause => cause.isInvalidContent &&
      cause.message == "[output] color must be true or false, got 1") (by decide +kernel)
  obtain ⟨invalid, message⟩ := Bool.and_eq_true_iff.mp told
  have unmet : limit.isMetBy "[output]\ncolor = 1\n".toUTF8 = false := by decide +kernel
  have loaded := (RecursionLimit.load_eq_finished_iff isFile).mpr ⟨unmet, failed⟩
  rw [reported cause loaded invalid, ← eq_of_beq message]
  rfl

/-- A number for the table of the lexer breaks the run off: the fault is none of those that
are reported. -/
theorem number_for_table_breaks_run_off :
    let tree := loneFile "lexer = 1\n".toUTF8
    tree.lookup [] (FilePath.tidy "algot.toml") = .ok (.file "lexer = 1\n".toUTF8) ∧
      Settings.load tree [] "algot.toml" = .error (.notTable "lexer") ∧
      (SettingsFault.notTable "lexer").isInvalidContent = false ∧
      run tree [] ["lex", "x"] = .error (.settings (.notTable "lexer")) := by
  intro tree
  have isFile : tree.lookup [] (FilePath.tidy "algot.toml") = .ok (.file _) := rfl
  obtain ⟨cause, failed, told⟩ := exists_fault (Settings.ofBytes "lexer = 1\n".toUTF8)
    (fun
      | .notTable name => name == "lexer"
      | _ => false) (by decide +kernel)
  cases cause with
  | notTable name =>
      obtain rfl := eq_of_beq told
      have meets := meetsFile_loneFile "lexer = 1\n".toUTF8
      have ran : Host.own.runCommand tree [] _ = _ :=
        runCommand_of_readable meets.lexes meets.readable (meets.resolve_eq.trans failed)
      refine ⟨isFile, (Settings.load_of_file isFile).trans failed, rfl, ?_⟩
      exact (Host.run_of_read meets.asked).trans ran
  | _ => cases told

end Runs

end CommandLine

end ExprLexer
