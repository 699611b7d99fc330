import ExprLexer.Proofs.CommandLine.OptionReading
import ExprLexer.Proofs.CommandLine.Runs

/-! What the command line says about the settings counts before what the settings file
says; where it says nothing, the settings file does what flags would. -/

set_option autoImplicit false

namespace ExprLexer.CommandLine

/-! ## Settled settings -/

/-- The settings that arguments and a settings file make together. -/
def settledSettings (takesFile : Bool) (arguments : List String) (configured : Settings) :
    Settings where
  legacyIntegers := (lastMode? takesFile arguments).getD configured.legacyIntegers
  color := configured.color && !(words takesFile arguments).contains "--no-color"

section Settled

variable {takesFile : Bool} {arguments extended : List String} {configured : Settings}

theorem settledSettings_keepLastMode (takesFile : Bool) (arguments : List String)
    (configured : Settings) :
    settledSettings takesFile (keepLastMode takesFile arguments) configured =
      settledSettings takesFile arguments configured := by
  have color : (words takesFile (keepLastMode takesFile arguments)).contains "--no-color" =
      (words takesFile arguments).contains "--no-color" :=
    Bool.eq_iff_iff.mpr (by simpa using noColor_mem_words_keepLastMode)
  rw [settledSettings, settledSettings, lastMode?_keepLastMode, color]

theorem settledSettings_of_adds_mode
    (adds : Adds takesFile (modeFlag configured.legacyIntegers) arguments extended)
    (absent : lastMode? takesFile arguments = none) :
    settledSettings takesFile extended configured =
      settledSettings takesFile arguments configured := by
  have other : "--no-color" ≠ modeFlag configured.legacyIntegers := by
    cases configured.legacyIntegers <;> decide
  have color : (words takesFile extended).contains "--no-color" =
      (words takesFile arguments).contains "--no-color" := by
    rw [Bool.eq_iff_iff, List.contains_iff_mem, List.contains_iff_mem,
      adds.mem_words_iff (modeFlag_mem_settingFlags _), or_iff_right other]
  rw [settledSettings, settledSettings, adds.lastMode?_of_none absent, absent, color]
  rfl

theorem settledSettings_of_noColor (given : "--no-color" ∈ words takesFile arguments)
    (color : Bool) :
    settledSettings takesFile arguments { configured with color } =
      settledSettings takesFile arguments configured := by
  have said : (words takesFile arguments).contains "--no-color" = true :=
    List.contains_iff_mem.mpr given
  rw [settledSettings, settledSettings, said, Bool.not_true, Bool.and_false, Bool.and_false]

theorem settledSettings_of_adds_noColor (adds : Adds takesFile "--no-color" arguments extended)
    (off : configured.color = false) (color : Bool) :
    settledSettings takesFile extended { configured with color } =
      settledSettings takesFile arguments configured := by
  have said : (words takesFile extended).contains "--no-color" = true :=
    List.contains_iff_mem.mpr ((adds.mem_words_iff (by decide)).mpr (.inl rfl))
  rw [settledSettings, settledSettings, adds.lastMode?_noColor, said, off, Bool.not_true,
    Bool.and_false, Bool.false_and]

end Settled

/-! ## Runs -/

/-- Another tree in which the same input is found, with settings of its own. -/
structure Configures (tree otherTree : FileTree) (directory : AbsolutePath)
    (input : Option String) (configured : Settings) : Prop where
  sameInput : ∀ path ∈ input, readInput otherTree directory path = readInput tree directory path
  resolved : Settings.resolve otherTree directory input = .ok configured

section Runs

variable {host : Host} {tree otherTree : FileTree} {directory : AbsolutePath} {command : String}
  {lead arguments extended : List String} {flags : Flags} {parsed other : Command}
  {configured otherConfigured : Settings}

theorem carryOut_congr
    (configures : Configures tree otherTree directory (inputPath? parsed) otherConfigured)
    (settings : Settings) :
    carryOut otherTree directory settings parsed = carryOut tree directory settings parsed := by
  have same := configures.sameInput
  cases parsed with
  | shown text => rfl
  | lexExpression expression _ => rfl
  | lexFile path _ => simp only [carryOut, same path rfl]
  | check path _ => simp only [carryOut, same path rfl]

namespace ReadsFlags

theorem effectiveSettings_eq (reads : ReadsFlags host.read)
    (introduces : Introduces lead command)
    (asked : host.read (lead ++ command :: arguments) = .ok parsed)
    (flagged : parsed.flags? = some flags) (configured : Settings) :
    effectiveSettings flags configured =
      settledSettings (command == "lex") arguments configured := by
  have color : flags.noColor = (words (command == "lex") arguments).contains "--no-color" := by
    rw [Bool.eq_iff_iff, List.contains_iff_mem]
    exact reads.noColor_iff introduces asked flagged
  rw [effectiveSettings, settledSettings, color]
  cases said : lastMode? (command == "lex") arguments with
  | none => rw [if_pos (reads.noMode introduces asked flagged said), Option.getD_none]
  | some mode =>
      obtain ⟨value, source⟩ := reads.lastMode introduces asked flagged said
      rw [value, if_neg (by rw [source]; decide), Option.getD_some]

theorem run_eq (reads : ReadsFlags host.read) (introduces : Introduces lead command)
    (asked : host.read (lead ++ command :: arguments) = .ok parsed)
    (valid : Settings.resolve tree directory (inputPath? parsed) = .ok configured) :
    host.run tree directory (lead ++ command :: arguments) =
      carryOut tree directory (settledSettings (command == "lex") arguments configured)
        parsed := by
  rw [Host.run_of_read asked]
  exact runCommand_eq_carryOut
    (fun flags flagged => reads.effectiveSettings_eq introduces asked flagged configured) valid

theorem exists_of_map_unflagged {reading : Except UsageFault Command}
    (asked : reading.map Command.unflagged = .ok other) :
    ∃ parsed, reading = .ok parsed ∧ parsed.unflagged = other := by
  cases reading with
  | error cause => cases asked
  | ok parsed => exact ⟨parsed, rfl, Except.ok.inj asked⟩

/-- Other arguments that ask for the same but for flags, where other settings are found. -/
theorem run_elsewhere_eq (reads : ReadsFlags host.read) (introduces : Introduces lead command)
    (asked : host.read (lead ++ command :: arguments) = .ok parsed)
    (same : (host.read (lead ++ command :: extended)).map Command.unflagged =
      (host.read (lead ++ command :: arguments)).map Command.unflagged)
    (configures : Configures tree otherTree directory (inputPath? parsed) otherConfigured) :
    host.run otherTree directory (lead ++ command :: extended) =
      carryOut tree directory (settledSettings (command == "lex") extended otherConfigured)
        parsed := by
  rw [asked] at same
  obtain ⟨other, askedOther, alike⟩ := exists_of_map_unflagged same
  have valid : Settings.resolve otherTree directory (inputPath? other) = .ok otherConfigured := by
    rw [← inputPath?_unflagged, alike, inputPath?_unflagged]
    exact configures.resolved
  rw [reads.run_eq introduces askedOther valid, ← carryOut_unflagged, alike, carryOut_unflagged,
    carryOut_congr configures]

theorem unflagged_of_addsMode (reads : ReadsFlags host.read)
    (introduces : Introduces lead command)
    (steps : Relation.ReflTransGen (AddsMode (command == "lex")) arguments extended) :
    (host.read (lead ++ command :: extended)).map Command.unflagged =
      (host.read (lead ++ command :: arguments)).map Command.unflagged := by
  induction steps with
  | refl => rfl
  | tail _ step ih =>
      obtain ⟨mode, adds⟩ := step
      rw [reads.unflagged_of_adds introduces (modeFlag_mem_settingFlags mode) adds, ih]

end ReadsFlags

/-- The command line settles the settings where it says something about them: the last flag
for the mode counts before the settings file, and colour needs the consent of both. So with
a flag for the mode, the run is that with only the last of these flags, whatever the
settings file says of the mode; without one, it is that with the flag for what the settings
file says. With the flag against colour the run is the same whatever the settings file says
of colour; and a settings file against colour does what this flag does. -/
theorem run_settles_settings (reads : ReadsFlags host.read)
    (introduces : Introduces lead command)
    (asked : host.read (lead ++ command :: arguments) = .ok parsed)
    (valid : Settings.resolve tree directory (inputPath? parsed) = .ok configured) :
    let takesFile := command == "lex"
    let runWith (tree : FileTree) (arguments : List String) :=
      host.run tree directory (lead ++ command :: arguments)
    runWith tree arguments =
        carryOut tree directory (settledSettings takesFile arguments configured) parsed ∧
      ((lastMode? takesFile arguments).isSome →
        runWith tree (keepLastMode takesFile arguments) = runWith tree arguments ∧
          ∀ otherTree legacyIntegers, Configures tree otherTree directory (inputPath? parsed)
              { configured with legacyIntegers } →
            runWith otherTree arguments = runWith tree arguments) ∧
      (lastMode? takesFile arguments = none →
        ∀ extended, Adds takesFile (modeFlag configured.legacyIntegers) arguments extended →
          runWith tree extended = runWith tree arguments) ∧
      ("--no-color" ∈ words takesFile arguments →
        ∀ otherTree color, Configures tree otherTree directory (inputPath? parsed)
            { configured with color } →
          runWith otherTree arguments = runWith tree arguments) ∧
      (configured.color = false →
        ∀ extended, Adds takesFile "--no-color" arguments extended →
          ∀ otherTree color, Configures tree otherTree directory (inputPath? parsed)
              { configured with color } →
            runWith otherTree extended = runWith tree arguments) := by
  intro takesFile runWith
  have plain : runWith tree arguments = _ := reads.run_eq introduces asked valid
  have here : Configures tree tree directory (inputPath? parsed) configured :=
    ⟨fun _ _ => rfl, valid⟩
  rw [plain]
  refine ⟨rfl, ?_, ?_, ?_, ?_⟩
  · intro given
    obtain ⟨mode, said⟩ := Option.isSome_iff_exists.mp given
    refine ⟨?_, fun otherTree legacyIntegers configures => ?_⟩
    · have dropped := reads.unflagged_of_addsMode introduces
        (addsMode_keepLastMode takesFile arguments)
      refine (reads.run_elsewhere_eq introduces asked dropped.symm here).trans ?_
      rw [settledSettings_keepLastMode]
    · refine (reads.run_elsewhere_eq introduces asked rfl configures).trans ?_
      rw [settledSettings, settledSettings, said]
      rfl
  · intro absent extended adds
    refine (reads.run_elsewhere_eq introduces asked
      (reads.unflagged_of_adds introduces (modeFlag_mem_settingFlags _) adds) here).trans ?_
    rw [settledSettings_of_adds_mode adds absent]
  · intro given otherTree color configures
    refine (reads.run_elsewhere_eq introduces asked rfl configures).trans ?_
    rw [settledSettings_of_noColor given]
  · intro off extended adds otherTree color configures
    refine (reads.run_elsewhere_eq introduces asked
      (reads.unflagged_of_adds introduces (by decide) adds) configures).trans ?_
    rw [settledSettings_of_adds_noColor adds off]

/-- Two flags against a settings file, and one flag that agrees with it. -/
theorem run_settles_settings_last_flag :
    let tree (value : String) := FileTree.empty.writeFile ["algot.toml"]
      ("[lexer]\nlegacy_integers = " ++ value ++ "\n").toUTF8
    let runWith (value : String) (arguments : List String) :=
      run (tree value) [] ("lex" :: arguments)
    let arguments := ["--legacy-integers", "--integer-constants", "7"]
    ReadsFlags Host.own.read ∧
      runWith "true" ["--integer-constants", "7"] = runWith "true" arguments ∧
      runWith "false" arguments = runWith "true" arguments ∧
      runWith "true" ["7", "--legacy-integers"] = runWith "true" ["7"] := by
  intro tree runWith arguments
  have reads : ReadsFlags Host.own.read := readsFlags_readArguments
  have introduces : Introduces [] "lex" := ⟨.inl rfl, .inl rfl⟩
  have resolved {value : String} {settings : Settings}
      (found : (Settings.resolve (tree value) [] none).toOption = some settings) :
      Settings.resolve (tree value) [] none = .ok settings := by
    cases outcome : Settings.resolve (tree value) [] none with
    | error cause =>
        rw [outcome] at found
        cases found
    | ok settings =>
        rw [outcome] at found
        exact congrArg Except.ok (Option.some.inj found)
  have legacy : Settings.resolve (tree "true") [] none = .ok { legacyIntegers := true } :=
    resolved (by decide +kernel)
  have modern : Settings.resolve (tree "false") [] none = .ok { legacyIntegers := false } :=
    resolved (by decide +kernel)
  obtain ⟨_, given, _⟩ := run_settles_settings reads introduces
    (show Host.own.read ("lex" :: arguments) = _ from rfl) legacy
  obtain ⟨_, _, absent, _⟩ := run_settles_settings reads introduces
    (show Host.own.read ["lex", "7"] = _ from rfl) legacy
  obtain ⟨kept, unmoved⟩ := given rfl
  refine ⟨reads, kept, unmoved (tree "false") false ⟨nofun, modern⟩, ?_⟩
  exact absent rfl _ (.lone (by decide) rfl (.here []))

end Runs

end ExprLexer.CommandLine
