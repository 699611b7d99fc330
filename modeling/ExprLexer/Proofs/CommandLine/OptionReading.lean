import ExprLexer.Proofs.CommandLine.Flags

/-! The reader that comes with the program reads one argument after the other, and reads
flags as is relied on: what they set goes apart from what the other arguments ask for. -/

set_option autoImplicit false

namespace ExprLexer.CommandLine

/-! ## Single arguments -/

def Options.unflagged (options : Options) : Options :=
  { options with legacyIntegers := none, noColor := false }

theorem eq_of_splitOption {argument name : String} (shape : splitOption argument = (name, none)) :
    argument = name := by
  unfold splitOption at shape
  dsimp only at shape
  split at shape
  next => cases shape
  next bare =>
    have whole := List.takeWhile_append_dropWhile (p := (· != '=')) (l := argument.toList)
    rw [bare, List.append_nil] at whole
    cases shape
    rw [whole, String.ofList_toList]

section Single

variable {takesFile : Bool} {argument flag : String} {rest : List String} {options : Options}

theorem eq_of_takePath (effect : optionEffect? takesFile argument = some .takePath) :
    (takesFile && argument == "--file") = true := by
  unfold optionEffect? at effect
  split at effect <;> try cases effect
  next path shape => split at effect <;> cases effect
  next shape =>
    rw [eq_of_splitOption shape]
    split at effect
    next takes => simp [takes]
    next => cases effect

theorem unflagged_of_change {apply : Options → Options}
    (effect : optionEffect? takesFile argument = some (.change apply)) (options : Options) :
    (apply options.unflagged).unflagged = (apply options).unflagged := by
  unfold optionEffect? at effect
  split at effect
  · cases effect
    rfl
  · cases effect
    rfl
  · cases effect
    rfl
  · cases effect
    rfl
  · split at effect <;> cases effect
    rfl
  · split at effect <;> cases effect
  · cases effect

theorem settings_of_change {apply : Options → Options}
    (effect : optionEffect? takesFile argument = some (.change apply)) (options : Options) :
    (apply options).legacyIntegers = (modeOf? argument).or options.legacyIntegers ∧
      (apply options).noColor = (options.noColor || "--no-color" == argument) := by
  have silent (other : argument ∉ settingFlags) :
      options.legacyIntegers = (modeOf? argument).or options.legacyIntegers ∧
        options.noColor = (options.noColor || "--no-color" == argument) := by
    obtain ⟨mode, color⟩ := unsaid_of_not_mem_settingFlags other
    rw [mode, color, Option.none_or, Bool.or_false]
    exact ⟨rfl, rfl⟩
  unfold optionEffect? at effect
  split at effect
  next shape =>
    cases effect
    rw [eq_of_splitOption shape]
    exact ⟨rfl, (Bool.or_false _).symm⟩
  next shape =>
    cases effect
    rw [eq_of_splitOption shape]
    exact ⟨rfl, (Bool.or_false _).symm⟩
  next shape =>
    cases effect
    rw [eq_of_splitOption shape]
    exact ⟨rfl, (Bool.or_true _).symm⟩
  next shape =>
    cases effect
    exact silent (by rw [eq_of_splitOption shape]; decide)
  next path shape =>
    split at effect
    · cases effect
      refine silent fun known => ?_
      have named : (splitOption argument).1 = "--file" := by rw [shape]
      rcases eq_of_mem_settingFlags known with rfl | rfl | rfl <;>
        exact absurd named (by decide)
    · cases effect
  next shape => split at effect <;> cases effect
  next => cases effect

theorem readOptions_file (takes : takesFile = true) (path : String) :
    readOptions takesFile options ("--file" :: path :: rest) =
      readOptions takesFile { options with file := some path } rest := by
  subst takes
  rfl

theorem readOptions_ended :
    readOptions takesFile options ("--" :: rest) =
      some { options with positional := options.positional ++ rest } := by
  rw [readOptions.eq_def]
  exact if_pos rfl

/-- What one argument says that neither ends the options nor takes the next argument. -/
def readLone (takesFile : Bool) (options : Options) (argument : String) : Option Options :=
  if isOption argument then
    match optionEffect? takesFile argument with
    | some (.change apply) => some (apply options)
    | _ => none
  else some { options with positional := options.positional ++ [argument] }

theorem readOptions_lone (notEnd : argument ≠ "--")
    (notFile : (takesFile && argument == "--file") = false) :
    readOptions takesFile options (argument :: rest) =
      (readLone takesFile options argument).bind fun next => readOptions takesFile next rest := by
  rw [readOptions.eq_def, readLone]
  simp only [if_neg notEnd]
  cases isOption argument with
  | false => rfl
  | true =>
      cases effect : optionEffect? takesFile argument with
      | none => rfl
      | some found =>
          cases found with
          | change apply => rfl
          | takePath =>
              rw [eq_of_takePath effect] at notFile
              cases notFile

theorem readLone_unflagged (takesFile : Bool) (options : Options) (argument : String) :
    (readLone takesFile options.unflagged argument).map Options.unflagged =
      (readLone takesFile options argument).map Options.unflagged := by
  unfold readLone
  split
  · split
    next effect => exact congrArg some (unflagged_of_change effect options)
    next => rfl
  · rfl

theorem settings_of_readLone {next : Options}
    (read : readLone takesFile options argument = some next) :
    next.legacyIntegers = (modeOf? argument).or options.legacyIntegers ∧
      next.noColor = (options.noColor || "--no-color" == argument) := by
  unfold readLone at read
  split at read
  · split at read
    next effect =>
      cases read
      exact settings_of_change effect options
    next => cases read
  next plain =>
    cases read
    have other : argument ∉ settingFlags := fun known => by
      rcases eq_of_mem_settingFlags known with rfl | rfl | rfl <;> exact plain rfl
    obtain ⟨mode, color⟩ := unsaid_of_not_mem_settingFlags other
    rw [mode, color, Option.none_or, Bool.or_false]
    exact ⟨rfl, rfl⟩

end Single

/-! ## Arguments together -/

section Together

variable {takesFile : Bool} {flag : String} {arguments extended rest : List String}

/-- Flags that were read before show only in flags. -/
theorem readOptions_unflagged (takesFile : Bool) (arguments : List String) (options : Options) :
    (readOptions takesFile options.unflagged arguments).map Options.unflagged =
      (readOptions takesFile options arguments).map Options.unflagged := by
  induction scanned takesFile arguments generalizing options with
  | nil => rfl
  | ended rest =>
      rw [readOptions_ended, readOptions_ended]
      rfl
  | file path takes _ ih =>
      rw [readOptions_file takes, readOptions_file takes]
      exact ih { options with file := some path }
  | cut takes =>
      subst takes
      rfl
  | @lone argument rest notEnd notFile _ ih =>
      have same := readLone_unflagged takesFile options argument
      rw [readOptions_lone notEnd notFile, readOptions_lone notEnd notFile]
      cases bare : readLone takesFile options.unflagged argument with
      | none =>
          rw [bare, Option.map_none, eq_comm, Option.map_eq_none_iff] at same
          rw [same]
      | some next =>
          rw [bare, Option.map_some, eq_comm, Option.map_eq_some_iff] at same
          obtain ⟨other, read, alike⟩ := same
          rw [read, Option.bind_some, Option.bind_some, ← ih next, ← alike, ih other]

theorem readOptions_congr {options other : Options}
    (alike : options.unflagged = other.unflagged) :
    (readOptions takesFile options arguments).map Options.unflagged =
      (readOptions takesFile other arguments).map Options.unflagged := by
  rw [← readOptions_unflagged, alike, readOptions_unflagged]

theorem readOptions_flag (known : flag ∈ settingFlags) (options : Options) :
    (readOptions takesFile options (flag :: rest)).map Options.unflagged =
      (readOptions takesFile options rest).map Options.unflagged := by
  have unchanged (changed : Options) (alike : changed.unflagged = options.unflagged)
      (step : readOptions takesFile options (flag :: rest) = readOptions takesFile changed rest) :
      (readOptions takesFile options (flag :: rest)).map Options.unflagged =
        (readOptions takesFile options rest).map Options.unflagged := by
    rw [step, readOptions_congr alike]
  rcases eq_of_mem_settingFlags known with rfl | rfl | rfl
  · exact unchanged { options with legacyIntegers := some true } rfl rfl
  · exact unchanged { options with legacyIntegers := some false } rfl rfl
  · exact unchanged { options with noColor := true } rfl rfl

theorem readOptions_of_adds (adds : Adds takesFile flag arguments extended)
    (known : flag ∈ settingFlags) (options : Options) :
    (readOptions takesFile options extended).map Options.unflagged =
      (readOptions takesFile options arguments).map Options.unflagged := by
  induction adds generalizing options with
  | here rest => exact readOptions_flag known options
  | file path takes _ ih =>
      rw [readOptions_file takes, readOptions_file takes]
      exact ih { options with file := some path }
  | @lone argument rest extended notEnd notFile _ ih =>
      rw [readOptions_lone notEnd notFile, readOptions_lone notEnd notFile]
      cases readLone takesFile options argument with
      | none => rfl
      | some next => exact ih next

/-- What the options say about the settings is what the last flag for the mode says, and
whether the flag against colour is there. -/
theorem settings_of_readOptions {options final : Options}
    (read : readOptions takesFile options arguments = some final) :
    final.legacyIntegers = (lastMode? takesFile arguments).or options.legacyIntegers ∧
      final.noColor =
        (options.noColor || (words takesFile arguments).contains "--no-color") := by
  induction scanned takesFile arguments generalizing options with
  | nil =>
      cases read
      exact ⟨rfl, (Bool.or_false _).symm⟩
  | ended rest =>
      rw [readOptions_ended] at read
      cases read
      rw [lastMode?, words_ended]
      exact ⟨rfl, (Bool.or_false _).symm⟩
  | file path takes _ ih =>
      rw [readOptions_file takes] at read
      rw [lastMode?_file takes, words_file takes]
      obtain ⟨mode, color⟩ := ih read
      exact ⟨mode, color⟩
  | cut takes =>
      subst takes
      cases read
  | lone notEnd notFile _ ih =>
      rw [readOptions_lone notEnd notFile] at read
      obtain ⟨next, readFirst, readRest⟩ := Option.bind_eq_some_iff.mp read
      obtain ⟨mode, color⟩ := settings_of_readLone readFirst
      obtain ⟨laterMode, laterColor⟩ := ih readRest
      rw [lastMode?_lone notEnd notFile, words_lone notEnd notFile, List.contains_cons]
      rw [laterMode, laterColor, mode, color, Option.or_assoc, Bool.or_assoc]
      exact ⟨rfl, rfl⟩

end Together

/-! ## Commands -/

section Commands

variable {lead arguments : List String} {command : String} {options : Options}
  {parsed : Command} {flags : Flags}

def askedCommand (command : String) (options : Options) : Except UsageFault Command :=
  if command = "lex" then
    if options.help then .ok (.shown lexHelp) else lexCommand options
  else if options.help then .ok (.shown checkHelp) else checkCommand options

theorem readArguments_command (introduces : Introduces lead command) (arguments : List String) :
    readArguments (lead ++ command :: arguments) =
      (readOptions (command == "lex") {} arguments).elim (.error .malformed)
        (askedCommand command) := by
  obtain ⟨leads, named⟩ := introduces
  have led : readArguments (lead ++ command :: arguments) = readCommand command arguments := by
    rcases leads with rfl | rfl <;> rcases named with rfl | rfl <;> rfl
  rw [led]
  rcases named with rfl | rfl
  · show readCommand "lex" arguments = (readOptions true {} arguments).elim _ _
    cases read : readOptions true {} arguments <;> simp [readCommand, askedCommand, read]
  · show readCommand "check" arguments = (readOptions false {} arguments).elim _ _
    cases read : readOptions false {} arguments <;> simp [readCommand, askedCommand, read]

/-- What is asked for, but for flags, shows in the options that are none. -/
theorem askedCommand_unflagged (command : String) (options : Options) :
    askedCommand command options.unflagged =
      (askedCommand command options).map Command.unflagged := by
  have file : options.unflagged.file = options.file := rfl
  have help : options.unflagged.help = options.help := rfl
  have positional : options.unflagged.positional = options.positional := rfl
  unfold askedCommand lexCommand checkCommand
  rw [file, help, positional]
  split
  · split
    · rfl
    · split <;> rfl
  · split
    · rfl
    · split <;> rfl

theorem flags_of_askedCommand (asked : askedCommand command options = .ok parsed)
    (flagged : parsed.flags? = some flags) : flags = options.flags := by
  unfold askedCommand lexCommand checkCommand at asked
  split at asked
  · split at asked
    · cases asked
      cases flagged
    · split at asked <;> cases asked <;> exact (Option.some.inj flagged).symm
  · split at asked
    · cases asked
      cases flagged
    · split at asked <;> cases asked
      exact (Option.some.inj flagged).symm

theorem unflagged_readArguments (introduces : Introduces lead command)
    (arguments : List String) :
    (readArguments (lead ++ command :: arguments)).map Command.unflagged =
      ((readOptions (command == "lex") {} arguments).map Options.unflagged).elim
        (.error .malformed) (askedCommand command) := by
  rw [readArguments_command introduces]
  cases readOptions (command == "lex") {} arguments with
  | none => rfl
  | some options => exact (askedCommand_unflagged command options).symm

theorem exists_options_of_flags (introduces : Introduces lead command)
    (asked : readArguments (lead ++ command :: arguments) = .ok parsed)
    (flagged : parsed.flags? = some flags) :
    ∃ options : Options, flags = options.flags ∧
      options.legacyIntegers = lastMode? (command == "lex") arguments ∧
      options.noColor = (words (command == "lex") arguments).contains "--no-color" := by
  rw [readArguments_command introduces] at asked
  cases read : readOptions (command == "lex") {} arguments with
  | none =>
      rw [read] at asked
      cases asked
  | some options =>
      rw [read] at asked
      obtain ⟨mode, color⟩ := settings_of_readOptions read
      rw [Option.or_none] at mode
      rw [Bool.false_or] at color
      exact ⟨options, flags_of_askedCommand asked flagged, mode, color⟩

theorem isOption_of_head? {path : String} (unsigned : path.toList.head? ≠ some '-') :
    isOption path = false := by
  unfold isOption
  split
  next shape => exact absurd (by rw [shape]; rfl) unsigned
  next => rfl

theorem readOptions_path {path : String} (unsigned : path.toList.head? ≠ some '-') :
    readOptions false {} [path] = some { positional := [path] } := by
  have notEnd : path ≠ "--" := by
    intro same
    subst same
    exact unsigned rfl
  rw [readOptions.eq_def]
  simp only [if_neg notEnd, isOption_of_head? unsigned, Bool.false_eq_true, if_false]
  rfl

theorem readsFlags_readArguments : ReadsFlags readArguments where
  unflagged_of_adds introduces known adds := by
    rw [unflagged_readArguments introduces, unflagged_readArguments introduces,
      readOptions_of_adds adds known]
  lastMode introduces asked flagged said := by
    obtain ⟨options, rfl, mode, -⟩ := exists_options_of_flags introduces asked flagged
    simp only [Options.flags, mode.trans said]
    exact ⟨rfl, rfl⟩
  noMode introduces asked flagged unsaid := by
    obtain ⟨options, rfl, mode, -⟩ := exists_options_of_flags introduces asked flagged
    simp only [Options.flags, mode.trans unsaid]
    rfl
  noColor_iff introduces asked flagged := by
    obtain ⟨options, rfl, -, color⟩ := exists_options_of_flags introduces asked flagged
    rw [Options.flags, color, List.contains_iff_mem]
  check_path := by
    intro path unsigned
    have introduces : Introduces [] "check" := ⟨.inl rfl, .inr rfl⟩
    have read := unflagged_readArguments introduces [path]
    rw [show ("check" == "lex") = false from rfl, readOptions_path unsigned] at read
    exact read
  lex_file := rfl

end Commands

end ExprLexer.CommandLine
