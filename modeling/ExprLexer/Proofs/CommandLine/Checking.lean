import ExprLexer.Proofs.CommandLine.Precedence
import ExprLexer.Proofs.Lexing.LineByLine

/-! Checking a file reports what lexing it reports. The two commands take the same
flags, so what differs is the lines that one of them lexes apart. -/

set_option autoImplicit false

namespace ExprLexer.CommandLine

/-! ## Sources -/

/-- What a run says of its input: its exit code and its report. -/
def Outcome.verdict (outcome : Outcome) : Nat × String := (outcome.exitCode, outcome.stderr)

section Sources

variable {source : SourceFile} {settings : Settings}

def lexWhole (source : SourceFile) (settings : Settings) : Lexer :=
  (Lexer.ofSource ⟨source.name, settings.legacyIntegers⟩ source.content 1).run

theorem flatMap_filter_of_nil {α β : Type} {keep : α → Bool} {found : α → List β}
    (nothing : ∀ value, keep value = false → found value = []) (values : List α) :
    (values.filter keep).flatMap found = values.flatMap found := by
  induction values with
  | nil => rfl
  | cons value values ih =>
      cases kept : keep value with
      | true => rw [List.filter_cons_of_pos kept, List.flatMap_cons, List.flatMap_cons, ih]
      | false =>
          rw [List.filter_cons_of_neg (by simp [kept]), List.flatMap_cons, nothing value kept, ih]
          rfl

theorem diagnostics_lexLine_of_blank {line : String} (blank : Text.isBlankText line = true)
    (number : Nat) : (lexLine source settings line number).diagnostics = [] := by
  rw [Lexer.diagnostics, lexLine, Lexer.findings_run_of_blank _ blank]
  rfl

/-- The lines that are checked report what the whole source does, in the same order. -/
theorem flatMap_checkedLines_eq (breaks : Text.BreaksByLineFeed source.content.toList) :
    (checkedLines source).flatMap
        (fun (line, number) => (lexLine source settings line number).diagnostics) =
      (lexWhole source settings).diagnostics := by
  have found := Lexer.findings_run_eq_flatMap ⟨source.name, settings.legacyIntegers⟩ breaks 1
  rw [String.ofList_toList, Int.natCast_one] at found
  rw [checkedLines, flatMap_filter_of_nil fun (line, number) skipped =>
      diagnostics_lexLine_of_blank (by simpa using skipped) number,
    lexWhole, Lexer.diagnostics, found, List.filterMap_flatMap, SourceFile.lines, List.zipIdx_map,
    List.flatMap_map]
  rfl

def verdictOf (source : SourceFile) (settings : Settings) (diagnostics : List Diagnostic) :
    Nat × String :=
  (if diagnostics.any Diagnostic.isError then 1 else 0, report settings source diagnostics)

theorem verdict_lexSource (source : SourceFile) (settings : Settings) :
    (lexSource source settings).verdict =
      verdictOf source settings (lexWhole source settings).diagnostics := by
  rw [lexSource, Lexer.result, verdictOf, ← lexWhole]
  cases (lexWhole source settings).diagnostics.any Diagnostic.isError <;> rfl

theorem verdict_checkSource (source : SourceFile) (settings : Settings) :
    (checkSource source settings).verdict =
      verdictOf source settings ((checkedLines source).flatMap
        fun (line, number) => (lexLine source settings line number).diagnostics) := by
  rw [checkSource, verdictOf, List.flatMap_map]
  split <;> rfl

theorem verdict_checkSource_eq_lexSource (breaks : Text.BreaksByLineFeed source.content.toList)
    (settings : Settings) :
    (checkSource source settings).verdict = (lexSource source settings).verdict := by
  rw [verdict_checkSource, verdict_lexSource, flatMap_checkedLines_eq breaks]

end Sources

/-! ## Flags around a path -/

section Around

variable {read : Reader} {lead core before after lexBefore lexAfter : List String}
  {command path : String}

theorem ReadsFlags.unflagged_around (reads : ReadsFlags read)
    (introduces : Introduces lead command)
    (inserts : ∀ flag rest, Adds (command == "lex") flag (core ++ rest) (core ++ flag :: rest))
    (known : ∀ flag ∈ before ++ after, flag ∈ settingFlags) :
    (read (lead ++ command :: (before ++ (core ++ after)))).map Command.unflagged =
      (read (lead ++ command :: core)).map Command.unflagged := by
  obtain ⟨beforeKnown, afterKnown⟩ := List.forall_mem_append.mp known
  have behind : (read (lead ++ command :: (core ++ after))).map Command.unflagged =
      (read (lead ++ command :: core)).map Command.unflagged := by
    clear known
    induction after with
    | nil => rw [List.append_nil]
    | cons flag flags ih =>
        obtain ⟨flagKnown, flagsKnown⟩ := List.forall_mem_cons.mp afterKnown
        rw [reads.unflagged_of_adds introduces flagKnown (inserts flag flags), ih flagsKnown]
  clear known
  induction before with
  | nil => exact behind
  | cons flag flags ih =>
      obtain ⟨flagKnown, flagsKnown⟩ := List.forall_mem_cons.mp beforeKnown
      rw [List.cons_append, reads.unflagged_of_adds introduces flagKnown (.here _), ih flagsKnown]

theorem not_mem_settingFlags_of_head? (unsigned : path.toList.head? ≠ some '-') :
    path ∉ settingFlags := by
  intro known
  rcases eq_of_mem_settingFlags known with rfl | rfl | rfl <;> exact unsigned rfl

theorem exists_check_of_read (reads : ReadsFlags read)
    (known : ∀ flag ∈ before ++ after, flag ∈ settingFlags)
    (unsigned : path.toList.head? ≠ some '-') :
    ∃ flags, read ("check" :: (before ++ path :: after)) = .ok (.check path flags) := by
  have introduces : Introduces [] "check" := ⟨.inl rfl, .inr rfl⟩
  have notEnd : path ≠ "--" := by
    rintro rfl
    exact unsigned rfl
  have inserts (flag : String) (rest : List String) :
      Adds ("check" == "lex") flag ([path] ++ rest) ([path] ++ flag :: rest) :=
    .lone notEnd rfl (.here rest)
  have asked := (reads.unflagged_around introduces inserts known).trans (reads.check_path unsigned)
  obtain ⟨parsed, found, alike⟩ := ReadsFlags.exists_of_map_unflagged asked
  cases parsed with
  | check other flags =>
      cases alike
      exact ⟨flags, found⟩
  | _ => cases alike

theorem exists_lex_of_read (reads : ReadsFlags read)
    (known : ∀ flag ∈ before ++ after, flag ∈ settingFlags) (path : String) :
    ∃ flags, read ("lex" :: (before ++ "--file" :: path :: after)) = .ok (.lexFile path flags) := by
  have introduces : Introduces [] "lex" := ⟨.inl rfl, .inl rfl⟩
  have inserts (flag : String) (rest : List String) :
      Adds ("lex" == "lex") flag (["--file", path] ++ rest) (["--file", path] ++ flag :: rest) :=
    .file path rfl (.here rest)
  have asked := (reads.unflagged_around introduces inserts known).trans reads.lex_file
  obtain ⟨parsed, found, alike⟩ := ReadsFlags.exists_of_map_unflagged asked
  cases parsed with
  | lexFile other flags =>
      cases alike
      exact ⟨flags, found⟩
  | _ => cases alike

/-- A path between flags settles nothing, nor does the option that it follows. -/
theorem settledSettings_around (known : ∀ flag ∈ before ++ after, flag ∈ settingFlags)
    (sameFlags : lexBefore ++ lexAfter = before ++ after)
    (unsigned : path.toList.head? ≠ some '-') (configured : Settings) :
    settledSettings false (before ++ path :: after) configured =
      settledSettings true (lexBefore ++ "--file" :: path :: lexAfter) configured := by
  have notEnd : path ≠ "--" := by
    rintro rfl
    exact unsigned rfl
  have whole {takesFile : Bool} {flags : List String}
      (known : ∀ flag ∈ flags, flag ∈ settingFlags) : words takesFile flags = flags := by
    have all : words takesFile (flags ++ []) = flags ++ words takesFile [] := words_flags known
    rwa [words, List.append_nil] at all
  obtain ⟨beforeKnown, afterKnown⟩ := List.forall_mem_append.mp known
  obtain ⟨lexBeforeKnown, lexAfterKnown⟩ := List.forall_mem_append.mp (sameFlags ▸ known)
  have checkWords : words false (before ++ path :: after) = before ++ path :: after := by
    rw [words_flags beforeKnown, words_lone notEnd rfl, whole afterKnown]
  have lexWords : words true (lexBefore ++ "--file" :: path :: lexAfter) = before ++ after := by
    rw [words_flags lexBeforeKnown, words_file rfl, whole lexAfterKnown, sameFlags]
  obtain ⟨mode, color⟩ :=
    unsaid_of_not_mem_settingFlags (not_mem_settingFlags_of_head? unsigned)
  have sameColor : (before ++ path :: after).contains "--no-color" =
      (before ++ after).contains "--no-color" := by
    simp [beq_eq_false_iff_ne.mp color]
  rw [settledSettings, settledSettings, lastMode?, lastMode?, checkWords, lexWords, sameColor,
    List.filterMap_append, List.filterMap_cons, mode, ← List.filterMap_append]

end Around

/-! ## Runs -/

def FileHolds (tree : FileTree) (directory : AbsolutePath) (path content : String) : Prop :=
  ∃ bytes, tree.lookup directory path = .ok (.file bytes) ∧ decodeFileText? bytes = some content

variable {tree : FileTree} {directory : AbsolutePath} {path : String}

theorem content_of_readInput {source : SourceFile}
    (read : readInput tree directory path = .ok source) :
    FileHolds tree directory path source.content := by
  unfold readInput at read
  split at read
  next bytes found =>
    split at read
    next content decoded =>
      cases read
      exact ⟨bytes, found, decoded⟩
    next => cases read
  next => cases read
  next => cases read

theorem verdict_runCommand {host : Host} {flags otherFlags : Flags}
    (sameSettings : ∀ configured,
      effectiveSettings flags configured = effectiveSettings otherFlags configured)
    (breaks : ∀ content, FileHolds tree directory path content →
      Text.BreaksByLineFeed content.toList) :
    (host.runCommand tree directory (.check path flags)).map Outcome.verdict =
      (host.runCommand tree directory (.lexFile path otherFlags)).map Outcome.verdict := by
  have carried (settings : Settings) :
      (carryOut tree directory settings (.check path flags)).map Outcome.verdict =
        (carryOut tree directory settings (.lexFile path otherFlags)).map Outcome.verdict := by
    cases read : readInput tree directory path with
    | error cause => simp only [carryOut, read, Except.map]
    | ok source =>
        simp only [carryOut, read, Except.map,
          verdict_checkSource_eq_lexSource (breaks _ (content_of_readInput read))]
  cases resolved : Settings.resolve tree directory (some path) with
  | ok configured =>
      rw [runCommand_of_ok (.check path flags) rfl resolved,
        runCommand_of_ok (.lexFile path otherFlags) rfl resolved, sameSettings, carried]
  | error cause =>
      cases read : readInput tree directory path <;>
        simp only [runCommand_of_error (.check path flags) rfl resolved,
          runCommand_of_error (.lexFile path otherFlags) rfl resolved, carryOut, read, Except.map,
          Except.bind]

/-- Checking a file and lexing it with the same flags, wherever they stand, come to
the same verdict, and so do the lines of the file, each lexed at its number, and the
file lexed in one run. -/
theorem run_check_eq_run_lex {host : Host} (reads : ReadsFlags host.read) (tree : FileTree)
    (directory : AbsolutePath) (path : String) (before after lexBefore lexAfter : List String)
    (known : ∀ flag ∈ before ++ after, flag ∈ settingFlags)
    (sameFlags : lexBefore ++ lexAfter = before ++ after)
    (unsigned : path.toList.head? ≠ some '-')
    (breaks : ∀ content, FileHolds tree directory path content →
      Text.BreaksByLineFeed content.toList) :
    (host.run tree directory ("check" :: (before ++ path :: after))).map Outcome.verdict =
        (host.run tree directory ("lex" :: (lexBefore ++ "--file" :: path :: lexAfter))).map
          Outcome.verdict ∧
      ∀ (content name : String) (settings : Settings), FileHolds tree directory path content →
        (checkedLines ⟨name, content⟩).flatMap
            (fun (line, number) =>
              (lexLine ⟨name, content⟩ settings line number).diagnostics) =
          (lexWhole ⟨name, content⟩ settings).diagnostics := by
  constructor
  · obtain ⟨flags, checks⟩ := exists_check_of_read reads known unsigned
    obtain ⟨lexFlags, lexes⟩ := exists_lex_of_read reads (sameFlags ▸ known) path
    have introduces {command : String} (named : command = "lex" ∨ command = "check") :
        Introduces [] command := ⟨.inl rfl, named⟩
    have sameSettings (configured : Settings) :
        effectiveSettings flags configured = effectiveSettings lexFlags configured := by
      calc
        effectiveSettings flags configured =
            settledSettings false (before ++ path :: after) configured :=
          reads.effectiveSettings_eq (introduces (.inr rfl)) checks rfl configured
        _ = settledSettings true (lexBefore ++ "--file" :: path :: lexAfter) configured :=
          settledSettings_around known sameFlags unsigned configured
        _ = effectiveSettings lexFlags configured :=
          (reads.effectiveSettings_eq (introduces (.inl rfl)) lexes rfl configured).symm
    rw [Host.run_of_read checks, Host.run_of_read lexes]
    exact verdict_runCommand sameSettings breaks
  · intro content name settings holds
    exact flatMap_checkedLines_eq (breaks content holds)

theorem run_check_eq_run_lex_two_lines :
    let tree := FileTree.empty.writeFile ["a"] "x\n\n 1e+ @\n".toUTF8
    ReadsFlags Host.own.read ∧ FileHolds tree [] "a" "x\n\n 1e+ @\n" ∧
      (run tree [] ["check", "a", "--no-color"]).map Outcome.verdict =
        (run tree [] ["lex", "--no-color", "--file", "a"]).map Outcome.verdict := by
  intro tree
  have found : tree.lookup [] "a" = .ok (.file "x\n\n 1e+ @\n".toUTF8) := rfl
  have decoded : decodeFileText? "x\n\n 1e+ @\n".toUTF8 = some "x\n\n 1e+ @\n" := by
    decide +kernel
  have holds : ∀ content, FileHolds tree [] "a" content → content = "x\n\n 1e+ @\n" := by
    intro content ⟨bytes, lookup, read⟩
    rw [found] at lookup
    cases lookup
    rw [decoded] at read
    cases read
    rfl
  have reads : ReadsFlags Host.own.read := readsFlags_readArguments
  refine ⟨reads, ⟨_, found, decoded⟩, ?_⟩
  refine (run_check_eq_run_lex reads tree [] "a" [] ["--no-color"] ["--no-color"] [] (by decide)
    rfl (by decide) fun content read => ?_).1
  rw [holds content read]
  decide +kernel

end ExprLexer.CommandLine
