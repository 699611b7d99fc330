import ExprLexer.CommandLine.Run
import Mathlib.Logic.Relation

/-! Flags among the arguments of a command, and what is relied on of a reader of command
lines: a flag changes nothing but what it says, wherever it stands, and of the flags for
the mode the last counts. -/

set_option autoImplicit false

namespace ExprLexer.CommandLine

/-! ## Where flags stand -/

/-- The options that say something by themselves about how a source is lexed and shown. -/
def settingFlags : List String := ["--legacy-integers", "--integer-constants", "--no-color"]

theorem eq_of_mem_settingFlags {flag : String} (known : flag ∈ settingFlags) :
    flag = "--legacy-integers" ∨ flag = "--integer-constants" ∨ flag = "--no-color" := by
  simpa [settingFlags] using known

/-- The flag that makes digit strings variables, or constants. -/
def modeFlag (legacyIntegers : Bool) : String :=
  if legacyIntegers then "--legacy-integers" else "--integer-constants"

def modeOf? (argument : String) : Option Bool :=
  if argument = modeFlag true then some true
  else if argument = modeFlag false then some false
  else none

theorem eq_of_modeOf? {argument : String} {mode : Bool} (found : modeOf? argument = some mode) :
    argument = modeFlag mode := by
  unfold modeOf? at found
  split at found
  · cases found
    assumption
  · split at found
    · cases found
      assumption
    · cases found

theorem modeOf?_modeFlag (mode : Bool) : modeOf? (modeFlag mode) = some mode := by
  cases mode <;> rfl

theorem modeFlag_mem_settingFlags (mode : Bool) : modeFlag mode ∈ settingFlags := by
  cases mode <;> decide

theorem unsaid_of_not_mem_settingFlags {argument : String} (other : argument ∉ settingFlags) :
    modeOf? argument = none ∧ ("--no-color" == argument) = false := by
  constructor
  · cases found : modeOf? argument with
    | none => rfl
    | some mode => exact absurd (eq_of_modeOf? found ▸ modeFlag_mem_settingFlags mode) other
  · rw [beq_eq_false_iff_ne]
    intro same
    exact other (same ▸ by decide)

/-- The arguments that can be flags: not a path after the option for a file, and nothing
after a double dash. -/
def words (takesFile : Bool) : List String → List String
  | [] => []
  | argument :: rest =>
      if argument = "--" then []
      else if takesFile && argument == "--file" then
        match rest with
        | _ :: others => words takesFile others
        | [] => []
      else argument :: words takesFile rest

/-- What the last flag for the mode says. -/
def lastMode? (takesFile : Bool) (arguments : List String) : Option Bool :=
  ((words takesFile arguments).filterMap modeOf?).getLast?

/-- The arguments without the flags for the mode that another one follows. -/
def keepLastMode (takesFile : Bool) : List String → List String
  | [] => []
  | argument :: rest =>
      if argument = "--" then argument :: rest
      else if takesFile && argument == "--file" then
        match rest with
        | path :: others => argument :: path :: keepLastMode takesFile others
        | [] => [argument]
      else if (modeOf? argument).isSome && (lastMode? takesFile rest).isSome then
        keepLastMode takesFile rest
      else argument :: keepLastMode takesFile rest

/-- Arguments as they are read: a path belongs to the option before it, and a double dash
ends the options. -/
inductive Scanned (takesFile : Bool) : List String → Prop where
  | nil : Scanned takesFile []
  | ended (rest : List String) : Scanned takesFile ("--" :: rest)
  | file (path : String) {rest : List String} :
      takesFile = true → Scanned takesFile rest → Scanned takesFile ("--file" :: path :: rest)
  | cut : takesFile = true → Scanned takesFile ["--file"]
  | lone {argument : String} {rest : List String} :
      argument ≠ "--" → (takesFile && argument == "--file") = false → Scanned takesFile rest →
      Scanned takesFile (argument :: rest)

/-- The same arguments with one more flag, somewhere before a double dash. -/
inductive Adds (takesFile : Bool) (flag : String) : List String → List String → Prop where
  | here (rest : List String) : Adds takesFile flag rest (flag :: rest)
  | file (path : String) {rest extended : List String} :
      takesFile = true → Adds takesFile flag rest extended →
      Adds takesFile flag ("--file" :: path :: rest) ("--file" :: path :: extended)
  | lone {argument : String} {rest extended : List String} :
      argument ≠ "--" → (takesFile && argument == "--file") = false →
      Adds takesFile flag rest extended →
      Adds takesFile flag (argument :: rest) (argument :: extended)

theorem scanned (takesFile : Bool) (arguments : List String) : Scanned takesFile arguments := by
  fun_induction words takesFile arguments with
  | case1 => exact .nil
  | case2 rest => exact .ended rest
  | case3 argument notEnd isFile path others ih =>
      obtain ⟨takes, same⟩ := Bool.and_eq_true_iff.mp isFile
      exact eq_of_beq same ▸ .file path takes ih
  | case4 argument notEnd isFile =>
      obtain ⟨takes, same⟩ := Bool.and_eq_true_iff.mp isFile
      exact eq_of_beq same ▸ .cut takes
  | case5 argument rest notEnd notFile ih => exact .lone notEnd (by simpa using notFile) ih

section Words

variable {takesFile : Bool} {flag argument : String} {arguments extended rest : List String}

theorem words_file (takes : takesFile = true) (path : String) :
    words takesFile ("--file" :: path :: rest) = words takesFile rest := by
  subst takes
  rfl

theorem words_ended : words takesFile ("--" :: rest) = [] := by
  rw [words.eq_def]
  exact if_pos rfl

theorem words_lone (notEnd : argument ≠ "--")
    (notFile : (takesFile && argument == "--file") = false) :
    words takesFile (argument :: rest) = argument :: words takesFile rest := by
  rw [words.eq_def]
  simp only [if_neg notEnd, notFile, Bool.false_eq_true, if_false]

theorem words_flag (known : flag ∈ settingFlags) :
    words takesFile (flag :: rest) = flag :: words takesFile rest := by
  have apart : flag ≠ "--" ∧ (flag == "--file") = false := by
    rcases eq_of_mem_settingFlags known with rfl | rfl | rfl <;> decide
  exact words_lone apart.1 (by rw [apart.2, Bool.and_false])

theorem words_flags {flags : List String} (known : ∀ flag ∈ flags, flag ∈ settingFlags) :
    words takesFile (flags ++ rest) = flags ++ words takesFile rest := by
  induction flags with
  | nil => rfl
  | cons flag flags ih =>
      obtain ⟨flagKnown, flagsKnown⟩ := List.forall_mem_cons.mp known
      rw [List.cons_append, words_flag flagKnown, ih flagsKnown, List.cons_append]

theorem keepLastMode_file (takes : takesFile = true) (path : String) :
    keepLastMode takesFile ("--file" :: path :: rest) =
      "--file" :: path :: keepLastMode takesFile rest := by
  subst takes
  rfl

theorem keepLastMode_ended : keepLastMode takesFile ("--" :: rest) = "--" :: rest := by
  rw [keepLastMode.eq_def]
  exact if_pos rfl

theorem keepLastMode_cut (takes : takesFile = true) :
    keepLastMode takesFile ["--file"] = ["--file"] := by
  subst takes
  rfl

theorem keepLastMode_lone (notEnd : argument ≠ "--")
    (notFile : (takesFile && argument == "--file") = false) :
    keepLastMode takesFile (argument :: rest) =
      if (modeOf? argument).isSome && (lastMode? takesFile rest).isSome then
        keepLastMode takesFile rest
      else argument :: keepLastMode takesFile rest := by
  rw [keepLastMode.eq_def]
  simp only [if_neg notEnd, notFile, Bool.false_eq_true, if_false]

/-! ## One flag more -/

theorem Adds.words_eq (adds : Adds takesFile flag arguments extended)
    (known : flag ∈ settingFlags) :
    ∃ before after, words takesFile arguments = before ++ after ∧
      words takesFile extended = before ++ flag :: after := by
  induction adds with
  | here rest => exact ⟨[], words takesFile rest, rfl, words_flag known⟩
  | file path takes _ ih => rwa [words_file takes, words_file takes]
  | @lone argument _ _ notEnd notFile _ ih =>
      obtain ⟨before, after, split, added⟩ := ih
      refine ⟨argument :: before, after, ?_, ?_⟩
      · rw [words_lone notEnd notFile, split, List.cons_append]
      · rw [words_lone notEnd notFile, added, List.cons_append]

theorem Adds.lastMode?_of_none {mode : Bool}
    (adds : Adds takesFile (modeFlag mode) arguments extended)
    (absent : lastMode? takesFile arguments = none) :
    lastMode? takesFile extended = some mode := by
  obtain ⟨before, after, split, added⟩ := adds.words_eq (modeFlag_mem_settingFlags mode)
  rw [lastMode?, split, List.getLast?_eq_none_iff, List.filterMap_append,
    List.append_eq_nil_iff] at absent
  rw [lastMode?, added, List.filterMap_append, List.filterMap_cons, modeOf?_modeFlag, absent.1,
    absent.2]
  rfl

theorem Adds.lastMode?_noColor (adds : Adds takesFile "--no-color" arguments extended) :
    lastMode? takesFile extended = lastMode? takesFile arguments := by
  obtain ⟨before, after, split, added⟩ := adds.words_eq (by decide)
  have silent : modeOf? "--no-color" = none := rfl
  rw [lastMode?, lastMode?, split, added, List.filterMap_append, List.filterMap_append,
    List.filterMap_cons, silent]

theorem Adds.mem_words_iff {word : String} (adds : Adds takesFile flag arguments extended)
    (known : flag ∈ settingFlags) :
    word ∈ words takesFile extended ↔ word = flag ∨ word ∈ words takesFile arguments := by
  obtain ⟨before, after, split, added⟩ := adds.words_eq known
  rw [split, added, List.mem_append, List.mem_cons, List.mem_append, or_left_comm]

/-! ## Only the last flag for the mode -/

theorem lastMode?_file (takes : takesFile = true) (path : String) :
    lastMode? takesFile ("--file" :: path :: rest) = lastMode? takesFile rest := by
  rw [lastMode?, words_file takes, lastMode?]

theorem lastMode?_lone (notEnd : argument ≠ "--")
    (notFile : (takesFile && argument == "--file") = false) :
    lastMode? takesFile (argument :: rest) =
      (lastMode? takesFile rest).or (modeOf? argument) := by
  rw [lastMode?, words_lone notEnd notFile, lastMode?, List.filterMap_cons]
  cases modeOf? argument with
  | none => exact Option.or_none.symm
  | some mode =>
      rw [List.getLast?_cons]
      cases ((words takesFile rest).filterMap modeOf?).getLast? <;> rfl

theorem lastMode?_keepLastMode (takesFile : Bool) (arguments : List String) :
    lastMode? takesFile (keepLastMode takesFile arguments) = lastMode? takesFile arguments := by
  induction scanned takesFile arguments with
  | nil => rfl
  | ended rest => rw [keepLastMode_ended]
  | file path takes _ ih => rw [keepLastMode_file takes, lastMode?_file takes, ih,
      lastMode?_file takes]
  | cut takes => rw [keepLastMode_cut takes]
  | @lone argument rest notEnd notFile _ ih =>
      rw [keepLastMode_lone notEnd notFile, lastMode?_lone notEnd notFile]
      split
      next dropped =>
        obtain ⟨mode, later⟩ := Option.isSome_iff_exists.mp (Bool.and_eq_true_iff.mp dropped).2
        rw [ih, later, Option.some_or]
      next => rw [lastMode?_lone notEnd notFile, ih]

theorem noColor_mem_words_keepLastMode :
    "--no-color" ∈ words takesFile (keepLastMode takesFile arguments) ↔
      "--no-color" ∈ words takesFile arguments := by
  induction scanned takesFile arguments with
  | nil => rfl
  | ended rest => rw [keepLastMode_ended]
  | file path takes _ ih => rwa [keepLastMode_file takes, words_file takes, words_file takes]
  | cut takes => rw [keepLastMode_cut takes]
  | @lone argument rest notEnd notFile _ ih =>
      rw [keepLastMode_lone notEnd notFile, words_lone notEnd notFile, List.mem_cons]
      split
      next dropped =>
        obtain ⟨mode, found⟩ := Option.isSome_iff_exists.mp (Bool.and_eq_true_iff.mp dropped).1
        have other : "--no-color" ≠ argument := by
          rw [eq_of_modeOf? found]
          cases mode <;> decide
        rw [ih, or_iff_right other]
      next => rw [words_lone notEnd notFile, List.mem_cons, ih]

def AddsMode (takesFile : Bool) (arguments extended : List String) : Prop :=
  ∃ mode, Adds takesFile (modeFlag mode) arguments extended

/-- The flags that were dropped can be added again, one after the other. -/
theorem addsMode_keepLastMode (takesFile : Bool) (arguments : List String) :
    Relation.ReflTransGen (AddsMode takesFile) (keepLastMode takesFile arguments) arguments := by
  induction scanned takesFile arguments with
  | nil => exact .refl
  | ended rest => rw [keepLastMode_ended]
  | @file path rest takes _ ih =>
      rw [keepLastMode_file takes]
      exact Relation.ReflTransGen.lift (fun rest => "--file" :: path :: rest)
        (fun _ _ ⟨mode, adds⟩ => ⟨mode, .file path takes adds⟩) _ _ ih
  | cut takes => rw [keepLastMode_cut takes]
  | @lone argument rest notEnd notFile _ ih =>
      rw [keepLastMode_lone notEnd notFile]
      split
      next dropped =>
        obtain ⟨mode, found⟩ := Option.isSome_iff_exists.mp (Bool.and_eq_true_iff.mp dropped).1
        exact ih.tail ⟨mode, eq_of_modeOf? found ▸ .here rest⟩
      next =>
        exact Relation.ReflTransGen.lift (fun rest => argument :: rest)
          (fun _ _ ⟨mode, adds⟩ => ⟨mode, .lone notEnd notFile adds⟩) _ _ ih

end Words

/-! ## Readers -/

def Command.withFlags (flags : Flags) : Command → Command
  | .shown text => .shown text
  | .lexExpression expression _ => .lexExpression expression flags
  | .lexFile path _ => .lexFile path flags
  | .check path _ => .check path flags

def Command.flags? : Command → Option Flags
  | .shown _ => none
  | .lexExpression _ flags => some flags
  | .lexFile _ flags => some flags
  | .check _ flags => some flags

/-- What is asked for, but for the flags. -/
def Command.unflagged (command : Command) : Command := command.withFlags {}

/-- What stands before the arguments of a command: its name, which a double dash may
announce. -/
structure Introduces (lead : List String) (command : String) : Prop where
  leads : lead = [] ∨ lead = ["--"]
  named : command = "lex" ∨ command = "check"

/-- What is relied on of a reader of command lines. -/
structure ReadsFlags (read : Reader) : Prop where
  /-- A flag that is added asks for nothing else. -/
  unflagged_of_adds {lead : List String} {command flag : String}
    {arguments extended : List String} :
    Introduces lead command → flag ∈ settingFlags →
    Adds (command == "lex") flag arguments extended →
      (read (lead ++ command :: extended)).map Command.unflagged =
        (read (lead ++ command :: arguments)).map Command.unflagged
  /-- A repeated flag takes its last value, which comes from the command line. -/
  lastMode {lead : List String} {command : String} {arguments : List String} {parsed : Command}
    {flags : Flags} {mode : Bool} :
    Introduces lead command → read (lead ++ command :: arguments) = .ok parsed →
    parsed.flags? = some flags → lastMode? (command == "lex") arguments = some mode →
      flags.legacyIntegers = mode ∧ flags.legacySource = .commandLine
  /-- A flag that is not given takes its default. -/
  noMode {lead : List String} {command : String} {arguments : List String} {parsed : Command}
    {flags : Flags} :
    Introduces lead command → read (lead ++ command :: arguments) = .ok parsed →
    parsed.flags? = some flags → lastMode? (command == "lex") arguments = none →
      flags.legacySource = .default
  noColor_iff {lead : List String} {command : String} {arguments : List String}
    {parsed : Command} {flags : Flags} :
    Introduces lead command → read (lead ++ command :: arguments) = .ok parsed →
    parsed.flags? = some flags →
      (flags.noColor = true ↔ "--no-color" ∈ words (command == "lex") arguments)
  /-- A path that does not look like an option is the argument of the check command. -/
  check_path {path : String} :
    path.toList.head? ≠ some '-' →
      (read ["check", path]).map Command.unflagged = .ok (.check path {})
  /-- Whatever follows the option for a file is its path. -/
  lex_file {path : String} :
    (read ["lex", "--file", path]).map Command.unflagged = .ok (.lexFile path {})

end ExprLexer.CommandLine
