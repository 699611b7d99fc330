import ExprLexer.Proofs.CommandLine.Precedence
import ExprLexer.Proofs.Renderer.Palettes

/-! The flag against colour takes control sequences away and nothing else: on streams
without them, a run with the flag is the run without it. -/

set_option autoImplicit false

namespace ExprLexer.CommandLine

open Text

/-! ## Reports -/

theorem visible_asLines (texts : List String) :
    visible (asLines texts) = asLines (texts.map visible) := by
  induction texts with
  | nil => exact visible_empty
  | cons text texts ih =>
      have joined (text : String) (texts : List String) :
          asLines (text :: texts) = text ++ "\n" ++ asLines texts := by
        rw [asLines, List.map_cons, String.join_cons, asLine, asLines]
      rw [joined, List.map_cons, joined, ← ih]
      exact visible_separated '\n' (by decide) (by decide) text _

theorem stripped_success (stdout stderr : String) :
    (Outcome.success stdout stderr).stripped = ⟨0, visible stdout, visible stderr⟩ :=
  rfl

theorem stripped_failure (stderr : String) :
    (Outcome.failure stderr).stripped = ⟨1, visible "", visible stderr⟩ :=
  rfl

section Reports

variable {settings other : Settings} {source : SourceFile}

theorem visible_report (settings other : Settings) (source : SourceFile)
    (diagnostics : List Diagnostic) :
    visible (report settings source diagnostics) = visible (report other source diagnostics) := by
  rw [report, report, visible_asLines, visible_asLines, List.map_map, List.map_map]
  congr 1
  exact List.map_congr_left fun diagnostic _ => Diagnostic.visible_render
    (Palette.isInvisible_ofColor settings.color) (Palette.isInvisible_ofColor other.color) _ _

theorem stripped_lexSource (sameMode : settings.legacyIntegers = other.legacyIntegers)
    (source : SourceFile) :
    (lexSource source settings).stripped = (lexSource source other).stripped := by
  have reported := visible_report settings other source
  simp only [lexSource, sameMode]
  generalize (Lexer.ofSource ⟨source.name, other.legacyIntegers⟩ source.content 1).run = lexer
  cases lexer.result with
  | ok cursor =>
      dsimp only
      rw [stripped_success, stripped_success, reported]
  | error diagnostics =>
      dsimp only
      rw [stripped_failure, stripped_failure, reported]

theorem stripped_checkSource (sameMode : settings.legacyIntegers = other.legacyIntegers)
    (source : SourceFile) :
    (checkSource source settings).stripped = (checkSource source other).stripped := by
  have reported := visible_report settings other source
  have lexed : lexLine source settings = lexLine source other := by
    funext line number
    rw [lexLine, lexLine, sameMode]
  unfold checkSource
  rw [lexed]
  dsimp only
  split
  · rw [stripped_failure, stripped_failure, reported]
  · rw [stripped_success, stripped_success, reported]

end Reports

/-! ## Runs -/

section Runs

variable {host : Host} {tree : FileTree} {directory : AbsolutePath} {flags otherFlags : Flags}

/-- Flags that leave the same mode to every settings file. -/
def SameMode (flags otherFlags : Flags) : Prop :=
  ∀ configured, (effectiveSettings flags configured).legacyIntegers =
    (effectiveSettings otherFlags configured).legacyIntegers

theorem stripped_carryOut {settings other : Settings}
    (sameMode : settings.legacyIntegers = other.legacyIntegers) (command : Command) :
    (carryOut tree directory settings command).map Outcome.stripped =
      (carryOut tree directory other command).map Outcome.stripped := by
  cases command with
  | shown text => rfl
  | lexExpression expression _ =>
      simp only [carryOut, Except.map, stripped_lexSource sameMode]
  | lexFile path _ =>
      cases read : readInput tree directory path <;>
        simp only [carryOut, read, Except.map, stripped_lexSource sameMode]
  | check path _ =>
      cases read : readInput tree directory path <;>
        simp only [carryOut, read, Except.map, stripped_checkSource sameMode]

/-- Commands that differ in flags, and agree on the mode, make the same run but for colour. -/
theorem stripped_runCommand {parsed other : Command}
    (alike : parsed.unflagged = other.unflagged)
    (sameMode : ∀ flags ∈ parsed.flags?, ∀ otherFlags ∈ other.flags?, SameMode flags otherFlags) :
    (host.runCommand tree directory parsed).map Outcome.stripped =
      (host.runCommand tree directory other).map Outcome.stripped := by
  have sameInput : inputPath? other = inputPath? parsed := by
    rw [← inputPath?_unflagged, ← alike, inputPath?_unflagged]
  have carried (settings : Settings) :
      carryOut tree directory settings parsed = carryOut tree directory settings other := by
    rw [← carryOut_unflagged, alike, carryOut_unflagged]
  cases lexes : parsed.flags? with
  | none =>
      cases parsed with
      | shown text =>
          cases other with
          | shown text => cases alike; rfl
          | _ => cases alike
      | _ => cases lexes
  | some flags =>
      obtain ⟨otherFlags, otherLexes⟩ := exists_flags_of_unflagged alike lexes
      cases resolved : Settings.resolve tree directory (inputPath? parsed) with
      | ok configured =>
          rw [runCommand_of_ok parsed lexes resolved,
            runCommand_of_ok other otherLexes (sameInput ▸ resolved), carried]
          exact stripped_carryOut (sameMode flags lexes otherFlags otherLexes configured) other
      | error cause =>
          rw [runCommand_of_error parsed lexes resolved,
            runCommand_of_error other otherLexes (sameInput ▸ resolved), carried]

theorem stripped_run_noColor {command : String} {lead arguments extended : List String}
    (reads : ReadsFlags host.read) (introduces : Introduces lead command)
    (adds : Adds (command == "lex") "--no-color" arguments extended) :
    (host.run tree directory (lead ++ command :: extended)).map Outcome.stripped =
      (host.run tree directory (lead ++ command :: arguments)).map Outcome.stripped := by
  have alike := reads.unflagged_of_adds introduces (by decide) adds
  cases asked : host.read (lead ++ command :: arguments) with
  | error cause =>
      cases askedMore : host.read (lead ++ command :: extended) with
      | error other =>
          rw [asked, askedMore] at alike
          cases alike
          simp only [Host.run, asked, askedMore]
      | ok parsed =>
          rw [asked, askedMore] at alike
          cases alike
  | ok parsed =>
      rw [asked] at alike
      obtain ⟨other, askedMore, same⟩ := ReadsFlags.exists_of_map_unflagged alike
      rw [Host.run_of_read asked, Host.run_of_read askedMore]
      refine stripped_runCommand same fun flags flagged otherFlags otherFlagged configured => ?_
      rw [reads.effectiveSettings_eq introduces askedMore flagged,
        reads.effectiveSettings_eq introduces asked otherFlagged, settledSettings, settledSettings,
        adds.lastMode?_noColor]

/-- Colour never changes the text. With all control sequences gone, any diagnostic renders
the same with and without colour, from the same sources, whatever sequences are in its
texts or in the lines that are shown; where there are none, that is the plain rendering
itself. So on streams without control sequences, one more flag against colour leaves every
run of a command as it is, also one that breaks off. -/
theorem color_leaves_visible_text :
    (∀ tree directory sources diagnostic,
      let rendered (color : Bool) :=
        Renderer.render tree directory ⟨Palette.ofColor color, sources⟩ diagnostic
      (rendered true).1.map visible = (rendered false).1.map visible ∧
        (rendered true).2.sources = (rendered false).2.sources ∧
        ((∀ text ∈ diagnostic.texts ++ diagnostic.shownLines (rendered false).2.lineAt?,
            escapeChar ∉ text.toList) →
          (rendered true).1.map visible = (rendered false).1)) ∧
      ∀ (host : Host) tree directory lead command arguments extended,
        ReadsFlags host.read → Introduces lead command →
        Adds (command == "lex") "--no-color" arguments extended →
        (host.run tree directory (lead ++ command :: extended)).map Outcome.stripped =
          (host.run tree directory (lead ++ command :: arguments)).map Outcome.stripped := by
  refine ⟨?_, fun host tree directory lead command arguments extended reads introduces adds =>
    stripped_run_noColor reads introduces adds⟩
  intro tree directory sources diagnostic rendered
  have colored : rendered true = _ := Renderer.render_withPalette tree directory
    ⟨Palette.ofColor false, sources⟩ (Palette.ofColor true) diagnostic
  have plain : rendered false = _ := Renderer.render_withPalette tree directory
    ⟨Palette.ofColor false, sources⟩ (Palette.ofColor false) diagnostic
  have same := Diagnostic.visible_render (Palette.isInvisible_ofColor true)
    (Palette.isInvisible_ofColor false)
  -- Both renderers look up the same sources, so that one case split does for both.
  rw [colored, plain]
  rcases Renderer.render tree directory ⟨Palette.ofColor false, sources⟩ diagnostic with
    ⟨cause | text, known⟩
  · exact ⟨rfl, rfl, fun _ => rfl⟩
  · refine ⟨congrArg Except.ok (same _ _), rfl, fun absent => congrArg Except.ok ?_⟩
    exact (same _ _).trans (Diagnostic.visible_render_plain absent)

/-- Messages that leave a control sequence unfinished right before the code that ends their
colour, then plain ones, and a run with the flag behind its expression. -/
theorem color_leaves_visible_text_unfinished_sequence :
    let diagnostic : Diagnostic :=
      ⟨.error, "E101", "\x1b[1", [⟨⟨"a", 1, 1, 1, 1⟩, "\x1b["⟩], [], []⟩
    let plain : Diagnostic :=
      { diagnostic with message := "bad", labels := [⟨⟨"a", 1, 1, 1, 1⟩, "here"⟩] }
    let rendered (color : Bool) (diagnostic : Diagnostic) :=
      (Renderer.render FileTree.empty [] (Renderer.ofColor color) diagnostic).1
    (rendered true diagnostic).map visible = (rendered false diagnostic).map visible ∧
      (rendered true plain).map visible = rendered false plain ∧
      (run FileTree.empty [] ["lex", "@", "--no-color"]).map Outcome.stripped =
        (run FileTree.empty [] ["lex", "@"]).map Outcome.stripped := by
  intro diagnostic plain rendered
  obtain ⟨renderings, runs⟩ := color_leaves_visible_text
  refine ⟨(renderings FileTree.empty [] [] diagnostic).1, ?_, ?_⟩
  · have unmarked := renderings FileTree.empty [] []
      ⟨.error, "E101", "bad", [⟨⟨"a", 1, 1, 1, 1⟩, "here"⟩], [], []⟩
    exact unmarked.2.2 (by decide +kernel)
  · exact runs Host.own FileTree.empty [] [] "lex" ["@"] ["@", "--no-color"]
      readsFlags_readArguments ⟨.inl rfl, .inl rfl⟩ (.lone (by decide) (by decide) (.here []))

end Runs

end ExprLexer.CommandLine
