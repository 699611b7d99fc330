import ExprLexer.Proofs.CommandLine.Checking
import ExprLexer.Proofs.Lexing.Displays
import ExprLexer.Proofs.Text.ControlSequences

/-! Tokens are listed all or not at all, and a listing tells what was listed: its line
feeds part the tokens, and the spaces and colons of a line part what is said of one. -/

set_option autoImplicit false

namespace ExprLexer

/-! ## Fields -/

def Lexer.isTokenChar (char : Char) : Bool := isWordChar char || symbols.contains char

theorem Lexer.isTokenChar_of_isWordChar {char : Char} (wordChar : isWordChar char = true) :
    isTokenChar char = true := by
  rw [isTokenChar, wordChar, Bool.true_or]

theorem Lexer.isTokenChar_of_mem_symbols {char : Char} (member : char ∈ symbols) :
    isTokenChar char = true := by
  rw [isTokenChar, List.contains_iff_mem.mpr member, Bool.or_true]

/-- Nothing that separates fields, and nothing that starts a control sequence, can stand
in a token. -/
theorem Lexer.not_isTokenChar_of_mem {char : Char}
    (member : char ∈ [' ', ':', '\n', Text.escapeChar]) : isTokenChar char = false := by
  have apart : ([' ', ':', '\n', Text.escapeChar].all fun char => !isTokenChar char) = true := by
    decide +kernel
  simpa using List.all_eq_true.mp apart char member

def IsField (text : List Char) : Prop := ∀ char ∈ text, Lexer.isTokenChar char = true

namespace IsField

variable {text other : List Char} {char : Char}

theorem not_mem (field : IsField text) (separates : char ∈ [' ', ':', '\n', Text.escapeChar]) :
    char ∉ text := by
  intro member
  have apart := Lexer.not_isTokenChar_of_mem separates
  rw [field char member] at apart
  cases apart

theorem repr (number : Int) : IsField number.repr.toList := by
  intro char member
  rcases Text.isDigit_or_eq_of_mem_repr member with digit | rfl
  · exact Lexer.isTokenChar_of_isWordChar (Lexer.isWordChar_of_isDigit digit)
  · exact Lexer.isTokenChar_of_mem_symbols (by decide)

theorem word (kind : TokenKind) : IsField kind.word.toList := by
  have letters : (kind.word.toList.all Lexer.isTokenChar) = true := by
    cases kind <;> decide +kernel
  exact List.all_eq_true.mp letters

end IsField

theorem Piece.isField_of_token? {piece : Piece} {legacyIntegers : Bool} {value : TokenValue}
    (token : piece.token? legacyIntegers = some value) : IsField piece.text := by
  have offered : piece.isOffered = true := by
    by_contra refused
    rw [Piece.token?, if_neg refused] at token
    cases token
  intro char member
  rcases Bool.or_eq_true_iff.mp offered with word | symbol
  · exact Lexer.isTokenChar_of_isWordChar (List.all_eq_true.mp word char member)
  · obtain ⟨single, listed, same⟩ := List.any_eq_true.mp symbol
    rw [eq_of_beq same, List.mem_singleton] at member
    exact Lexer.isTokenChar_of_mem_symbols (member ▸ listed)

/-- The display of a token of a source has none of the characters that separate fields. -/
theorem Piece.IsPieceOf.isField_display {piece : Piece} {source : List Char}
    (valid : piece.IsPieceOf source) {legacyIntegers : Bool} {value : TokenValue}
    (token : piece.token? legacyIntegers = some value) : IsField value.display.toList := by
  have itself (shown : value.display = String.ofList piece.text) :
      IsField value.display.toList := by
    rw [shown, String.toList_ofList]
    exact isField_of_token? token
  rcases valid.shape with word | symbol
  · rcases TokenValue.isOperand_of_classify_word word.wordChars (classify_of_token? token) with
      ⟨constant, rfl⟩ | rfl
    · rcases valid.constant_eq_or token with rfl | ⟨units, representable, rfl⟩
      · exact List.all_eq_true.mp
          (show ("inf".toList.all Lexer.isTokenChar) = true by decide +kernel)
      · -- The display is a piece of its own, which becomes a token again.
        exact isField_of_token? (TokenValue.readsBack_constant units representable).token?_eq
    · exact itself rfl
  · exact itself (TokenValue.display_of_ofSymbol? (symbol.ofSymbol?_eq token))

theorem TokenKind.word_injective {left right : TokenKind} (same : left.word = right.word) :
    left = right := by
  cases left <;> cases right <;> first | rfl | exact absurd same (by decide)

/-- What a token is shows in its kind and its display together. -/
theorem TokenValue.eq_of_display {left right : TokenValue} (sameKind : left.kind = right.kind)
    (same : left.display = right.display) : left = right := by
  cases left <;> cases right <;> cases sameKind
  next => rfl
  next => rfl
  next left right => exact congrArg TokenValue.constant (Decimal.format_injective same)
  next left right => exact congrArg TokenValue.variable same
  next left right =>
    have symbols : left.symbol = right.symbol := by
      simpa [display, Char.toString_eq_singleton] using same
    have found := Operator.ofChar?_symbol left
    rw [symbols, Operator.ofChar?_symbol right] at found
    exact congrArg TokenValue.operator (Option.some.inj found).symm

/-! ## Lines -/

def Token.start? (token : Token) : Option (Int × Int) :=
  token.span.map fun span => (span.startLine, span.startColumn)

namespace CommandLine

/-- The line of a token tells where the token stood, and its display is a field of it. -/
structure IsListable (token : Token) : Prop where
  spanned : token.span.isSome
  field : IsField token.value.display.toList

variable {token other : Token}

theorem toList_listingLine {span : Span} (spanned : token.span = some span) :
    (listingLine token).toList =
      (span.startLine.repr.toList ++ ':' :: span.startColumn.repr.toList) ++ ' ' ::
        (token.value.kind.word.toList ++ ' ' :: token.value.display.toList) := by
  have colon : (toString ":").toList = [':'] := rfl
  have space : (toString " ").toList = [' '] := rfl
  simp [listingLine, spanned, Int.toString_eq_repr, colon, space]

namespace IsListable

theorem fields_eq (listable : IsListable token) {span : Span} (spanned : token.span = some span) :
    (listingLine token).toList.splitOn ' ' =
      [span.startLine.repr.toList ++ ':' :: span.startColumn.repr.toList,
        token.value.kind.word.toList, token.value.display.toList] := by
  have place : ' ' ∉ span.startLine.repr.toList ++ ':' :: span.startColumn.repr.toList := by
    have line := (IsField.repr span.startLine).not_mem (show ' ' ∈ _ by decide)
    have column := (IsField.repr span.startColumn).not_mem (show ' ' ∈ _ by decide)
    simp [line, column]
  rw [toList_listingLine spanned, List.splitOn_append_cons_self_of_not_mem place,
    List.splitOn_append_cons_self_of_not_mem ((IsField.word _).not_mem (by decide)),
    List.splitOn_eq_singleton (listable.field.not_mem (by decide))]

theorem not_mem_listingLine (listable : IsListable token) {char : Char}
    (separates : char ∈ ['\n', Text.escapeChar]) : char ∉ (listingLine token).toList := by
  obtain ⟨span, spanned⟩ := Option.isSome_iff_exists.mp listable.spanned
  have others : char ≠ ' ' ∧ char ≠ ':' := by
    rcases List.mem_pair.mp separates with rfl | rfl <;> decide
  have absent : char ∈ [' ', ':', '\n', Text.escapeChar] :=
    List.mem_cons_of_mem _ (List.mem_cons_of_mem _ separates)
  have line := (IsField.repr span.startLine).not_mem absent
  have column := (IsField.repr span.startColumn).not_mem absent
  have word := (IsField.word token.value.kind).not_mem absent
  have display := listable.field.not_mem absent
  rw [toList_listingLine spanned]
  simp [line, column, word, display, others]

theorem eq_of_listingLine (listable : IsListable token) (otherListable : IsListable other)
    (same : listingLine token = listingLine other) :
    token.value = other.value ∧ token.start? = other.start? := by
  obtain ⟨span, spanned⟩ := Option.isSome_iff_exists.mp listable.spanned
  obtain ⟨otherSpan, otherSpanned⟩ := Option.isSome_iff_exists.mp otherListable.spanned
  have fields := listable.fields_eq spanned
  rw [same, otherListable.fields_eq otherSpanned] at fields
  simp only [List.cons.injEq, and_true, String.toList_inj] at fields
  obtain ⟨samePlace, sameWord, sameDisplay⟩ := fields
  have places := congrArg (List.splitOn ':') samePlace
  rw [List.splitOn_append_cons_self_of_not_mem ((IsField.repr _).not_mem (by decide)),
    List.splitOn_append_cons_self_of_not_mem ((IsField.repr _).not_mem (by decide)),
    List.splitOn_eq_singleton ((IsField.repr _).not_mem (by decide)),
    List.splitOn_eq_singleton ((IsField.repr _).not_mem (by decide))] at places
  simp only [List.cons.injEq, and_true, String.toList_inj] at places
  have sameLine := Text.eq_of_repr_eq places.1
  have sameColumn := Text.eq_of_repr_eq places.2
  constructor
  · exact (TokenValue.eq_of_display (TokenKind.word_injective sameWord) sameDisplay).symm
  · rw [Token.start?, Token.start?, spanned, otherSpanned, Option.map_some, Option.map_some,
      sameLine, sameColumn]

end IsListable

theorem isListable_of_mem_tokens {options : LexerOptions} {text : String} {line : Int}
    (member : token ∈ (Lexer.ofSource options text line).run.tokens) : IsListable token := by
  rw [Lexer.tokens_run] at member
  obtain ⟨piece, listed, found⟩ := List.mem_filterMap.mp member
  have valid := mem_pieces_iff.mp listed
  have yields := valid.yields options line
  have spans := yields.token_spans
  have value := yields.token?_eq
  rw [found] at spans value
  rcases spans with ⟨_, _, same, single⟩ | ⟨_, absent⟩
  · cases same
    refine ⟨?_, valid.isField_display value.symm⟩
    cases place : token.span with
    | none =>
        rw [Token.spans, place] at single
        cases single
    | some span => rfl
  · cases absent

/-! ## Listings -/

theorem splitOn_asLines {texts : List String} (within : ∀ text ∈ texts, '\n' ∉ text.toList) :
    (asLines texts).toList.splitOn '\n' = texts.map String.toList ++ [[]] := by
  induction texts with
  | nil => rfl
  | cons text texts ih =>
      obtain ⟨first, others⟩ := List.forall_mem_cons.mp within
      have shape : (asLines (text :: texts)).toList =
          text.toList ++ '\n' :: (asLines texts).toList := by
        simp [asLines, asLine]
      rw [shape, List.splitOn_append_cons_self_of_not_mem first, ih others, List.map_cons,
        List.cons_append]

theorem not_mem_asLines {texts : List String} {char : Char} (other : char ≠ '\n')
    (absent : ∀ text ∈ texts, char ∉ text.toList) : char ∉ (asLines texts).toList := by
  intro member
  rw [asLines, String.toList_join, List.mem_flatMap] at member
  obtain ⟨line, listed, inside⟩ := member
  obtain ⟨text, member, rfl⟩ := List.mem_map.mp listed
  simp [asLine, absent text member, other] at inside

theorem map_eq_of_map_listingLine {tokens others : List Token}
    (listable : ∀ token ∈ tokens, IsListable token)
    (otherListable : ∀ token ∈ others, IsListable token)
    (same : tokens.map listingLine = others.map listingLine) :
    tokens.map (fun token => (token.value.kind, token.value, token.start?)) =
      others.map fun token => (token.value.kind, token.value, token.start?) := by
  induction tokens generalizing others with
  | nil =>
      cases others with
      | nil => rfl
      | cons other others => cases same
  | cons token tokens ih =>
      cases others with
      | nil => cases same
      | cons other others =>
          obtain ⟨sameLine, sameLines⟩ := List.cons.inj same
          obtain ⟨first, rest⟩ := List.forall_mem_cons.mp listable
          obtain ⟨otherFirst, otherRest⟩ := List.forall_mem_cons.mp otherListable
          obtain ⟨sameValue, sameStart⟩ := first.eq_of_listingLine otherFirst sameLine
          rw [List.map_cons, List.map_cons, ih rest otherRest sameLines, sameValue, sameStart]

end CommandLine

/-! ## Errors -/

/-- Whether a diagnostic is about a character without a meaning or a word that is no number. -/
def Diagnostic.IsLexicalError (diagnostic : Diagnostic) : Prop :=
  diagnostic.code = "E101" ∨ diagnostic.code = "E102"

theorem Piece.Yields.isError_iff {options : LexerOptions} {line : Int} {piece : Piece}
    {found : Finding} (yields : Yields options line piece found) {diagnostic : Diagnostic}
    (member : diagnostic ∈ found.diagnostic) :
    diagnostic.isError = true ↔ diagnostic.IsLexicalError := by
  cases yields with
  | token _ _ _ =>
      split at member
      next =>
        cases member
        have warned : ¬("W001" = "E101" ∨ "W001" = "E102") := by decide
        exact iff_of_false Bool.false_ne_true warned
      next => cases member
  | malformed _ _ =>
      cases member
      exact iff_of_true rfl (.inr rfl)
  | unknown _ _ _ =>
      cases member
      exact iff_of_true rfl (.inl rfl)

theorem Lexer.isRefused_run_iff (options : LexerOptions) (text : String) (line : Int) :
    (ofSource options text line).run.IsRefused ↔
      ∃ diagnostic ∈ (ofSource options text line).run.diagnostics, diagnostic.IsLexicalError := by
  rw [isRefused_iff, List.any_eq_true]
  apply exists_congr
  intro diagnostic
  apply and_congr_right
  intro member
  rw [diagnostics, findings_run, List.filterMap_map] at member
  obtain ⟨piece, listed, reported⟩ := List.mem_filterMap.mp member
  exact ((mem_pieces_iff.mp listed).yields options line).isError_iff reported

namespace CommandLine

/-! ## Runs -/

variable {source otherSource : SourceFile} {settings otherSettings : Settings}

theorem not_mem_listing {char : Char} (separates : char ∈ ['\n', Text.escapeChar]) :
    ∀ line ∈ (lexWhole source settings).tokens.map listingLine, char ∉ line.toList := by
  intro line member
  obtain ⟨token, listed, rfl⟩ := List.mem_map.mp member
  exact (isListable_of_mem_tokens listed).not_mem_listingLine separates

theorem splitOn_listing (source : SourceFile) (settings : Settings) :
    (asLines ((lexWhole source settings).tokens.map listingLine)).toList.splitOn '\n' =
      ((lexWhole source settings).tokens.map listingLine).map String.toList ++ [[]] :=
  splitOn_asLines (not_mem_listing (by decide))

theorem stdout_stripped {outcome : Outcome} (plain : Text.escapeChar ∉ outcome.stdout.toList) :
    outcome.stripped.stdout = outcome.stdout := by
  have same := congrArg String.ofList (Text.stripControls_of_not_mem plain)
  rwa [String.ofList_toList] at same

theorem lexSource_of_isRefused (refused : (lexWhole source settings).IsRefused) :
    (lexSource source settings).exitCode = 1 ∧ (lexSource source settings).stdout = "" := by
  obtain ⟨reports, result⟩ := refused
  rw [lexWhole] at result
  simp only [lexSource, result]
  exact ⟨rfl, rfl⟩

theorem lexSource_of_not_isRefused (accepted : ¬(lexWhole source settings).IsRefused) :
    (lexSource source settings).exitCode = 0 ∧
      (lexSource source settings).stdout =
        asLines ((lexWhole source settings).tokens.map listingLine) := by
  have result : (lexWhole source settings).result =
      .ok (Cursor.ofList (lexWhole source settings).tokens) := by
    rw [Lexer.isRefused_iff] at accepted
    rw [Lexer.result, if_neg accepted]
  rw [lexWhole] at result
  simp only [lexSource, result]
  exact ⟨rfl, rfl⟩

theorem not_isRefused_of_exitCode (success : (lexSource source settings).exitCode = 0) :
    ¬(lexWhole source settings).IsRefused := by
  intro refused
  rw [(lexSource_of_isRefused refused).1] at success
  cases success

/-- The arguments ask for the tokens of a source, and the source and its settings are there. -/
inductive Lexes (host : Host) (tree : FileTree) (directory : AbsolutePath)
    (arguments : List String) : SourceFile → Settings → Prop where
  | expression {expression : String} {flags : Flags} {configured : Settings} :
      host.read arguments = .ok (.lexExpression expression flags) →
      Settings.resolve tree directory none = .ok configured →
      Lexes host tree directory arguments ⟨"<expr>", expression⟩
        (effectiveSettings flags configured)
  | file {path : String} {flags : Flags} {source : SourceFile} {configured : Settings} :
      host.read arguments = .ok (.lexFile path flags) →
      readInput tree directory path = .ok source →
      Settings.resolve tree directory (some path) = .ok configured →
      Lexes host tree directory arguments source (effectiveSettings flags configured)

variable {host : Host} {tree : FileTree} {directory : AbsolutePath} {arguments : List String}

theorem Lexes.run_eq (lexes : Lexes host tree directory arguments source settings) :
    host.run tree directory arguments = .ok (lexSource source settings) := by
  cases lexes with
  | @expression text flags _ asked valid =>
      rw [Host.run_of_read asked, runCommand_of_ok (.lexExpression text flags) rfl valid, carryOut]
  | @file path flags _ _ asked read valid =>
      rw [Host.run_of_read asked, runCommand_of_ok (.lexFile path flags) rfl valid, carryOut, read]
      rfl

theorem tokens_eq_of_stdout_lexSource (accepted : ¬(lexWhole source settings).IsRefused)
    (otherAccepted : ¬(lexWhole otherSource otherSettings).IsRefused)
    (same : (lexSource source settings).stdout = (lexSource otherSource otherSettings).stdout) :
    (lexWhole source settings).tokens.map
        (fun token => (token.value.kind, token.value, token.start?)) =
      (lexWhole otherSource otherSettings).tokens.map fun token =>
        (token.value.kind, token.value, token.start?) := by
  rw [(lexSource_of_not_isRefused accepted).2, (lexSource_of_not_isRefused otherAccepted).2] at same
  have lines := congrArg (fun text => text.toList.splitOn '\n') same
  simp only [splitOn_listing, List.append_cancel_right_eq] at lines
  have sameLines := List.map_injective_iff.mpr (fun _ _ => String.toList_inj.mp) lines
  exact map_eq_of_map_listingLine (fun _ => isListable_of_mem_tokens)
    (fun _ => isListable_of_mem_tokens) sameLines

/-- Lexing lists the tokens all or not at all: with a lexical error the run fails without
output; without one it succeeds, and its output is one line for each token, in order, also
on a stream that is no terminal. Two such listings are equal only of tokens with the same
kinds, the same values, bit for bit, and the same starts. -/
theorem run_lex_lists_all_or_nothing
    (lexes : Lexes host tree directory arguments source settings) :
    let lexer := lexWhole source settings
    ∃ outcome, host.run tree directory arguments = .ok outcome ∧
      ((∃ diagnostic ∈ lexer.diagnostics, diagnostic.IsLexicalError) →
        outcome.exitCode = 1 ∧ outcome.stdout = "") ∧
      ((∀ diagnostic ∈ lexer.diagnostics, ¬diagnostic.IsLexicalError) →
        outcome.exitCode = 0 ∧ outcome.stdout = asLines (lexer.tokens.map listingLine) ∧
          outcome.stdout.toList.splitOn '\n' =
            (lexer.tokens.map listingLine).map String.toList ++ [[]] ∧
          outcome.stripped.stdout = outcome.stdout) ∧
      ∀ otherHost otherTree otherDirectory otherArguments otherSource otherSettings,
        Lexes otherHost otherTree otherDirectory otherArguments otherSource otherSettings →
        ∀ otherOutcome, otherHost.run otherTree otherDirectory otherArguments = .ok otherOutcome →
          outcome.exitCode = 0 → otherOutcome.exitCode = 0 →
          outcome.stdout = otherOutcome.stdout →
          lexer.tokens.map (fun token => (token.value.kind, token.value, token.start?)) =
            (lexWhole otherSource otherSettings).tokens.map fun token =>
              (token.value.kind, token.value, token.start?) := by
  intro lexer
  have errors : lexer.IsRefused ↔ ∃ diagnostic ∈ lexer.diagnostics, diagnostic.IsLexicalError :=
    Lexer.isRefused_run_iff _ _ _
  refine ⟨_, lexes.run_eq, ?_, ?_, ?_⟩
  · intro faulty
    exact lexSource_of_isRefused (errors.mpr faulty)
  · intro faultless
    have accepted : ¬lexer.IsRefused := fun refused => by
      obtain ⟨diagnostic, member, error⟩ := errors.mp refused
      exact faultless diagnostic member error
    obtain ⟨exit, listing⟩ := lexSource_of_not_isRefused accepted
    refine ⟨exit, listing, ?_, ?_⟩
    · rw [listing]
      exact splitOn_listing source settings
    · have plain : Text.escapeChar ∉ (asLines (lexer.tokens.map listingLine)).toList :=
        not_mem_asLines (by decide) (not_mem_listing (by decide))
      exact stdout_stripped (listing ▸ plain)
  · intro otherHost otherTree otherDirectory otherArguments otherSource otherSettings
      otherLexes otherOutcome ran success otherSuccess same
    rw [otherLexes.run_eq] at ran
    cases ran
    exact tokens_eq_of_stdout_lexSource (not_isRefused_of_exitCode success)
      (not_isRefused_of_exitCode otherSuccess) same

/-- A zero at the end of a numeral shows neither in the listing nor in the tokens. -/
theorem run_lex_lists_all_or_nothing_trailing_zero :
    let start (token : Token) := (token.value.kind, token.value, token.start?)
    ∃ outcome, run FileTree.empty [] ["lex", "x+2.50"] = .ok outcome ∧ outcome.exitCode = 0 ∧
      outcome.stdout = "1:1 VARIABLE x\n1:2 OPERATOR +\n1:3 CONSTANT 2.5\n" ∧
      (lexWhole ⟨"<expr>", "x+2.50"⟩ {}).tokens.map start =
        (lexWhole ⟨"<expr>", "x+2.5"⟩ {}).tokens.map start := by
  have lexes (text : String)
      (command : Host.own.read ["lex", text] = .ok (.lexExpression text {})) :
      Lexes Host.own FileTree.empty [] ["lex", text] ⟨"<expr>", text⟩ {} :=
    .expression command (rfl : Settings.resolve FileTree.empty [] none = .ok {})
  have other := lexes "x+2.5" rfl
  obtain ⟨outcome, ran, _, listed, decoded⟩ :=
    run_lex_lists_all_or_nothing (lexes "x+2.50" rfl)
  have faultless : (lexWhole ⟨"<expr>", "x+2.50"⟩ {}).diagnostics = [] := by decide +kernel
  obtain ⟨exit, listing, _⟩ := listed (by simp [faultless])
  have shown : outcome.stdout = "1:1 VARIABLE x\n1:2 OPERATOR +\n1:3 CONSTANT 2.5\n" := by
    rw [listing]
    decide +kernel
  have otherShown : (lexSource ⟨"<expr>", "x+2.5"⟩ {}).stdout =
      "1:1 VARIABLE x\n1:2 OPERATOR +\n1:3 CONSTANT 2.5\n" := by decide +kernel
  have otherExit : (lexSource ⟨"<expr>", "x+2.5"⟩ {}).exitCode = 0 := by decide +kernel
  exact ⟨outcome, ran, exit, shown,
    decoded _ _ _ _ _ _ other _ other.run_eq exit otherExit (shown.trans otherShown.symm)⟩

end CommandLine

end ExprLexer
