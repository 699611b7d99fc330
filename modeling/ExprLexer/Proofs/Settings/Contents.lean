import ExprLexer.Settings

/-! What a settings file says. Of a document only two names count, each in a table of its
own; whatever else the document has, it neither changes a setting nor is a fault. -/

set_option autoImplicit false

namespace ExprLexer.Settings

/-- The bytes are UTF-8, and their text is that of a document. -/
def ReadsAs (bytes : ByteArray) (document : Toml.Table) : Prop :=
  ∃ text, String.fromUTF8? bytes = some text ∧ Toml.read text = .ok document

/-- What a document says of a setting: nothing, if the table or the name in it is missing,
and otherwise true or false. -/
inductive Says (document : Toml.Table) (table name : String) : Option Bool → Prop where
  | noTable :
      Toml.Table.find? document table = none → Says document table name none
  | noName {entries : Toml.Table} :
      Toml.Table.find? document table = some (.table entries) →
      Toml.Table.find? entries name = none → Says document table name none
  | boolean {entries : Toml.Table} {value : Bool} :
      Toml.Table.find? document table = some (.table entries) →
      Toml.Table.find? entries name = some (.boolean value) →
      Says document table name (some value)

/-- The name of a table has a value that is none. -/
def IsTaken (document : Toml.Table) (table : String) : Prop :=
  ∃ value, Toml.Table.find? document table = some value ∧ ∀ entries, value ≠ .table entries

/-- A document gives a setting a value that is neither true nor false. -/
def IsOther (document : Toml.Table) (table name : String) (value : Toml.Value) : Prop :=
  ∃ entries, Toml.Table.find? document table = some (.table entries) ∧
    Toml.Table.find? entries name = some value ∧ ∀ flag, value ≠ .boolean flag

/-! ## One setting -/

section OneSetting

variable {document : Toml.Table} {table name : String} {default : Bool} {said : Option Bool}
  {value : Toml.Value}

theorem Says.booleanIn_eq (speaks : Says document table name said) :
    booleanIn document table name default = .ok (said.getD default) := by
  cases speaks with
  | noTable missing => simp only [booleanIn, missing, Option.getD_none]
  | noName found missing => simp only [booleanIn, found, missing, Option.getD_none]
  | boolean found set => simp only [booleanIn, found, set, Option.getD_some]

theorem IsTaken.booleanIn_eq (taken : IsTaken document table) :
    booleanIn document table name default = .error (.notTable table) := by
  obtain ⟨value, found, noTable⟩ := taken
  cases value with
  | table entries => exact absurd rfl (noTable entries)
  | _ => simp only [booleanIn, found]

theorem IsOther.booleanIn_eq (other : IsOther document table name value) :
    booleanIn document table name default = .error (.notBoolean table name value) := by
  obtain ⟨entries, found, set, noBoolean⟩ := other
  cases value with
  | boolean flag => exact absurd rfl (noBoolean flag)
  | _ => simp only [booleanIn, found, set]

/-- A setting is made or left open, or it is no boolean, or its table is none. -/
theorem said_or_fault (document : Toml.Table) (table name : String) :
    (∃ said, Says document table name said) ∨
      (∃ value, IsOther document table name value) ∨ IsTaken document table := by
  cases found : Toml.Table.find? document table with
  | none => exact .inl ⟨none, .noTable found⟩
  | some value =>
      cases value with
      | table entries =>
          cases set : Toml.Table.find? entries name with
          | none => exact .inl ⟨none, .noName found set⟩
          | some value =>
              cases value with
              | boolean value => exact .inl ⟨some value, .boolean found set⟩
              | _ => exact .inr (.inl ⟨_, entries, found, set, nofun⟩)
      | _ => exact .inr (.inr ⟨_, found, nofun⟩)

end OneSetting

/-! ## Documents -/

section Documents

variable {document : Toml.Table} {bytes : ByteArray} {settings : Settings}
  {cause : SettingsFault} {name : String}

theorem ofDocument_eq_ok {legacyIntegers color : Option Bool}
    (lexer : Says document "lexer" "legacy_integers" legacyIntegers)
    (output : Says document "output" "color" color) :
    ofDocument document = .ok ⟨legacyIntegers.getD false, color.getD true⟩ := by
  simp only [ofDocument, lexer.booleanIn_eq, output.booleanIn_eq]
  rfl

/-- The outcomes of reading a document. The table of the lexer is looked at first, so that
of the output only counts if there is no fault before. -/
inductive Makes (document : Toml.Table) : Except SettingsFault Settings → Prop where
  | settings {legacyIntegers color : Option Bool} :
      Says document "lexer" "legacy_integers" legacyIntegers →
      Says document "output" "color" color →
      Makes document (.ok ⟨legacyIntegers.getD false, color.getD true⟩)
  | lexerOther {value : Toml.Value} :
      IsOther document "lexer" "legacy_integers" value →
      Makes document (.error (.notBoolean "lexer" "legacy_integers" value))
  | outputOther {legacyIntegers : Option Bool} {value : Toml.Value} :
      Says document "lexer" "legacy_integers" legacyIntegers →
      IsOther document "output" "color" value →
      Makes document (.error (.notBoolean "output" "color" value))
  | lexerTaken : IsTaken document "lexer" → Makes document (.error (.notTable "lexer"))
  | outputTaken {legacyIntegers : Option Bool} :
      Says document "lexer" "legacy_integers" legacyIntegers → IsTaken document "output" →
      Makes document (.error (.notTable "output"))

theorem makes_ofDocument (document : Toml.Table) : Makes document (ofDocument document) := by
  obtain ⟨legacyIntegers, lexer⟩ | ⟨value, other⟩ | taken :=
    said_or_fault document "lexer" "legacy_integers"
  · obtain ⟨color, output⟩ | ⟨value, other⟩ | taken := said_or_fault document "output" "color"
    · rw [ofDocument_eq_ok lexer output]
      exact .settings lexer output
    · simp only [ofDocument, lexer.booleanIn_eq, other.booleanIn_eq]
      exact .outputOther lexer other
    · simp only [ofDocument, lexer.booleanIn_eq, taken.booleanIn_eq]
      exact .outputTaken lexer taken
  · simp only [ofDocument, other.booleanIn_eq]
    exact .lexerOther other
  · simp only [ofDocument, taken.booleanIn_eq]
    exact .lexerTaken taken

theorem ofDocument_eq_ok_iff :
    ofDocument document = .ok settings ↔
      ∃ legacyIntegers color, Says document "lexer" "legacy_integers" legacyIntegers ∧
        Says document "output" "color" color ∧
        settings = ⟨legacyIntegers.getD false, color.getD true⟩ := by
  constructor
  · intro made
    have makes := makes_ofDocument document
    rw [made] at makes
    cases makes with
    | settings lexer output => exact ⟨_, _, lexer, output, rfl⟩
  · rintro ⟨legacyIntegers, color, lexer, output, rfl⟩
    exact ofDocument_eq_ok lexer output

/-- Of the settings made from a document each is what the document says of it. -/
theorem settings_of_ofDocument {legacyIntegers color : Option Bool}
    (made : ofDocument document = .ok settings) :
    (Says document "lexer" "legacy_integers" legacyIntegers →
        settings.legacyIntegers = legacyIntegers.getD false) ∧
      (Says document "output" "color" color → settings.color = color.getD true) := by
  obtain ⟨_, _, lexer, output, rfl⟩ := ofDocument_eq_ok_iff.mp made
  constructor
  · intro spoken
    exact Except.ok.inj (lexer.booleanIn_eq.symm.trans spoken.booleanIn_eq)
  · intro spoken
    exact Except.ok.inj (output.booleanIn_eq.symm.trans spoken.booleanIn_eq)

/-- What stands in the way of a table: it is that of the lexer that is taken, or it is that
of the output while nothing is wrong with the other. -/
def NotTable (document : Toml.Table) (name : String) : Prop :=
  (name = "lexer" ∧ IsTaken document "lexer") ∨
    (name = "output" ∧ IsTaken document "output" ∧
      ∃ said, Says document "lexer" "legacy_integers" said)

theorem ofDocument_eq_notTable_iff :
    ofDocument document = .error (.notTable name) ↔ NotTable document name := by
  constructor
  · intro made
    have makes := makes_ofDocument document
    rw [made] at makes
    cases makes with
    | lexerTaken taken => exact .inl ⟨rfl, taken⟩
    | outputTaken lexer taken => exact .inr ⟨rfl, taken, _, lexer⟩
  · rintro (⟨rfl, taken⟩ | ⟨rfl, taken, said, lexer⟩)
    · simp only [ofDocument, taken.booleanIn_eq]
      rfl
    · simp only [ofDocument, lexer.booleanIn_eq, taken.booleanIn_eq]
      rfl

/-- A setting that is neither true nor false, and comes to be looked at. -/
def NotBoolean (document : Toml.Table) (table name : String) (value : Toml.Value) : Prop :=
  (table = "lexer" ∧ name = "legacy_integers" ∧
      IsOther document "lexer" "legacy_integers" value) ∨
    (table = "output" ∧ name = "color" ∧ IsOther document "output" "color" value ∧
      ∃ said, Says document "lexer" "legacy_integers" said)

theorem ofDocument_eq_notBoolean_iff {table : String} {value : Toml.Value} :
    ofDocument document = .error (.notBoolean table name value) ↔
      NotBoolean document table name value := by
  constructor
  · intro made
    have makes := makes_ofDocument document
    rw [made] at makes
    cases makes with
    | lexerOther other => exact .inl ⟨rfl, rfl, other⟩
    | outputOther lexer other => exact .inr ⟨rfl, rfl, other, _, lexer⟩
  · rintro (⟨rfl, rfl, other⟩ | ⟨rfl, rfl, other, said, lexer⟩)
    · simp only [ofDocument, other.booleanIn_eq]
      rfl
    · simp only [ofDocument, lexer.booleanIn_eq, other.booleanIn_eq]
      rfl

/-! ## Bytes -/

theorem ofBytes_of_readsAs (reads : ReadsAs bytes document) :
    ofBytes bytes = ofDocument document := by
  obtain ⟨text, decoded, read⟩ := reads
  simp only [ofBytes, decoded, read]

theorem readsAs_or_fault (bytes : ByteArray) :
    (∃ document, ReadsAs bytes document) ∨ ofBytes bytes = .error .undecodable ∨
      ∃ fault, ofBytes bytes = .error (.document fault) := by
  cases decoded : String.fromUTF8? bytes with
  | none => exact .inr (.inl (by simp only [ofBytes, decoded]))
  | some text =>
      cases read : Toml.read text with
      | ok document => exact .inl ⟨document, text, decoded, read⟩
      | error fault => exact .inr (.inr ⟨fault, by simp only [ofBytes, decoded, read]⟩)

/-- An outcome that is no fault of reading is that of the document which the bytes are. -/
theorem ofBytes_eq_iff {made : Except SettingsFault Settings}
    (decodable : made ≠ .error .undecodable)
    (wellFormed : ∀ fault, made ≠ .error (.document fault)) :
    ofBytes bytes = made ↔ ∃ document, ReadsAs bytes document ∧ ofDocument document = made := by
  constructor
  · intro result
    obtain ⟨document, reads⟩ | failed | ⟨fault, failed⟩ := readsAs_or_fault bytes
    · exact ⟨document, reads, (ofBytes_of_readsAs reads).symm.trans result⟩
    · exact absurd (result.symm.trans failed) decodable
    · exact absurd (result.symm.trans failed) (wellFormed fault)
  · rintro ⟨document, reads, result⟩
    exact (ofBytes_of_readsAs reads).trans result

theorem ofBytes_eq_ok_iff :
    ofBytes bytes = .ok settings ↔
      ∃ document, ReadsAs bytes document ∧
        ∃ legacyIntegers color, Says document "lexer" "legacy_integers" legacyIntegers ∧
          Says document "output" "color" color ∧
          settings = ⟨legacyIntegers.getD false, color.getD true⟩ := by
  rw [ofBytes_eq_iff]
  · simp only [ofDocument_eq_ok_iff]
  · nofun
  · nofun

theorem ofBytes_eq_notTable_iff :
    ofBytes bytes = .error (.notTable name) ↔
      ∃ document, ReadsAs bytes document ∧ NotTable document name := by
  rw [ofBytes_eq_iff]
  · simp only [ofDocument_eq_notTable_iff]
  · nofun
  · nofun

theorem ofBytes_eq_notBoolean_iff {table : String} {value : Toml.Value} :
    ofBytes bytes = .error (.notBoolean table name value) ↔
      ∃ document, ReadsAs bytes document ∧ NotBoolean document table name value := by
  rw [ofBytes_eq_iff]
  · simp only [ofDocument_eq_notBoolean_iff]
  · nofun
  · nofun

theorem isInvalidContent_or_notTable_of_ofBytes (failed : ofBytes bytes = .error cause) :
    cause.isInvalidContent = true ∨ ∃ name, cause = .notTable name := by
  obtain ⟨document, reads⟩ | other | ⟨fault, other⟩ := readsAs_or_fault bytes
  · rw [ofBytes_of_readsAs reads] at failed
    have makes := makes_ofDocument document
    rw [failed] at makes
    cases makes with
    | lexerOther other => exact .inl rfl
    | outputOther lexer other => exact .inl rfl
    | lexerTaken taken => exact .inr ⟨_, rfl⟩
    | outputTaken lexer taken => exact .inr ⟨_, rfl⟩
  · cases failed.symm.trans other
    exact .inl rfl
  · cases failed.symm.trans other
    exact .inl rfl

theorem isAbsence_of_ofBytes (failed : ofBytes bytes = .error cause) :
    cause.isAbsence = false := by
  obtain invalid | ⟨name, rfl⟩ := isInvalidContent_or_notTable_of_ofBytes failed
  · cases cause with
    | notFound => cases invalid
    | path cause => cases invalid
    | _ => rfl
  · rfl

theorem load_of_file {tree : FileTree} {directory : AbsolutePath} {path : String}
    (isFile : tree.lookup directory (FilePath.tidy path) = .ok (.file bytes)) :
    load tree directory path = ofBytes bytes := by
  simp only [load, isFile, ofEntry]

end Documents

end ExprLexer.Settings
