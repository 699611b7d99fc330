import ExprLexer.Cursor
import ExprLexer.Diagnostic
import ExprLexer.Text.Alphanumeric
import ExprLexer.Text.Blank
import ExprLexer.Token

/-!
# Lexing

The lexer walks over a source once. Blank characters separate; a maximal run of
word characters is one piece, and every other character is a piece alone. Each
piece is classified where it stands and yields a token, a diagnostic, or both; a
piece that is no token never hides the pieces after it.
-/

set_option autoImplicit false

namespace ExprLexer

/-- How a source is read: its name, and whether digit strings are variables. -/
structure LexerOptions where
  file : String
  legacyIntegers : Bool

/-- A place between two characters of a source: how many characters are before
it, its line, and its column counted from one. -/
structure Location where
  offset : Nat
  line : Int
  column : Nat
  deriving DecidableEq

namespace Location

def start (line : Int) : Location := ⟨0, line, 1⟩

/-- The place after a character. Only the line feed starts a line. -/
def advance (location : Location) (char : Char) : Location :=
  if char = '\n' then ⟨location.offset + 1, location.line + 1, 1⟩
  else ⟨location.offset + 1, location.line, location.column + 1⟩

def advanceBy (location : Location) (text : List Char) : Location :=
  text.foldl advance location

def spanTo (start finish : Location) (file : String) : Span where
  file := file
  startLine := start.line
  startColumn := start.column
  endLine := finish.line
  endColumn := if 1 < finish.column then finish.column - 1 else 1

end Location

/-- What a piece of a source yields. -/
structure Finding where
  token : Option Token
  diagnostic : Option Diagnostic
  deriving DecidableEq

namespace Lexer

def isWordChar (char : Char) : Bool :=
  Text.isAlphanumeric char || char == '_' || char == '.'

/-! ## Pieces -/

/-- The operator that a character is easily mistaken for. -/
def lookAlike? (char : Char) : Option Operator :=
  match char with
  | '\u00d7' => some .mul
  | '\u00b7' => some .mul
  | '\u00f7' => some .div
  | '\u2215' => some .div
  | '\u2212' => some .sub
  | '\u2013' => some .sub
  | _ => none

def operatorNote : String :=
  "supported operators are "
    ++ " ".intercalate (Operator.all.map fun operator => operator.symbol.toString)

/-- The note for a literal cut off before the sign of its exponent. -/
def exponentNote : String :=
  "a signed exponent cannot be written inline; `+` and `-` always lex as operators"

def faultDiagnostic (cause : LexicalFault) (span : Span) (label : String)
    (notes : List String) (suggestions : List Suggestion) : Diagnostic where
  severity := .error
  code := cause.code
  message := cause.message
  labels := [⟨span, label⟩]
  notes := notes
  suggestions := suggestions

/-- What a character that is neither blank nor of a word yields. -/
def symbolFinding (char : Char) (span : Span) : Finding :=
  match TokenValue.ofSymbol? [char] with
  | some value => ⟨some ⟨value, some span⟩, none⟩
  | none =>
      let suggestions := (lookAlike? char).toList.map fun operator =>
        { message := "use the ASCII operator", replacement := operator.symbol.toString }
      ⟨none, some (faultDiagnostic (.unknownOperator char.toString) span "not an operator"
        [operatorNote] suggestions)⟩

/-- Whether a word ends in an exponent mark and a sign follows it. -/
def isCutExponent (word rest : List Char) : Bool :=
  (word.getLast? == some 'e' || word.getLast? == some 'E')
    && (rest.head? == some '+' || rest.head? == some '-')

def digitStringWarning (word : String) (span : Span) : Diagnostic where
  severity := .warning
  code := "W001"
  message := "digit string " ++ Text.quote word ++ " lexed as a variable"
  labels := [⟨span, ""⟩]
  notes := ["legacy integer mode is enabled"]
  suggestions := [⟨"write a decimal constant", word ++ ".0"⟩]

/-- What a word yields, given the characters after it. -/
def wordFinding (options : LexerOptions) (chars rest : List Char) (span : Span) : Finding :=
  let word := String.ofList chars
  match TokenValue.classify options.legacyIntegers word with
  | .error cause =>
      let notes := if isCutExponent chars rest then [exponentNote] else []
      ⟨none, some (faultDiagnostic cause span "not a number" notes [])⟩
  | .ok value =>
      let isDigitString := options.legacyIntegers && value.kind == .variable && isDigitRun chars
      ⟨some ⟨value, some span⟩,
        if isDigitString then some (digitStringWarning word span) else none⟩

/-! ## Scanning -/

/-- Scans a text from a place on: what its pieces yield in order, and the place
after the text. -/
def scan (options : LexerOptions) (start : Location) : List Char → List Finding × Location
  | [] => ([], start)
  | char :: rest =>
      if Text.isBlank char then scan options (start.advance char) rest
      else if isWordChar char then
        let word := char :: rest.takeWhile isWordChar
        let remaining := rest.dropWhile isWordChar
        let finish := start.advanceBy word
        let finding := wordFinding options word remaining (start.spanTo finish options.file)
        let after := scan options finish remaining
        (finding :: after.1, after.2)
      else
        let finish := start.advance char
        let finding := symbolFinding char (start.spanTo finish options.file)
        let after := scan options finish rest
        (finding :: after.1, after.2)
  termination_by text => text.length
  decreasing_by
    · simp
    · simp only [List.length_cons]
      exact Nat.lt_succ_of_le (List.dropWhile_sublist isWordChar).length_le
    · simp

end Lexer

/-- A lexer at work: what is left of its source, where it stands, and what it
has found. -/
structure Lexer where
  options : LexerOptions
  remaining : List Char
  location : Location
  findings : List Finding

namespace Lexer

def ofSource (options : LexerOptions) (source : String) (line : Int) : Lexer :=
  ⟨options, source.toList, Location.start line, []⟩

def tokens (lexer : Lexer) : List Token := lexer.findings.filterMap (·.token)

def diagnostics (lexer : Lexer) : List Diagnostic := lexer.findings.filterMap (·.diagnostic)

/-- Reads the source to its end. At the end nothing more is found. -/
def run (lexer : Lexer) : Lexer :=
  let scanned := scan lexer.options lexer.location lexer.remaining
  { lexer with
    remaining := []
    location := scanned.2
    findings := lexer.findings ++ scanned.1 }

/-- A cursor over the tokens, or all diagnostics if one of them is an error. -/
def result (lexer : Lexer) : Except (List Diagnostic) (Cursor Token) :=
  if lexer.diagnostics.any Diagnostic.isError then .error lexer.diagnostics
  else .ok (Cursor.ofList lexer.tokens)

def tokenize (options : LexerOptions) (source : String) :
    Except (List Diagnostic) (Cursor Token) :=
  (ofSource options source 1).run.result

end Lexer

end ExprLexer
