import ExprLexer.Main
import ExprLexer.Number.Calculation
import ExprLexer.Proofs.Lexing.Pieces
import ExprLexer.Proofs.Lexing.Findings
import ExprLexer.Proofs.Lexing.Classification
import ExprLexer.Proofs.Lexing.Spans
import ExprLexer.Proofs.Text.LineBreaks
import ExprLexer.Proofs.Lexing.ShownLines
import ExprLexer.Proofs.Binary64.Nearest
import ExprLexer.Proofs.Binary64.Words
import ExprLexer.Proofs.Numeral.Value
import ExprLexer.Proofs.Numeral.Shortest
import ExprLexer.Proofs.Number.DecimalText
import ExprLexer.Proofs.Lexing.Concatenation
import ExprLexer.Proofs.Lexing.Displays
import ExprLexer.Proofs.Lexing.LineByLine
import ExprLexer.Proofs.Number.ExactRuns
import ExprLexer.Proofs.CommandLine.Checking
import ExprLexer.Proofs.Cursor.Zipper
import ExprLexer.Proofs.Lexing.Modes
import ExprLexer.Proofs.Lexing.Substitution
import ExprLexer.Proofs.Lexing.Recovery
import ExprLexer.Proofs.Lexing.Fixes
import ExprLexer.Proofs.Renderer.KnownSources
import ExprLexer.Proofs.CommandLine.LineReports
import ExprLexer.Proofs.CommandLine.Listing
import ExprLexer.Proofs.CommandLine.OptionReading
import ExprLexer.Proofs.CommandLine.Precedence
import ExprLexer.Proofs.Text.ControlSequences
import ExprLexer.Proofs.Renderer.Rows
import ExprLexer.Proofs.Renderer.Palettes
import ExprLexer.Proofs.Renderer.Carets
import ExprLexer.Proofs.CommandLine.NoColor
import ExprLexer.Proofs.Binary64.NearestEven
import ExprLexer.Proofs.Numeral.Literal
import ExprLexer.Proofs.Numeral.Rounded
import ExprLexer.Proofs.Number.DecimalGrammar
import ExprLexer.Proofs.Numeral.FewestDigits
import ExprLexer.Proofs.Numeral.CanonicalForm
import ExprLexer.Proofs.Numeral.WrittenFloats
import ExprLexer.Proofs.Number.CanonicalText
import ExprLexer.Proofs.Number.TruncatedDivision
import ExprLexer.Proofs.Binary64.ExactValue
import ExprLexer.Proofs.Binary64.Faults
import ExprLexer.Proofs.Number.ExactRemainder
import ExprLexer.Proofs.Binary64.PowerRules
import ExprLexer.Proofs.Number.RecoveredPower
import ExprLexer.Proofs.Number.DecimalRuns
import ExprLexer.Proofs.Token.Literals
import ExprLexer.Proofs.Numeral.WholeNumbers
import ExprLexer.Proofs.Token.Redisplay
import ExprLexer.Proofs.Number.IntegerText
import ExprLexer.Proofs.Lexing.LookAlikes
import ExprLexer.Proofs.Text.Quoting
import ExprLexer.Proofs.Renderer.Frame
import ExprLexer.Proofs.Toml.Fuel
import ExprLexer.Proofs.Settings.Contents
import ExprLexer.Proofs.CommandLine.SettingsFaults
import ExprLexer.Proofs.FileTree.Walks
import ExprLexer.Proofs.Settings.Search
