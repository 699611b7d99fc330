import ExprLexer.Number.Decimal
import ExprLexer.Numeral.RealText
import ExprLexer.Source

/-!
# Tokens

A token is one classified piece of text: a parenthesis, an operator, a constant
or a variable. Classification looks at the text alone; where the text stood is
kept beside the value and does not count for equality.
-/

set_option autoImplicit false

namespace ExprLexer

inductive TokenKind where
  | leftParen
  | rightParen
  | constant
  | variable
  | operator
  deriving DecidableEq

def TokenKind.word : TokenKind → String
  | .leftParen => "LPAREN"
  | .rightParen => "RPAREN"
  | .constant => "CONSTANT"
  | .variable => "VARIABLE"
  | .operator => "OPERATOR"

inductive TokenValue where
  | leftParen
  | rightParen
  | constant (value : Binary64)
  | variable (name : String)
  | operator (op : Operator)
  deriving DecidableEq

namespace TokenValue

def kind : TokenValue → TokenKind
  | .leftParen => .leftParen
  | .rightParen => .rightParen
  | .constant _ => .constant
  | .variable _ => .variable
  | .operator _ => .operator

/-- The display of a token. Constants are displayed as decimals are. -/
def display : TokenValue → String
  | .leftParen => "("
  | .rightParen => ")"
  | .constant value => Decimal.format value
  | .variable name => name
  | .operator op => op.symbol.toString

def isParen (token : TokenValue) : Bool :=
  token.kind == .leftParen || token.kind == .rightParen

def isOperand (token : TokenValue) : Bool :=
  token.kind == .constant || token.kind == .variable

def isOperator (token : TokenValue) : Bool := token.kind == .operator

/-- Equality of tokens; constants are compared as numbers. -/
def equals : TokenValue → TokenValue → Bool
  | .constant left, .constant right => left.equals right
  | left, right => decide (left = right)

/-- The parenthesis or operator that a single character is. -/
def ofSymbol? : List Char → Option TokenValue
  | ['('] => some .leftParen
  | [')'] => some .rightParen
  | [char] => (Operator.ofChar? char).map .operator
  | _ => none

def ofNumeral (numeral : Numeral) : TokenValue := .constant numeral.toBinary64

/-- Classifies a text; the first rule that applies decides. A parenthesis or an
operator symbol is that. A text with a point must be a decimal literal. A run of
ASCII digits is a constant, unless such runs are taken for variables. Any other
text is a variable. -/
def classify (legacyIntegers : Bool) (text : String) : Except LexicalFault TokenValue :=
  let chars := text.toList
  match ofSymbol? chars with
  | some symbol => .ok symbol
  | none =>
      if chars.contains '.' then
        match Numeral.read? chars with
        | some numeral => .ok (ofNumeral numeral)
        | none => .error (.malformedNumeral text)
      else if !legacyIntegers && isDigitRun chars then
        .ok (ofNumeral ⟨false, digitsValue chars, 0⟩)
      else .ok (.variable text)

/-- The constant of an operand that is a real number, or a text that denotes one. -/
def ofOperand : Operand → Except NumberFault TokenValue
  | .number (.decimal decimal) => .ok (.constant decimal.value)
  | .datum (.float value) => .ok (.constant value)
  | .datum (.whole value) => (Decimal.ofWhole value).map fun decimal => .constant decimal.value
  | .datum (.truth value) => .ok (.constant (Binary64.ofInt (if value then 1 else 0)))
  | .datum (.text text) =>
      match RealText.read? text with
      | some value => .ok (.constant value)
      | none => .error (.notRealText text)
  | other => .error (.notReal other.kind)

end TokenValue

/-- A token and where it stood, if it came from a source. -/
structure Token where
  value : TokenValue
  span : Option Span
  deriving DecidableEq

end ExprLexer
