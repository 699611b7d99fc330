import ExprLexer.Text.Quoted

/-!
# Lexical faults

The two ways in which a piece of text fails to be a token, with the code and
the wording under which each is reported.
-/

set_option autoImplicit false

namespace ExprLexer

inductive LexicalFault where
  | unknownOperator (symbol : String)
  /-- The text has a decimal point but is no decimal literal. -/
  | malformedNumeral (text : String)
  deriving DecidableEq

namespace LexicalFault

def code : LexicalFault → String
  | .unknownOperator _ => "E101"
  | .malformedNumeral _ => "E102"

def message : LexicalFault → String
  | .unknownOperator symbol => "invalid operator symbol " ++ Text.quote symbol
  | .malformedNumeral text => "malformed numeric literal " ++ Text.quote text

end LexicalFault

end ExprLexer
