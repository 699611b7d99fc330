import ExprLexer.Number.Decimal
import ExprLexer.Number.Integer

/-!
# Arithmetic of operands

Operators join two numbers of one kind. Any other pair of operands is a fault
that names the kinds; a text has faults of its own for the three operators that
mean something else beside a text.
-/

set_option autoImplicit false

namespace ExprLexer

namespace Number

def display : Number → String
  | .decimal value => value.display
  | .integer value => value.display

def neg : Number → Except NumberFault Number
  | .decimal value => .ok (.decimal value.neg)
  | .integer value => value.neg.map .integer

end Number

namespace Operand

def mismatch (operator : Operator) (left right : Operand) : NumberFault :=
  match operator, left, right with
  | .add, .datum (.text _), _ => .extendedText right.kind
  | .mul, .datum (.text _), _ => .repeatedText right.kind
  | .mul, _, .datum (.text _) => .repeatedText left.kind
  | .mod, .datum (.text _), _ => .filledText
  | _, _, _ => .unsupported operator left.kind right.kind

def apply (operator : Operator) : Operand → Operand → Except NumberFault Number
  | .number (.decimal left), .number (.decimal right) =>
      .ok (.decimal (Decimal.apply operator left right))
  | .number (.integer left), .number (.integer right) =>
      (Integer.apply operator left right).map .integer
  | left, right => .error (mismatch operator left right)

def neg : Operand → Except NumberFault Number
  | .number value => value.neg
  | .datum value => .error (.unsupportedNegation (Operand.datum value).kind)

end Operand

end ExprLexer
