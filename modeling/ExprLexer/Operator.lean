import ExprLexer.LexicalFault

/-!
# Operators

The six binary operators, each written as a single character.
-/

set_option autoImplicit false

namespace ExprLexer

inductive Operator where
  | add
  | sub
  | mul
  | div
  | mod
  | pow
  deriving DecidableEq

namespace Operator

/-- The operators in their usual order. -/
def all : List Operator := [.add, .sub, .mul, .div, .mod, .pow]

def symbol : Operator → Char
  | .add => '+'
  | .sub => '-'
  | .mul => '*'
  | .div => '/'
  | .mod => '%'
  | .pow => '^'

def ofChar? (char : Char) : Option Operator :=
  all.find? fun operator => operator.symbol == char

def classify (text : String) : Except LexicalFault Operator :=
  match text.toList with
  | [char] =>
      match ofChar? char with
      | some operator => .ok operator
      | none => .error (.unknownOperator text)
  | _ => .error (.unknownOperator text)

theorem ofChar?_symbol (operator : Operator) : ofChar? operator.symbol = some operator := by
  cases operator <;> decide

end Operator

end ExprLexer
