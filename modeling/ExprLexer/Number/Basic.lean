import ExprLexer.Binary64.Rounding
import ExprLexer.Numeral.Reader
import ExprLexer.Operator

/-!
# Numbers

A decimal is a binary64 value and an integer is a whole number of 64 bits with
its range checked. Other data can be offered where a number is expected, and is
then refused by its kind.
-/

set_option autoImplicit false

namespace ExprLexer

attribute [local instance (1100)] instPowNat

/-- A number compared and displayed by its binary64 value. -/
structure Decimal where
  value : Binary64
  deriving DecidableEq

namespace Integer

def least : Int := -2 ^ (63 : Nat)

def greatest : Int := 2 ^ (63 : Nat) - 1

def InRange (value : Int) : Prop := least ≤ value ∧ value ≤ greatest

instance (value : Int) : Decidable (InRange value) := inferInstanceAs (Decidable (_ ∧ _))

end Integer

structure Integer where
  value : Int
  inRange : Integer.InRange value
  deriving DecidableEq

/-- A value of one of the two kinds. -/
inductive Number where
  | decimal (value : Decimal)
  | integer (value : Integer)
  deriving DecidableEq

inductive Datum where
  | nothing
  | truth (value : Bool)
  | whole (value : Int)
  | float (value : Binary64)
  | text (value : String)
  deriving DecidableEq

namespace Datum

/-- The exact value of a datum that is a finite real number, in units. The truth
values count as one and zero. -/
def units? : Datum → Option Int
  | .truth value => some (if value then Binary64.unitsPerOne else 0)
  | .whole value => some (value * Binary64.unitsPerOne)
  | .float (.finite negative units representable) =>
      some (Binary64.signedUnits (.finite negative units representable))
  | _ => none

/-- Whether two data are equal; real numbers are so by their values. -/
def equals (left right : Datum) : Bool :=
  match left, right, left.units?, right.units? with
  | _, _, some leftUnits, some rightUnits => leftUnits == rightUnits
  | .float leftValue, .float rightValue, _, _ => leftValue.equals rightValue
  | _, _, _, _ => decide (left = right)

end Datum

/-- What may stand beside an operator or be offered to a constructor. -/
inductive Operand where
  | number (value : Number)
  | datum (value : Datum)
  deriving DecidableEq

inductive OperandKind where
  | decimal
  | integer
  | nothing
  | truth
  | whole
  | float
  | text
  deriving DecidableEq

def OperandKind.word : OperandKind → String
  | .decimal => "Decimal"
  | .integer => "Integer"
  | .nothing => "NoneType"
  | .truth => "bool"
  | .whole => "int"
  | .float => "float"
  | .text => "str"

namespace Operand

def kind : Operand → OperandKind
  | .number (.decimal _) => .decimal
  | .number (.integer _) => .integer
  | .datum .nothing => .nothing
  | .datum (.truth _) => .truth
  | .datum (.whole _) => .whole
  | .datum (.float _) => .float
  | .datum (.text _) => .text

/-- Whether two operands are equal. A number equals only numbers of its kind. -/
def equals : Operand → Operand → Bool
  | .number (.decimal left), .number (.decimal right) => left.value.equals right.value
  | .datum left, .datum right => left.equals right
  | left, right => decide (left = right)

end Operand

inductive NumberFault where
  | notDecimalLiteral (text : String)
  | notIntegerLiteral (text : String)
  | notDecimal (kind : OperandKind)
  | notInteger (kind : OperandKind)
  /-- A constant was asked of an operand that is no real number. -/
  | notReal (kind : OperandKind)
  /-- A constant was asked of a text that denotes no real number. -/
  | notRealText (text : String)
  /-- The whole number is past the largest finite binary64 value. -/
  | pastFloatRange
  | tooManyDigits (count : Nat)
  | outOfRange (value : Int)
  | powerOutOfRange (base exponent : Int)
  | divisionByZero
  | negativeExponent
  | unsupported (operator : Operator) (left right : OperandKind)
  /-- A text was extended by something that is no text. -/
  | extendedText (kind : OperandKind)
  /-- A text was repeated by something that is no whole number. -/
  | repeatedText (kind : OperandKind)
  /-- A text without a place for it was filled in. -/
  | filledText
  | unsupportedNegation (kind : OperandKind)
  deriving DecidableEq

namespace NumberFault

/-- How an operator is named in the fault of unsupported kinds. -/
def operatorWord : Operator → String
  | .pow => "** or pow()"
  | operator => operator.symbol.toString

def limitAdvice : String := "sys.set_int_max_str_digits()"

def message : NumberFault → String
  | .notDecimalLiteral text => "not a decimal literal: " ++ Text.quote text
  | .notIntegerLiteral text => "not an integer literal: " ++ Text.quote text
  | .notDecimal kind => "Decimal expects a float, got " ++ kind.word
  | .notInteger kind => "Integer expects an int, got " ++ kind.word
  | .notReal kind => s!"float() argument must be a string or a real number, not '{kind.word}'"
  | .notRealText text => "could not convert string to float: " ++ Text.quote text
  | .pastFloatRange => "int too large to convert to float"
  | .tooManyDigits count =>
      s!"Exceeds the limit ({digitLimit} digits) for integer string conversion: "
        ++ s!"value has {count} digits; use {limitAdvice} to increase the limit"
  | .outOfRange value => s!"integer {value} does not fit in 64 bits"
  | .powerOutOfRange base exponent => s!"integer {base}^{exponent} does not fit in 64 bits"
  | .divisionByZero => "integer division by zero"
  | .negativeExponent => "negative exponent for Integer"
  | .unsupported operator left right =>
      s!"unsupported operand type(s) for {operatorWord operator}: "
        ++ s!"'{left.word}' and '{right.word}'"
  | .extendedText kind => s!"can only concatenate str (not \"{kind.word}\") to str"
  | .repeatedText kind => s!"can't multiply sequence by non-int of type '{kind.word}'"
  | .filledText => "not all arguments converted during string formatting"
  | .unsupportedNegation kind => s!"bad operand type for unary -: '{kind.word}'"

end NumberFault

end ExprLexer
