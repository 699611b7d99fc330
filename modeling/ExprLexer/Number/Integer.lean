import ExprLexer.Number.Basic
import ExprLexer.Numeral.Layout

/-!
# Integers

Reading, display and checked arithmetic of 64-bit integers. An operation gives
the exact result or a fault: no result is ever reduced to the range.
-/

set_option autoImplicit false

namespace ExprLexer.Integer

attribute [local instance (1100)] instPowNat

def ofInt (value : Int) : Except NumberFault Integer :=
  if inRange : InRange value then .ok ⟨value, inRange⟩ else .error (.outOfRange value)

/-- The display of an integer: its digits in base ten after the sign. -/
def display (integer : Integer) : String :=
  String.ofList ((if integer.value < 0 then ['-'] else [])
    ++ Layout.digits integer.value.natAbs)

/-- Reads the whole number of an integer literal. The digits are counted, leading
zeros too, before their value is looked at. -/
def readWhole (text : String) : Except NumberFault Int :=
  match splitIntegerLiteral? text.toList with
  | none => .error (.notIntegerLiteral text)
  | some (negative, digits) =>
      if digitLimit < digits.length then .error (.tooManyDigits digits.length)
      else .ok (signed negative (digitsValue digits))

def parse (text : String) : Except NumberFault Integer := (readWhole text).bind ofInt

/-- The integer of a whole number in range; nothing else is taken. -/
def ofOperand : Operand → Except NumberFault Integer
  | .datum (.whole value) => ofInt value
  | other => .error (.notInteger other.kind)

/-- The negation; the least integer has none. -/
def neg (integer : Integer) : Except NumberFault Integer := ofInt (-integer.value)

/-- The quotient, truncated toward zero. -/
def div (left right : Integer) : Except NumberFault Integer :=
  if right.value = 0 then .error .divisionByZero
  else ofInt (left.value.tdiv right.value)

/-- The remainder of truncated division. -/
def mod (left right : Integer) : Except NumberFault Integer :=
  if right.value = 0 then .error .divisionByZero
  else ofInt (left.value - right.value * left.value.tdiv right.value)

/-- The power, for an exponent below 64 or a base among `-1`, `0` and `1`; the
powers of these repeat with period two from the first power on. -/
def smallPower (base : Int) (exponent : Nat) : Int :=
  base ^ (if exponent < 64 then exponent else 2 + exponent % 2)

/-- The power. An exponent of 64 and above is past the range for every base but
`-1`, `0` and `1`, and the result is then not computed. -/
def pow (base exponent : Integer) : Except NumberFault Integer :=
  if exponent.value < 0 then .error .negativeExponent
  else if 1 < base.value.natAbs ∧ 64 ≤ exponent.value then
    .error (.powerOutOfRange base.value exponent.value)
  else ofInt (smallPower base.value exponent.value.toNat)

def apply : Operator → Integer → Integer → Except NumberFault Integer
  | .add, left, right => ofInt (left.value + right.value)
  | .sub, left, right => ofInt (left.value - right.value)
  | .mul, left, right => ofInt (left.value * right.value)
  | .div, left, right => left.div right
  | .mod, left, right => left.mod right
  | .pow, left, right => left.pow right

end ExprLexer.Integer
