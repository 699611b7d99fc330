import ExprLexer.Binary64.Power
import ExprLexer.Number.Basic
import ExprLexer.Numeral.Layout

/-!
# Decimals

Reading, display and arithmetic of decimals. Every operation of two decimals
gives a decimal: what has no finite result becomes an infinity or NaN.
-/

set_option autoImplicit false

namespace ExprLexer.Decimal

/-- Decimals are displayed by their shortest numeral, without an exponent and
without a fraction that is zero. -/
def layout : Layout where
  isPositional _ := true
  wholeSuffix := ""
  nanText := "NaN"

def format (value : Binary64) : String := layout.write value

def display (decimal : Decimal) : String := format decimal.value

/-- Reads a decimal literal, or one of the displays that are no literals. -/
def parse (text : String) : Except NumberFault Decimal :=
  if text = "inf" then .ok ⟨.infinity false⟩
  else if text = "-inf" then .ok ⟨.infinity true⟩
  else if text = "NaN" then .ok ⟨.nan⟩
  else
    match Numeral.read? text.toList with
    | some numeral => .ok ⟨numeral.toBinary64⟩
    | none => .error (.notDecimalLiteral text)

/-! ## Decimals of other data -/

/-- The value nearest to a whole number, which must not be past the largest one. -/
def ofWhole (value : Int) : Except NumberFault Decimal :=
  let nearest := Binary64.ofInt value
  if nearest.isInfinite then .error .pastFloatRange else .ok ⟨nearest⟩

/-- The decimal of a whole number or a float; nothing else is taken. -/
def ofOperand : Operand → Except NumberFault Decimal
  | .datum (.whole value) => ofWhole value
  | .datum (.float value) => .ok ⟨value⟩
  | other => .error (.notDecimal other.kind)

/-! ## Arithmetic -/

def neg (decimal : Decimal) : Decimal := ⟨decimal.value.neg⟩

/-- The quotient. Only a zero divisor is treated here: it gives NaN for a zero or
NaN, and otherwise the infinity with the sign of the quotient. -/
def div (left right : Decimal) : Decimal :=
  if !right.value.isZero then ⟨left.value.div right.value⟩
  else if left.value.isZero || left.value.isNan then ⟨.nan⟩
  else ⟨.infinity (left.value.isNegative != right.value.isNegative)⟩

/-- The remainder with the sign of the dividend. -/
def mod (left right : Decimal) : Decimal :=
  if right.value.isZero || left.value.isInfinite then ⟨.nan⟩
  else ⟨left.value.rem right.value⟩

/-- The power. A power past the largest finite value is an infinity, negative for
a negative base and an odd exponent; a negative power of zero is an infinity with
the sign of the zero for an odd exponent and a positive one otherwise; any other
power that does not exist is NaN. -/
def pow (base exponent : Decimal) : Decimal :=
  match base.value.pow? exponent.value with
  | .ok value => ⟨value⟩
  | .error .range => ⟨.infinity (base.value.isNegative && exponent.value.isOddWhole)⟩
  | .error .domain =>
      if !base.value.isZero then ⟨.nan⟩
      else ⟨.infinity (exponent.value.isOddWhole && base.value.isNegative)⟩

def apply : Operator → Decimal → Decimal → Decimal
  | .add, left, right => ⟨left.value.add right.value⟩
  | .sub, left, right => ⟨left.value.sub right.value⟩
  | .mul, left, right => ⟨left.value.mul right.value⟩
  | .div, left, right => left.div right
  | .mod, left, right => left.mod right
  | .pow, left, right => left.pow right

end ExprLexer.Decimal
