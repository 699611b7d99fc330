/-!
# Enclosures of binary logarithms

The binary logarithm of `significand * 2 ^ exponent` lies between two fixed-point
numbers. Its fraction is found bit by bit: squaring a number in `[1, 2)` doubles
its logarithm, and the square has passed two exactly when the next bit is one.
The lower run rounds every number down and the upper run rounds every number up.
-/

set_option autoImplicit false

namespace ExprLexer

attribute [local instance (1100)] instPowNat

/-- Two bounds of one number, in fixed point. -/
structure Enclosure where
  lower : Int
  upper : Int

namespace Enclosure

/-- The bounds of a multiple; a negative factor exchanges them. -/
def scale (factor : Int) (bounds : Enclosure) : Enclosure :=
  if factor < 0 then ⟨factor * bounds.upper, factor * bounds.lower⟩
  else ⟨factor * bounds.lower, factor * bounds.upper⟩

end Enclosure

namespace Logarithm

def shiftDown (value bits : Nat) : Nat := value >>> bits

/-- `value / 2 ^ bits` rounded up. -/
def shiftUp (value bits : Nat) : Nat := (value + (2 ^ bits - 1)) >>> bits

/-- The first bits of the logarithm of `mantissa / 2 ^ width`, a number in
`[1, 2]`, where `shift` says which way numbers are rounded. -/
def fractionBits (shift : Nat → Nat → Nat) (width : Nat) : Nat → Nat → Nat → Nat
  | 0, _, bits => bits
  | steps + 1, mantissa, bits =>
      let square := shift (mantissa * mantissa) width
      if square.log2 ≤ width then fractionBits shift width steps square (2 * bits)
      else fractionBits shift width steps (shift square 1) (2 * bits + 1)

/-- Bounds of the binary logarithm of a positive number, in units of
`2 ^ -precision`. Eight guard bits keep the bounds about one unit apart. -/
def bounds (precision significand : Nat) (exponent : Int) : Enclosure :=
  let width := precision + 8
  let leading := significand.log2
  let whole := (leading + exponent) * 2 ^ precision
  let scaled := significand * 2 ^ width
  let below := fractionBits shiftDown width precision (shiftDown scaled leading) 0
  let above := fractionBits shiftUp width precision (shiftUp scaled leading) 0
  ⟨whole + below, whole + (above + 1)⟩

end Logarithm

end ExprLexer
