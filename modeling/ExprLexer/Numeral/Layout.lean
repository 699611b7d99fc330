import ExprLexer.Numeral.Shortest

/-!
# Laying out numbers

A layout decides how the shortest numeral of a value is written: which decimal
exponents stay positional, whether a whole number keeps a fraction, and the
word for NaN.
-/

set_option autoImplicit false

namespace ExprLexer

/-- The decisions of a written form for binary64 values. -/
structure Layout where
  /-- Whether a value whose leading digit has this decimal exponent is written positionally. -/
  isPositional : Int → Bool
  wholeSuffix : String
  nanText : String

namespace Layout

def digits (value : Nat) : List Char := Nat.toDigits 10 value

/-- Puts the point so that the given number of places follows it. -/
def withPoint (places : Nat) (digits : List Char) : List Char :=
  let padded := List.replicate (places + 1 - digits.length) '0' ++ digits
  padded.take (padded.length - places) ++ '.' :: padded.drop (padded.length - places)

/-- Writes `significand * 10 ^ exponent` without an exponent. -/
def positional (wholeSuffix : String) (significand : Nat) : Int → List Char
  | .ofNat zeros =>
      digits significand ++ (if significand = 0 then [] else List.replicate zeros '0')
        ++ wholeSuffix.toList
  | .negSucc lastPlace => withPoint (lastPlace + 1) (digits significand)

/-- Writes a decimal exponent with its sign and at least two digits. -/
def exponentDigits (exponent : Int) : List Char :=
  let magnitude := digits exponent.natAbs
  (if exponent < 0 then '-' else '+')
    :: (List.replicate (2 - magnitude.length) '0' ++ magnitude)

/-- Writes digits with one digit before the point and an exponent. -/
def scientific (digits : List Char) (leading : Int) : List Char :=
  let mantissa := match digits with
    | first :: second :: rest => first :: '.' :: second :: rest
    | short => short
  mantissa ++ 'e' :: exponentDigits leading

def magnitude (layout : Layout) (units : Nat) : List Char :=
  let (significand, exponent) := Binary64.shortestDigits units
  let leading := (digits significand).length + exponent - 1
  if layout.isPositional leading then positional layout.wholeSuffix significand exponent
  else scientific (digits significand) leading

def write (layout : Layout) : Binary64 → String
  | .nan => layout.nanText
  | .infinity negative => if negative then "-inf" else "inf"
  | .finite negative units _ =>
      String.ofList ((if negative then ['-'] else []) ++ layout.magnitude units)

end Layout

end ExprLexer
