import ExprLexer.Numeral.Basic

/-!
# Shortest numerals

The shortest numeral of a finite value has the fewest significant digits among
those that read back as the value, and of these is the nearest to it; of two
equally near the last digit is even. The exact decimal expansion of every value
is a whole number of `10 ^ -1074`, so each decimal grid is a division away.
-/

set_option autoImplicit false

namespace ExprLexer.Binary64

attribute [local instance (1100)] instPowNat

/-- The exact expansion of a magnitude, a whole number of `10 ^ -1074`. -/
def expansion (units : Nat) : Nat := units * 5 ^ oneExponent

/-- Whether an unsigned numeral reads back as the given magnitude. -/
def readsBack (units : Nat) (significand : Nat) (exponent : Int) : Bool :=
  match Numeral.toBinary64 ⟨false, significand, exponent⟩ with
  | .finite _ read _ => read == units
  | _ => false

/-- The numeral of the given number of digits that reads back as a positive
magnitude and is nearest to it, if there is one, where `width` is the number of
digits of `exact`, the expansion. Only the two neighbours on the grid of that many
digits can be such a numeral. -/
def numeralOfDigits? (units exact width digits : Nat) : Option (Nat × Int) :=
  let dropped := width - digits
  let step := 10 ^ dropped
  let exponent : Int := dropped - oneExponent
  let lower := exact / step
  let pick (significand : Nat) : Nat × Int :=
    if significand = 10 ^ digits then (1, exponent + digits) else (significand, exponent)
  match readsBack units lower exponent, readsBack units (lower + 1) exponent with
  | true, true => some (pick (roundHalfEven exact step))
  | true, false => some (pick lower)
  | false, true => some (pick (lower + 1))
  | false, false => none

/-- The shortest significand and exponent of a magnitude. The search ends at the
expansion itself at the latest. -/
def shortestDigits (units : Nat) : Nat × Int :=
  if units = 0 then (0, 0)
  else
    let exact := expansion units
    let width := (Nat.toDigits 10 exact).length
    ((List.range width).findSome? fun index =>
      numeralOfDigits? units exact width (index + 1)).getD (exact, -(oneExponent : Int))

end ExprLexer.Binary64
