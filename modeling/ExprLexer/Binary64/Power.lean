import ExprLexer.Binary64.Arithmetic
import ExprLexer.Binary64.Logarithm

/-!
# Binary64 powers

Powers of positive numbers are correctly rounded: their leading bits are found
by bisection, comparing the power with each candidate through enclosures of
logarithms and, where these meet, by exact arithmetic. Around this stand the
rules for zeros, infinities, NaN and negative bases.
-/

set_option autoImplicit false

namespace ExprLexer.Binary64

attribute [local instance (1100)] instPowNat

def one : Binary64 := nearest false unitsPerOne 1

/-! ## Powers of positive numbers -/

def twos (value : Nat) : Nat := (Nat.gcd value (2 ^ value.log2)).log2

/-- A positive number as an odd part times a power of two. -/
def splitTwos (value : Nat) (exponent : Int) : Nat × Int :=
  (value / 2 ^ twos value, exponent + twos value)

/-- Whether `base * 2 ^ baseExponent`, raised to the power
`numerator / 2 ^ rootings` in lowest terms, is `result * 2 ^ resultExponent`, for
odd `base` and `result`. The odd parts and the powers of two must agree. Unless
both odd parts are one, the exponent is positive and both sides have a common
odd root, so small bounds on the exponent lose nothing for numbers of at most
64 bits. -/
def isPowerOf (base : Nat) (baseExponent numerator : Int) (rootings : Nat)
    (result : Nat) (resultExponent : Int) : Bool :=
  decide (baseExponent * numerator = resultExponent * 2 ^ rootings) &&
    (base == 1 && result == 1 ||
      decide (0 < numerator ∧ numerator ≤ 64 ∧ rootings ≤ 6) &&
        base ^ numerator.toNat == result ^ (2 ^ rootings : Nat))

/-- Whether `base` units to the power of `exponent` units is exactly
`candidate * 2 ^ -scale`. -/
def powerIs (base : Nat) (exponent : Int) (candidate : Nat) (scale : Int) : Bool :=
  let (oddBase, baseExponent) := splitTwos base (-oneExponent)
  let (oddResult, resultExponent) := splitTwos candidate (-scale)
  let common := min (twos exponent.natAbs) oneExponent
  isPowerOf oddBase baseExponent (exponent / 2 ^ common) (oneExponent - common)
    oddResult resultExponent

/-- Finds the largest number of the given number of bits that passes, for a test
that an initial stretch of the numbers passes. -/
def largestPassing (passes : Nat → Bool) : Nat → Nat → Nat
  | 0, found => found
  | bits + 1, found =>
      if passes (found + 2 ^ bits) then largestPassing passes bits (found + 2 ^ bits)
      else largestPassing passes bits found

/-- The value nearest to `base` units to the power of `exponent` units, as far as
logarithms of the given precision tell, and whether they settle it. Results past
the exponent range are recognised before any bit is looked for. The leading bits
are the largest candidate that is not certainly above the power; they are settled
when they are certainly below it or exactly it. -/
def powerAt (negative : Bool) (base : Nat) (exponent : Int) (precision : Nat) :
    Binary64 × Bool :=
  let logarithm := (Logarithm.bounds precision base (-oneExponent)).scale exponent
  let one : Int := 2 ^ (precision + oneExponent)
  if 1025 * one ≤ logarithm.lower then (.infinity negative, true)
  else if logarithm.upper ≤ -1080 * one then (zero negative, true)
  else
    let scale := 60 - logarithm.lower / one
    let candidateLogarithm (candidate : Nat) : Enclosure :=
      (Logarithm.bounds precision candidate (-scale)).scale unitsPerOne
    let passes (candidate : Nat) : Bool :=
      decide ((candidateLogarithm candidate).lower ≤ logarithm.upper)
    let leadingBits := largestPassing passes 63 0
    let exact := powerIs base exponent leadingBits scale
    let rest := if exact then 0 else 1
    (nearest negative
      ((2 * leadingBits + rest) * unitsPerOne * 2 ^ (-(scale + 1)).toNat)
      (2 ^ (scale + 1).toNat),
      exact || decide ((candidateLogarithm leadingBits).upper < logarithm.lower))

/-- The value at the first precision that settles it, or else at the last one. -/
def firstSettled (attempt : Nat → Binary64 × Bool) : Nat → List Nat → Binary64
  | precision, [] => (attempt precision).1
  | precision, next :: further =>
      let (value, settled) := attempt precision
      if settled then value else firstSettled attempt next further

/-- The value nearest to `base` units to the power of `exponent` units, for a
positive base. The precision is doubled until it settles the value; a power so near
to a tie that none of these does is rounded to one of its two neighbours. -/
def positivePower (negative : Bool) (base : Nat) (exponent : Int) : Binary64 :=
  firstSettled (powerAt negative base exponent) 128 [256, 512, 1024, 2048, 4096]

/-! ## Powers of all values -/

def isWhole : Binary64 → Bool
  | .finite _ units _ => units % unitsPerOne == 0
  | _ => false

def isOddWhole (value : Binary64) : Bool :=
  match value with
  | .finite _ units _ => value.isWhole && units / unitsPerOne % 2 == 1
  | _ => false

/-- The power to an infinite exponent of a magnitude that compares with one as given. -/
def powerToInfinity (comparison : Ordering) (negativeExponent : Bool) : Binary64 :=
  match comparison with
  | .eq => one
  | .lt => if negativeExponent then .infinity false else zero false
  | .gt => if negativeExponent then zero false else .infinity false

/-- The power with IEEE results throughout: anything to the power zero and one to
any power is one, a negative result needs an odd whole exponent, and a finite
negative base has no power with a fractional exponent. -/
def pow (base exponent : Binary64) : Binary64 :=
  if exponent.isZero || base.equals one then one
  else
    match base, exponent with
    | .nan, _ => .nan
    | _, .nan => .nan
    | .infinity _, .infinity negative => powerToInfinity .gt negative
    | .finite _ units _, .infinity negative =>
        powerToInfinity (compare units unitsPerOne) negative
    | .infinity negative, .finite negativeExponent _ _ =>
        let sign := negative && exponent.isOddWhole
        if negativeExponent then zero sign else .infinity sign
    | .finite negative units _, .finite negativeExponent _ _ =>
        let sign := negative && exponent.isOddWhole
        if units = 0 then if negativeExponent then .infinity sign else zero sign
        else if negative && !exponent.isWhole then .nan
        else if units = unitsPerOne then if sign then one.neg else one
        else positivePower sign units exponent.signedUnits

inductive PowerFault where
  /-- The result is past the largest finite value. -/
  | range
  /-- The base is zero and the exponent negative, or no real power exists. -/
  | domain
  deriving DecidableEq

/-- The power, with a fault instead of an infinity or NaN that finite values give. -/
def pow? (base exponent : Binary64) : Except PowerFault Binary64 :=
  match base, exponent, pow base exponent with
  | .finite _ _ _, .finite _ _ _, .nan => .error .domain
  | .finite _ units _, .finite _ _ _, .infinity _ =>
      .error (if units = 0 then .domain else .range)
  | _, _, power => .ok power

end ExprLexer.Binary64
