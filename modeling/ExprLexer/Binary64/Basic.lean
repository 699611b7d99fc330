/-!
# Binary64 values

A finite binary64 value is a sign and a whole number of units, one unit being
the least positive value `2 ^ -1074`. The two zeros are kept apart and there is
one NaN, so equal data is equal behaviour. The 64-bit word of a value is read
and written here; no native floating point is involved.
-/

set_option autoImplicit false

namespace ExprLexer

-- Powers are those of whole numbers, whatever other powers an importer knows.
attribute [local instance (1100)] instPowNat

namespace Binary64

/-- One is this power of two, counted in units. -/
def oneExponent : Nat := 1074

def unitsPerOne : Nat := 2 ^ oneExponent

/-- The least power of two past the largest finite value, counted in units. -/
def limitExponent : Nat := 2098

def unitsLimit : Nat := 2 ^ limitExponent

/-- A magnitude in units is representable when it is below the limit and has at
most 53 significant bits. -/
def Representable (units : Nat) : Prop :=
  units < unitsLimit ∧
    ∃ significand shift : Nat, significand < 2 ^ (53 : Nat) ∧ units = significand * 2 ^ shift

theorem two_pow_le_unitsLimit {exponent : Nat} (exponent_le : exponent ≤ limitExponent) :
    2 ^ exponent ≤ unitsLimit :=
  Nat.pow_le_pow_right Nat.two_pos exponent_le

theorem unitsLimit_pos : 0 < unitsLimit :=
  Nat.lt_of_lt_of_le Nat.one_pos (two_pow_le_unitsLimit (Nat.zero_le _))

theorem representable_zero : Representable 0 :=
  ⟨unitsLimit_pos, 0, 0, Nat.two_pow_pos 53, by simp⟩

end Binary64

/-- A binary64 value. The sign of a zero counts; NaN carries neither sign nor payload. -/
inductive Binary64 where
  | nan
  | infinity (negative : Bool)
  | finite (negative : Bool) (units : Nat) (representable : Binary64.Representable units)
  deriving DecidableEq

namespace Binary64

def zero (negative : Bool) : Binary64 := .finite negative 0 representable_zero

def isNan : Binary64 → Bool
  | .nan => true
  | _ => false

def isInfinite : Binary64 → Bool
  | .infinity _ => true
  | _ => false

def isZero : Binary64 → Bool
  | .finite _ units _ => units == 0
  | _ => false

/-- The sign of a value; NaN counts as positive. -/
def isNegative : Binary64 → Bool
  | .nan => false
  | .infinity negative => negative
  | .finite negative _ _ => negative

def neg : Binary64 → Binary64
  | .nan => .nan
  | .infinity negative => .infinity !negative
  | .finite negative units representable => .finite (!negative) units representable

/-- Numeric equality: the two zeros are equal and NaN equals nothing. -/
def equals : Binary64 → Binary64 → Bool
  | .infinity left, .infinity right => left == right
  | .finite leftNegative left _, .finite rightNegative right _ =>
      left == right && (left == 0 || leftNegative == rightNegative)
  | _, _ => false

/-- The signed number of units of a finite value; zero for the others. -/
def signedUnits : Binary64 → Int
  | .finite negative units _ => if negative then -(units : Int) else units
  | _ => 0

/-! ## The 64-bit word -/

/-- How far the 53 leading bits of a magnitude stand above one unit. -/
def spacing (units : Nat) : Nat := units.log2 - 52

private theorem word_representable {fraction exponent : Nat}
    (fraction_lt : fraction < 2 ^ (52 : Nat)) (exponent_lt : exponent < 2046) :
    Representable ((2 ^ (52 : Nat) + fraction) * 2 ^ exponent) := by
  have significand_lt : 2 ^ (52 : Nat) + fraction < 2 ^ (53 : Nat) := by omega
  refine ⟨?_, _, _, significand_lt, rfl⟩
  calc (2 ^ (52 : Nat) + fraction) * 2 ^ exponent
      < 2 ^ (53 : Nat) * 2 ^ exponent :=
        Nat.mul_lt_mul_of_pos_right significand_lt (Nat.two_pow_pos _)
    _ = 2 ^ (53 + exponent) := (Nat.pow_add 2 53 exponent).symm
    _ ≤ unitsLimit := two_pow_le_unitsLimit (by unfold limitExponent; omega)

private theorem subnormal_representable {fraction : Nat} (fraction_lt : fraction < 2 ^ (52 : Nat)) :
    Representable fraction :=
  ⟨Nat.lt_of_lt_of_le fraction_lt (two_pow_le_unitsLimit (by decide)),
    fraction, 0, by omega, by simp⟩

/-- Reads a word: one sign bit, eleven exponent bits and 52 fraction bits. -/
def ofWord (word : UInt64) : Binary64 :=
  let bits := word.toNat
  let negative := decide (2 ^ (63 : Nat) ≤ bits)
  let exponent := bits / 2 ^ (52 : Nat) % 2 ^ (11 : Nat)
  let fraction := bits % 2 ^ (52 : Nat)
  have fraction_lt : fraction < 2 ^ (52 : Nat) := Nat.mod_lt _ (Nat.two_pow_pos 52)
  have exponent_lt : exponent < 2 ^ (11 : Nat) := Nat.mod_lt _ (Nat.two_pow_pos 11)
  if exponent = 0 then .finite negative fraction (subnormal_representable fraction_lt)
  else if full : exponent = 2047 then
    if fraction = 0 then .infinity negative else .nan
  else .finite negative ((2 ^ (52 : Nat) + fraction) * 2 ^ (exponent - 1))
    (word_representable fraction_lt (by omega))

/-- The word of a value without its sign bit, and a quiet NaN for NaN. -/
def magnitudeBits : Binary64 → Nat
  | .nan => 2047 * 2 ^ (52 : Nat) + 2 ^ (51 : Nat)
  | .infinity _ => 2047 * 2 ^ (52 : Nat)
  | .finite _ units _ => spacing units * 2 ^ (52 : Nat) + units / 2 ^ spacing units

def toWord (value : Binary64) : UInt64 :=
  UInt64.ofNat (value.magnitudeBits + if value.isNegative then 2 ^ (63 : Nat) else 0)

end Binary64

end ExprLexer
