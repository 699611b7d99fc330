import ExprLexer.Numeral.Basic

/-!
# Reading numerals

A decimal literal is an optional sign, digits with at most one point among or
around them and at least one digit, and an optional exponent. An integer
literal is an optional sign and digits. Only ASCII digits count, and the whole
text must be used.
-/

set_option autoImplicit false

namespace ExprLexer

/-- The number that a run of ASCII digits denotes, most significant digit first. -/
def digitsValue (digits : List Char) : Nat :=
  digits.foldl (fun value digit => 10 * value + (digit.toNat - '0'.toNat)) 0

def isDigitRun (text : List Char) : Bool :=
  !text.isEmpty && text.all Char.isDigit

def splitSign : List Char → Bool × List Char
  | '+' :: rest => (false, rest)
  | '-' :: rest => (true, rest)
  | text => (false, text)

def signed (negative : Bool) (magnitude : Nat) : Int :=
  if negative then -(magnitude : Int) else magnitude

/-- Takes the digits after a decimal point off a text, if it starts with a point. -/
def splitFraction : List Char → List Char × List Char
  | '.' :: rest => (rest.takeWhile Char.isDigit, rest.dropWhile Char.isDigit)
  | text => ([], text)

/-- Reads what may follow the digits of a decimal literal: nothing, or an
exponent mark with a signed run of digits that ends the text. -/
def readExponent? : List Char → Option Int
  | [] => some 0
  | mark :: rest =>
      let (negative, digits) := splitSign rest
      if (mark = 'e' ∨ mark = 'E') ∧ isDigitRun digits then
        some (signed negative (digitsValue digits))
      else none

def Numeral.read? (text : List Char) : Option Numeral :=
  let (negative, body) := splitSign text
  let whole := body.takeWhile Char.isDigit
  let (fraction, rest) := splitFraction (body.dropWhile Char.isDigit)
  if whole.isEmpty && fraction.isEmpty then none
  else
    (readExponent? rest).map fun exponent =>
      { negative
        significand := digitsValue (whole ++ fraction)
        exponent := exponent - fraction.length }

/-- Whole numbers of more digits than this are neither read nor written. -/
def digitLimit : Nat := 4300

def splitIntegerLiteral? (text : List Char) : Option (Bool × List Char) :=
  let (negative, digits) := splitSign text
  if isDigitRun digits then some (negative, digits) else none

end ExprLexer
