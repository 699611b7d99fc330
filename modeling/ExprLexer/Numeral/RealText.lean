import ExprLexer.Numeral.Reader
import ExprLexer.Text.Blank
import ExprLexer.Text.DecimalDigit

/-!
# Real numbers in texts

A text that is offered as a real number may have more forms than a decimal
literal: spacing may surround it, its digits may be those of any script, single
underscores may stand between digits, and infinities and NaN have names in any
case of letters.
-/

set_option autoImplicit false

namespace ExprLexer.RealText

/-- The ASCII character that a character stands for: itself, a digit of the same
value, or a space for a blank. Other characters beyond ASCII stand for nothing. -/
def asciiOf? (char : Char) : Option Char :=
  if char.toNat < 128 then some char
  else if Text.isBlank char then some ' '
  else (Text.digitValue? char).map Nat.digitChar

/-- Whether an ASCII character is spacing: the space, the tab or one of the line
and page controls. The information separators are blanks, but no spacing. -/
def isSpacing (char : Char) : Bool :=
  char == ' ' || ('\t' ≤ char && char ≤ '\r')

def trim (text : List Char) : List Char :=
  ((text.dropWhile isSpacing).reverse.dropWhile isSpacing).reverse

/-- Drops underscores that stand between two digits; any other is refused. -/
def dropUnderscores? (afterDigit : Bool) : List Char → Option (List Char)
  | [] => some []
  | '_' :: rest =>
      if afterDigit && (rest.head?.map Char.isDigit).getD false then
        dropUnderscores? false rest
      else none
  | char :: rest => (dropUnderscores? char.isDigit rest).map (char :: ·)

/-- The infinity of the given sign, or the NaN, that a name stands for. -/
def named? (negative : Bool) (name : List Char) : Option Binary64 :=
  let letters := String.ofList (name.map Char.toLower)
  if letters = "inf" ∨ letters = "infinity" then some (.infinity negative)
  else if letters = "nan" then some .nan
  else none

/-- The value of a trimmed ASCII text: what it names, or its numeral. -/
def ofAscii? (text : List Char) : Option Binary64 :=
  let (negative, body) := splitSign text
  match named? negative body with
  | some value => some value
  | none => ((dropUnderscores? false text).bind Numeral.read?).map Numeral.toBinary64

def read? (text : String) : Option Binary64 :=
  (text.toList.mapM asciiOf?).bind fun ascii => ofAscii? (trim ascii)

end ExprLexer.RealText
