import ExprLexer.Text.Printable

/-!
# Quoted texts

Messages show a text between quotes, so that every character of it can be seen:
the quote in use and the backslash are escaped, and so is every character that
is not printable.
-/

set_option autoImplicit false

namespace ExprLexer.Text

/-- The quote of a text: the single one, unless the text has single quotes and
no double ones. -/
def quoteMark (text : List Char) : Char :=
  if text.contains '\'' && !text.contains '"' then '"' else '\''

/-- A number in lower-case hexadecimal, at least as wide as given. -/
def hexadecimal (width value : Nat) : List Char :=
  let digits := Nat.toDigits 16 value
  List.replicate (width - digits.length) '0' ++ digits

/-- The written form of one character between the given quotes. A character that
is not printable has the shortest of the three hexadecimal forms that fits. -/
def quoteChar (mark char : Char) : List Char :=
  if char = mark ∨ char = '\\' then ['\\', char]
  else if char = '\n' then ['\\', 'n']
  else if char = '\r' then ['\\', 'r']
  else if char = '\t' then ['\\', 't']
  else if isPrintable char then [char]
  else if char.toNat < 0x100 then '\\' :: 'x' :: hexadecimal 2 char.toNat
  else if char.toNat < 0x10000 then '\\' :: 'u' :: hexadecimal 4 char.toNat
  else '\\' :: 'U' :: hexadecimal 8 char.toNat

def quoteChars (text : List Char) : List Char :=
  let mark := quoteMark text
  mark :: (text.flatMap (quoteChar mark) ++ [mark])

def quote (text : String) : String := String.ofList (quoteChars text.toList)

end ExprLexer.Text
