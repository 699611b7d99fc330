import ExprLexer.Text.CharTable

/-!
# Blank characters

The characters that separate words: the Unicode white space characters and the
four information separators. This is more than `Char.isWhitespace`.
-/

set_option autoImplicit false

namespace ExprLexer.Text

def blankTable : CharTable :=
  [(0x09, 0x0d), (0x1c, 0x20), (0x85, 0x85), (0xa0, 0xa0), (0x1680, 0x1680), (0x2000, 0x200a),
   (0x2028, 0x2029), (0x202f, 0x202f), (0x205f, 0x205f), (0x3000, 0x3000)]

def isBlank (char : Char) : Bool := blankTable.contains char

def isBlankText (text : String) : Bool := text.toList.all isBlank

end ExprLexer.Text
