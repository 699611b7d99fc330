/-!
# Lines

Where a text breaks into lines, and how the three usual line ends of a file
become one.
-/

set_option autoImplicit false

namespace ExprLexer.Text

/-- Whether a character ends a line: the line feed, the carriage return, the
vertical tab, the form feed, three information separators, the next-line
control and the two Unicode separators. -/
def isLineBreak (char : Char) : Bool :=
  ['\n', '\r', '\x0b', '\x0c', '\x1c', '\x1d', '\x1e', '\u0085', '\u2028', '\u2029'].contains char

/-- The lines of a text without their breaks. A carriage return and a line feed
together are one break, and no empty line follows a break that ends the text. -/
def splitLines : List Char → List (List Char)
  | [] => []
  | '\r' :: '\n' :: rest => [] :: splitLines rest
  | char :: rest =>
      if isLineBreak char then [] :: splitLines rest
      else
        match splitLines rest with
        | [] => [[char]]
        | line :: lines => (char :: line) :: lines

/-- The text with every carriage return, alone or before a line feed, made a line feed. -/
def normalizeNewlines : List Char → List Char
  | [] => []
  | '\r' :: '\n' :: rest => '\n' :: normalizeNewlines rest
  | '\r' :: rest => '\n' :: normalizeNewlines rest
  | char :: rest => char :: normalizeNewlines rest

end ExprLexer.Text
