import ExprLexer.Toml.Moment

/-!
# Strings and numbers in documents

Each reader takes one scalar off the front of a text. Strings are refused at
their first illegal character; numbers take as much of the text as fits, and
what follows is judged by the caller.
-/

set_option autoImplicit false

namespace ExprLexer.Toml

/-- What was taken off a text, and the text after it. -/
abbrev Taken (α : Type) := α × List Char

def isLineBlank (char : Char) : Bool := char == ' ' || char == '\t'

def isGap (char : Char) : Bool := isLineBlank char || char == '\n'

def skipBlanks (text : List Char) : List Char := text.dropWhile isLineBlank

/-- Whether a character may not stand in comments and strings. Line feeds are
allowed only where strings go over lines. -/
def isIllegal (multiline : Bool) (char : Char) : Bool :=
  (char.toNat < 32 || char.toNat == 127) && char != '\t' && !(multiline && char == '\n')

/-! ## Strings -/

def isHexDigit (char : Char) : Bool :=
  char.isDigit || 'a' ≤ char && char ≤ 'f' || 'A' ≤ char && char ≤ 'F'

def hexDigitValue (char : Char) : Nat :=
  if char.isDigit then char.toNat - '0'.toNat else char.toLower.toNat - 'a'.toNat + 10

def radixValue (base : Nat) (digits : List Char) : Nat :=
  digits.foldl (fun value digit => base * value + hexDigitValue digit) 0

/-- The character of so many hexadecimal digits, which must be a scalar value. -/
def readCodePoint (width : Nat) (text : List Char) : Except Fault (Taken (List Char)) :=
  let digits := text.take width
  let value := radixValue 16 digits
  if digits.length = width ∧ digits.all isHexDigit ∧ value.isValidChar then
    .ok ([Char.ofNat value], text.drop width)
  else .error .malformed

def shortEscape? : Char → Option Char
  | 'b' => some '\x08'
  | 't' => some '\t'
  | 'n' => some '\n'
  | 'f' => some '\x0c'
  | 'r' => some '\r'
  | '"' => some '"'
  | '\\' => some '\\'
  | _ => none

/-- The characters of an escape, whose backslash has been taken. In strings over
several lines a backslash at the end of a line takes the blank text after it. -/
def readEscape (multiline : Bool) (text : List Char) : Except Fault (Taken (List Char)) :=
  match text with
  | [] => .error .malformed
  | mark :: rest =>
      if multiline && mark == '\n' then .ok ([], rest.dropWhile isGap)
      else if multiline && isLineBlank mark then
        match skipBlanks rest with
        | [] => .ok ([], [])
        | '\n' :: below => .ok ([], below.dropWhile isGap)
        | _ => .error .malformed
      else if mark == 'u' then readCodePoint 4 rest
      else if mark == 'U' then readCodePoint 8 rest
      else
        match shortEscape? mark with
        | some char => .ok ([char], rest)
        | none => .error .malformed

/-- Reads a string with escapes up to its closing quotes. -/
def readBasic (multiline : Bool) : Nat → List Char → Except Fault (Taken (List Char))
  | 0, _ => .error .malformed
  | _, [] => .error .malformed
  | fuel + 1, char :: rest =>
      if char = '\\' then do
        let (escaped, afterEscape) ← readEscape multiline rest
        let (chars, remaining) ← readBasic multiline fuel afterEscape
        return (escaped ++ chars, remaining)
      else
        match multiline, char, rest with
        | false, '"', _ => .ok ([], rest)
        | true, '"', '"' :: '"' :: remaining => .ok ([], remaining)
        | _, _, _ =>
            if isIllegal multiline char then .error .malformed
            else do
              let (chars, remaining) ← readBasic multiline fuel rest
              return (char :: chars, remaining)

/-- Reads a string without escapes up to its closing quotes. -/
def readLiteral (multiline : Bool) : List Char → Except Fault (Taken (List Char))
  | [] => .error .malformed
  | char :: rest =>
      match multiline, char, rest with
      | false, '\'', _ => .ok ([], rest)
      | true, '\'', '\'' :: '\'' :: remaining => .ok ([], remaining)
      | _, _, _ =>
          if isIllegal multiline char then .error .malformed
          else do
            let (chars, remaining) ← readLiteral multiline rest
            return (char :: chars, remaining)

/-- The text after a line feed at its start. -/
def skipFirstNewline : List Char → List Char
  | '\n' :: rest => rest
  | text => text

/-- Up to two quotes right after the closing ones of a string over several lines
belong to it. -/
def takeExtraQuotes (mark : Char) : List Char → List Char × List Char
  | first :: second :: rest =>
      if first = mark then
        if second = mark then ([first, second], rest) else ([first], second :: rest)
      else ([], first :: second :: rest)
  | [first] => if first = mark then ([first], []) else ([], [first])
  | [] => ([], [])

/-- Reads a string over several lines, whose opening quotes have been taken. -/
def readMultiline (mark : Char) (text : List Char) : Except Fault (Taken (List Char)) := do
  let body := skipFirstNewline text
  let (chars, afterQuotes) ←
    if mark = '"' then readBasic true body.length body else readLiteral true body
  let (quotes, remaining) := takeExtraQuotes mark afterQuotes
  return (chars ++ quotes, remaining)

/-! ## Numbers -/

/-- The digits that go on after a first one; single underscores may stand between
digits and are dropped. -/
def takeDigits (isDigit : Char → Bool) : List Char → List Char × List Char
  | [] => ([], [])
  | '_' :: digit :: rest =>
      if isDigit digit then
        let (digits, remaining) := takeDigits isDigit rest
        (digit :: digits, remaining)
      else ([], '_' :: digit :: rest)
  | digit :: rest =>
      if isDigit digit then
        let (digits, remaining) := takeDigits isDigit rest
        (digit :: digits, remaining)
      else ([], digit :: rest)

def takeDigitRun? (isDigit : Char → Bool) : List Char → Option (List Char × List Char)
  | [] => none
  | first :: rest =>
      if isDigit first then
        let (digits, remaining) := takeDigits isDigit rest
        some (first :: digits, remaining)
      else none

/-- An integer in base sixteen, two or eight. -/
def takeRadixInteger? : List Char → Option (Int × List Char)
  | '0' :: 'x' :: rest => run 16 isHexDigit rest
  | '0' :: 'b' :: rest => run 2 (fun char => char == '0' || char == '1') rest
  | '0' :: 'o' :: rest => run 8 (fun char => '0' ≤ char && char ≤ '7') rest
  | _ => none
where
  run (base : Nat) (isDigit : Char → Bool) (text : List Char) : Option (Int × List Char) :=
    (takeDigitRun? isDigit text).map fun (digits, remaining) =>
      (radixValue base digits, remaining)

/-- The whole part of a decimal number: a zero alone, or digits that do not start
with a zero. -/
def takeWholePart? : List Char → Option (List Char × List Char)
  | '0' :: rest => some (['0'], rest)
  | text => takeDigitRun? Char.isDigit text

def takeFraction? : List Char → Option (List Char × List Char)
  | '.' :: rest => takeDigitRun? Char.isDigit rest
  | _ => none

def takeExponent? : List Char → Option (Int × List Char)
  | mark :: rest =>
      if mark = 'e' ∨ mark = 'E' then
        let (negative, body) := splitSign rest
        (takeDigitRun? Char.isDigit body).map fun (digits, remaining) =>
          (signed negative (digitsValue digits), remaining)
      else none
  | [] => none

/-- Takes a decimal number off a text: a float if it has a fraction or an
exponent, and an integer otherwise. -/
def takeDecimal? (text : List Char) : Option (Except Fault (Taken Value)) := do
  let (negative, body) := splitSign text
  let (whole, afterWhole) ← takeWholePart? body
  let fraction? := takeFraction? afterWhole
  let (fraction, afterFraction) := fraction?.getD ([], afterWhole)
  let exponent? := takeExponent? afterFraction
  let (exponent, remaining) := exponent?.getD (0, afterFraction)
  if fraction?.isSome || exponent?.isSome then
    let numeral : Numeral :=
      ⟨negative, digitsValue (whole ++ fraction), exponent - fraction.length⟩
    return .ok (.float numeral.toBinary64, remaining)
  else if digitLimit < whole.length then
    return .error (.longInteger whole.length)
  else
    return .ok (.integer (signed negative (digitsValue whole)), remaining)

def takeNamedFloat? (text : List Char) : Option (Value × List Char) :=
  let (negative, body) := splitSign text
  match body with
  | 'i' :: 'n' :: 'f' :: rest => some (.float (.infinity negative), rest)
  | 'n' :: 'a' :: 'n' :: rest => some (.float .nan, rest)
  | _ => none

def takeNumberValue? (text : List Char) : Option (Except Fault (Taken Value)) :=
  match takeRadixInteger? text with
  | some (value, rest) => some (.ok (.integer value, rest))
  | none =>
      match takeDecimal? text with
      | some reading => some reading
      | none => (takeNamedFloat? text).map .ok

end ExprLexer.Toml
