import ExprLexer.Toml.Document

/-!
# Reading documents

A document is read statement by statement: a table header, a header of an array
of tables, or a key with its value, each followed by the end of its line. The
fuel of the recursive readers is taken from the length of the text, of which
every two steps take at least one character, so that values may be nested to any
depth.
-/

set_option autoImplicit false

namespace ExprLexer.Toml

/-! ## Comments and keys -/

def skipComment (text : List Char) : Except Fault (List Char) :=
  match text with
  | '#' :: rest =>
      if (rest.takeWhile (· != '\n')).any (isIllegal false) then .error .malformed
      else .ok (rest.dropWhile (· != '\n'))
  | _ => .ok text

/-- The text after blanks, line feeds and comments. -/
def skipGaps (inComment : Bool) : List Char → Except Fault (List Char)
  | [] => .ok []
  | char :: rest =>
      if inComment && char != '\n' then
        if isIllegal false char then .error .malformed else skipGaps true rest
      else if isGap char then skipGaps false rest
      else if char = '#' then skipGaps true rest
      else .ok (char :: rest)

def isBareKeyChar (char : Char) : Bool :=
  char.isAlphanum || char == '-' || char == '_'

/-- Reads one part of a key: a bare one, or a string on one line. -/
def readKeyPart (text : List Char) : Except Fault (Taken String) :=
  match text with
  | '"' :: rest =>
      (readBasic false rest.length rest).map fun (chars, remaining) =>
        (String.ofList chars, remaining)
  | '\'' :: rest =>
      (readLiteral false rest).map fun (chars, remaining) => (String.ofList chars, remaining)
  | _ =>
      let bare := text.takeWhile isBareKeyChar
      if bare.isEmpty then .error .malformed
      else .ok (String.ofList bare, text.dropWhile isBareKeyChar)

def readKey : Nat → List Char → Except Fault (Taken Key)
  | 0, _ => .error .malformed
  | fuel + 1, text => do
      let (part, rest) ← readKeyPart text
      match skipBlanks rest with
      | '.' :: afterPoint =>
          let (parts, remaining) ← readKey fuel (skipBlanks afterPoint)
          return (part :: parts, remaining)
      | remaining => return ([part], remaining)

def readKeyAndEquals (text : List Char) : Except Fault (Taken Key) := do
  match ← readKey text.length text with
  | (key, '=' :: rest) => return (key, skipBlanks rest)
  | _ => .error .malformed

/-! ## Values -/

/-- An inline table under construction, and its keys that may not be changed. -/
structure InlineTable where
  entries : Table
  frozen : List Key

def InlineTable.assign (table : InlineTable) (key : Key) (value : Value) :
    Except Fault InlineTable :=
  if isFrozenIn table.frozen key then .error .malformed
  else
    match key.getLast? with
    | none => .error .malformed
    | some name =>
        match Table.changeAt false (Table.add? name value) key.dropLast table.entries with
        | some entries =>
            .ok { entries, frozen := if Document.isClosed value then key :: table.frozen
                                     else table.frozen }
        | none => .error .malformed

def readScalar (text : List Char) : Except Fault (Taken Value) :=
  let ofString (reading : Except Fault (Taken (List Char))) : Except Fault (Taken Value) :=
    reading.map fun (chars, remaining) => (.string (String.ofList chars), remaining)
  match text with
  | '"' :: '"' :: '"' :: rest => ofString (readMultiline '"' rest)
  | '"' :: rest => ofString (readBasic false rest.length rest)
  | '\'' :: '\'' :: '\'' :: rest => ofString (readMultiline '\'' rest)
  | '\'' :: rest => ofString (readLiteral false rest)
  | 't' :: 'r' :: 'u' :: 'e' :: rest => .ok (.boolean true, rest)
  | 'f' :: 'a' :: 'l' :: 's' :: 'e' :: rest => .ok (.boolean false, rest)
  | _ => do
      match ← takeMoment text with
      | some (moment, rest) => return (.moment moment, rest)
      | none => (takeNumberValue? text).getD (.error .malformed)

mutual

def readValue : Nat → List Char → Except Fault (Taken Value)
  | 0, _ => .error .malformed
  | fuel + 1, text =>
      match text with
      | '[' :: rest => do
          match ← skipGaps false rest with
          | ']' :: remaining => return (.array [], remaining)
          | first =>
              let (elements, remaining) ← readElements fuel first
              return (.array elements, remaining)
      | '{' :: rest =>
          match skipBlanks rest with
          | '}' :: remaining => .ok (.table [], remaining)
          | first => readEntries fuel ⟨[], []⟩ first
      | _ => readScalar text

/-- Reads the elements of an array up to its end. A comma may follow the last. -/
def readElements : Nat → List Char → Except Fault (Taken (List Value))
  | 0, _ => .error .malformed
  | fuel + 1, text => do
      let (element, rest) ← readValue fuel text
      match ← skipGaps false rest with
      | ']' :: remaining => return ([element], remaining)
      | ',' :: afterComma =>
          match ← skipGaps false afterComma with
          | ']' :: remaining => return ([element], remaining)
          | next =>
              let (elements, remaining) ← readElements fuel next
              return (element :: elements, remaining)
      | _ => .error .malformed

def readEntries : Nat → InlineTable → List Char → Except Fault (Taken Value)
  | 0, _, _ => .error .malformed
  | fuel + 1, table, text => do
      let (key, afterEquals) ← readKeyAndEquals text
      let (value, rest) ← readValue fuel afterEquals
      let grown ← table.assign key value
      match skipBlanks rest with
      | '}' :: remaining => return (.table grown.entries, remaining)
      | ',' :: afterComma => readEntries fuel grown (skipBlanks afterComma)
      | _ => .error .malformed

end

/-! ## Statements -/

/-- Reads a header, whose opening brackets have been taken, up to its closing
brackets. -/
def readHeader (closing : List Char) (text : List Char) : Except Fault (Taken Key) := do
  let (key, rest) ← readKey text.length (skipBlanks text)
  if closing.isPrefixOf rest then return (key, rest.drop closing.length)
  else .error .malformed

def readStatement (document : Document) (text : List Char) : Except Fault (Taken Document) :=
  match text with
  | '[' :: '[' :: rest => do
      let (key, remaining) ← readHeader [']', ']'] rest
      return (← document.settle.openArrayTable key, remaining)
  | '[' :: rest => do
      let (key, remaining) ← readHeader [']'] rest
      return (← document.settle.openTable key, remaining)
  | _ => do
      let (key, afterEquals) ← readKeyAndEquals text
      let (value, remaining) ← readValue (2 * afterEquals.length + 2) afterEquals
      return (← document.assign key value, remaining)

/-- Reads statements up to the end of the text. -/
def readStatements : Nat → Document → List Char → Except Fault Document
  | 0, _, _ => .error .malformed
  | fuel + 1, document, text => do
      let start := skipBlanks text
      let (grown, rest) ←
        match start with
        | [] => .ok (document, [])
        | '\n' :: _ => .ok (document, start)
        | '#' :: _ => .ok (document, start)
        | _ => readStatement document start
      match ← skipComment (skipBlanks rest) with
      | [] => return grown
      | '\n' :: remaining => readStatements fuel grown remaining
      | _ => .error .malformed

/-- The text with every carriage return before a line feed dropped. -/
def joinLineEnds : List Char → List Char
  | [] => []
  | '\r' :: '\n' :: rest => '\n' :: joinLineEnds rest
  | char :: rest => char :: joinLineEnds rest

/-- Reads a document of any depth. How far an interpreter follows a text is not decided here,
but by its recursion limit. -/
def read (text : String) : Except Fault Table :=
  let chars := joinLineEnds text.toList
  (readStatements (chars.length + 1) Document.empty chars).map (·.root)

end ExprLexer.Toml
