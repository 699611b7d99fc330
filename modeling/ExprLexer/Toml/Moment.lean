import ExprLexer.Numeral.Reader
import ExprLexer.Toml.Value

/-!
# Dates and times in documents

The written forms of dates and times have fixed widths, so each is read by
taking so many digits and a separator in turn.
-/

set_option autoImplicit false

namespace ExprLexer.Toml

attribute [local instance (1100)] instPowNat

/-- Takes a number of digits off a text, if its value is within bounds. -/
def takeNumber? (width least greatest : Nat) (text : List Char) : Option (Nat × List Char) :=
  let digits := text.take width
  let value := digitsValue digits
  if digits.length = width ∧ digits.all Char.isDigit ∧ least ≤ value ∧ value ≤ greatest then
    some (value, text.drop width)
  else none

def takeChar? (char : Char) : List Char → Option (List Char)
  | first :: rest => if first = char then some rest else none
  | [] => none

/-- Takes a written date off a text. The day may still not exist. -/
def takeDate? (text : List Char) : Option (Date × List Char) := do
  let (year, rest) ← takeNumber? 4 0 9999 text
  let (month, rest) ← takeNumber? 2 1 12 (← takeChar? '-' rest)
  let (day, rest) ← takeNumber? 2 1 31 (← takeChar? '-' rest)
  return (⟨year, month, day⟩, rest)

/-- The first six digits after a point, as millionths; the others are dropped. -/
def takeMicroseconds (text : List Char) : Nat × List Char :=
  match text with
  | '.' :: rest =>
      let digits := rest.takeWhile Char.isDigit
      if digits.isEmpty then (0, text)
      else
        let kept := digits.take 6
        (digitsValue kept * 10 ^ (6 - kept.length), rest.dropWhile Char.isDigit)
  | _ => (0, text)

def takeTime? (text : List Char) : Option (Time × List Char) := do
  let (hour, rest) ← takeNumber? 2 0 23 text
  let (minute, rest) ← takeNumber? 2 0 59 (← takeChar? ':' rest)
  let (second, rest) ← takeNumber? 2 0 59 (← takeChar? ':' rest)
  let (microsecond, rest) := takeMicroseconds rest
  return (⟨hour, minute, second, microsecond⟩, rest)

def takeOffset? (text : List Char) : Option (Int × List Char) := do
  let (hour, rest) ← takeNumber? 2 0 23 text
  let (minute, rest) ← takeNumber? 2 0 59 (← takeChar? ':' rest)
  return (60 * hour + minute, rest)

/-- The offset that follows a time of day, if one does. -/
def takeZone (text : List Char) : Option Int × List Char :=
  let zone? : Option (Int × List Char) :=
    match text with
    | 'Z' :: rest => some (0, rest)
    | 'z' :: rest => some (0, rest)
    | '+' :: rest => takeOffset? rest
    | '-' :: rest => (takeOffset? rest).map fun (minutes, remaining) => (-minutes, remaining)
    | _ => none
  match zone? with
  | some (minutes, rest) => (some minutes, rest)
  | none => (none, text)

/-- The time of day after a date, if one follows. -/
def takeTimeAfterDate? : List Char → Option (Time × List Char)
  | separator :: rest =>
      if separator = 'T' ∨ separator = 't' ∨ separator = ' ' then takeTime? rest else none
  | [] => none

def isLeapYear (year : Nat) : Bool :=
  year % 4 == 0 && (year % 100 != 0 || year % 400 == 0)

def daysInMonth (year month : Nat) : Nat :=
  if month = 2 then if isLeapYear year then 29 else 28
  else if month = 4 ∨ month = 6 ∨ month = 9 ∨ month = 11 then 30
  else 31

/-- Whether a date is a day of the years from one on. -/
def Date.isOnCalendar (date : Date) : Bool :=
  1 ≤ date.year && date.day ≤ daysInMonth date.year date.month

/-- Takes a date, with or without a time of day, or a time of day alone off a
text. A written date that does not exist is a fault. -/
def takeMoment (text : List Char) : Except Fault (Option (Moment × List Char)) :=
  match takeDate? text with
  | some (date, rest) =>
      if !date.isOnCalendar then .error .malformed
      else
        match takeTimeAfterDate? rest with
        | some (time, afterTime) =>
            let (offset, remaining) := takeZone afterTime
            .ok (some (.dateTime date time offset, remaining))
        | none => .ok (some (.date date, rest))
  | none => .ok ((takeTime? text).map fun (time, rest) => (.time time, rest))

end ExprLexer.Toml
