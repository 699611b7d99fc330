import ExprLexer.Numeral.Layout
import ExprLexer.Numeral.Reader
import ExprLexer.Text.Quoted
import ExprLexer.Toml.Value

/-!
# Written values

How a value is shown in the message about a setting of the wrong kind. Integers
of more digits than are written have no written form, nor have values that
contain one; how deeply values are nested does not matter.
-/

set_option autoImplicit false

namespace ExprLexer.Toml

/-- Floats keep a fraction, and are written with an exponent from `10 ^ 16` on and
below `10 ^ -4`. -/
def floatLayout : Layout where
  isPositional leading := -4 ≤ leading && leading < 16
  wholeSuffix := ".0"
  nanText := "nan"

/-- The written form of an integer, if it is not too long. -/
def writeInteger? (value : Int) : Option String :=
  let digits := Layout.digits value.natAbs
  if digitLimit < digits.length then none
  else some (String.ofList ((if value < 0 then ['-'] else []) ++ digits))

def commaSeparated (parts : List String) : String := ", ".intercalate parts

/-- The parts of a time of day: seconds and microseconds are left out from the end
on if they are zero. -/
def timeParts (time : Time) : List Nat :=
  if time.microsecond ≠ 0 then [time.hour, time.minute, time.second, time.microsecond]
  else if time.second ≠ 0 then [time.hour, time.minute, time.second]
  else [time.hour, time.minute]

/-- The written form of an offset; offsets before universal time are written as
the day before and the seconds into it. -/
def writeOffset (minutes : Int) : String :=
  if minutes = 0 then "datetime.timezone.utc"
  else if minutes < 0 then
    s!"datetime.timezone(datetime.timedelta(days=-1, seconds={86400 + 60 * minutes}))"
  else s!"datetime.timezone(datetime.timedelta(seconds={60 * minutes}))"

def writeMoment : Moment → String
  | .date date => s!"datetime.date({date.year}, {date.month}, {date.day})"
  | .time time => s!"datetime.time({commaSeparated ((timeParts time).map toString)})"
  | .dateTime date time offset =>
      let parts := ([date.year, date.month, date.day] ++ timeParts time).map toString
      let zone := offset.toList.map fun minutes => "tzinfo=" ++ writeOffset minutes
      s!"datetime.datetime({commaSeparated (parts ++ zone)})"

mutual

/-- The written form of a value of any depth. How deep a value an interpreter writes is not
decided here, but by its recursion limit. -/
def Value.write? : Value → Option String
  | .string text => some (Text.quote text)
  | .integer value => writeInteger? value
  | .float value => some (floatLayout.write value)
  | .boolean value => some (if value then "True" else "False")
  | .moment value => some (writeMoment value)
  | .array elements =>
      (writeElements? elements).map fun parts => "[" ++ commaSeparated parts ++ "]"
  | .table entries =>
      (writeEntries? entries).map fun parts => "\x7b" ++ commaSeparated parts ++ "\x7d"

def writeElements? : List Value → Option (List String)
  | [] => some []
  | element :: elements =>
      match element.write?, writeElements? elements with
      | some part, some parts => some (part :: parts)
      | _, _ => none

def writeEntries? : List (String × Value) → Option (List String)
  | [] => some []
  | (name, value) :: entries =>
      match value.write?, writeEntries? entries with
      | some part, some parts => some ((Text.quote name ++ ": " ++ part) :: parts)
      | _, _ => none

end

end ExprLexer.Toml
