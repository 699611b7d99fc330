import ExprLexer.Binary64.Basic

/-!
# Values of settings documents

A TOML document is a tree of tables, arrays and scalars. Tables keep their
entries in the order of the document.
-/

set_option autoImplicit false

namespace ExprLexer.Toml

/-- A day of the proleptic Gregorian calendar. -/
structure Date where
  year : Nat
  month : Nat
  day : Nat
  deriving DecidableEq

structure Time where
  hour : Nat
  minute : Nat
  second : Nat
  microsecond : Nat
  deriving DecidableEq

/-- A date, a time of day, or both with an offset from universal time in minutes
if one is given. -/
inductive Moment where
  | date (date : Date)
  | time (time : Time)
  | dateTime (date : Date) (time : Time) (offset : Option Int)
  deriving DecidableEq

inductive Value where
  | string (text : String)
  | integer (value : Int)
  | float (value : Binary64)
  | boolean (value : Bool)
  | moment (value : Moment)
  | array (elements : List Value)
  | table (entries : List (String × Value))

abbrev Table := List (String × Value)

/-- A dotted name. -/
abbrev Key := List String

inductive Fault where
  | malformed
  /-- A decimal integer has more digits than are read. -/
  | longInteger (digits : Nat)
  deriving DecidableEq

namespace Table

def find? (table : Table) (name : String) : Option Value :=
  (List.find? (fun entry => entry.1 == name) table).map (·.2)

def replace (table : Table) (name : String) (value : Value) : Table :=
  table.map fun entry => if entry.1 = name then (name, value) else entry

/-- Changes the table at a key, making the tables on the way that are missing.
A step through an array of tables goes to its last table, if arrays are open;
any other value on the way is in it. -/
def changeAt (arraysAreOpen : Bool) (change : Table → Option Table) :
    Key → Table → Option Table
  | [], table => change table
  | name :: rest, table =>
      match find? table name with
      | none =>
          (changeAt arraysAreOpen change rest []).map fun inner =>
            table ++ [(name, .table inner)]
      | some (.table inner) =>
          (changeAt arraysAreOpen change rest inner).map fun changed =>
            replace table name (.table changed)
      | some (.array elements) =>
          match arraysAreOpen, elements.getLast? with
          | true, some (.table inner) =>
              (changeAt arraysAreOpen change rest inner).map fun changed =>
                replace table name (.array (elements.dropLast ++ [.table changed]))
          | _, _ => none
      | some _ => none

/-- Adds an entry, unless the name is taken. -/
def add? (name : String) (value : Value) (table : Table) : Option Table :=
  match find? table name with
  | none => some (table ++ [(name, value)])
  | some _ => none

/-- Adds an empty table to the array of tables of a name. -/
def addToArray? (name : String) (table : Table) : Option Table :=
  match find? table name with
  | none => some (table ++ [(name, .array [.table []])])
  | some (.array elements) => some (replace table name (.array (elements ++ [.table []])))
  | some _ => none

end Table

end ExprLexer.Toml
