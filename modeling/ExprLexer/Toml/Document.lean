import ExprLexer.Toml.Scalar

/-!
# Documents

A document is built statement by statement. Besides its tables it keeps which
keys were declared and may not be declared again, and which belong to arrays and
inline tables and may not be changed at all.
-/

set_option autoImplicit false

namespace ExprLexer.Toml

structure Document where
  root : Table
  /-- The key of the table that plain statements go to. -/
  header : Key
  /-- Tables that may not be declared by a header or extended by a dotted key. -/
  declared : List Key
  /-- Tables that become declared at the next header. -/
  pending : List Key
  /-- Keys that may not be changed, nor any below them. -/
  frozen : List Key

/-- Whether a key is frozen, or lies below one that is. -/
def isFrozenIn (frozen : List Key) (key : Key) : Bool :=
  frozen.any fun root => root.isPrefixOf key

namespace Document

def empty : Document := ⟨[], [], [], [], []⟩

def settle (document : Document) : Document :=
  { document with declared := document.pending ++ document.declared, pending := [] }

def openTable (document : Document) (key : Key) : Except Fault Document :=
  if document.declared.contains key || isFrozenIn document.frozen key then .error .malformed
  else
    match Table.changeAt true some key document.root with
    | some root => .ok { document with root, header := key, declared := key :: document.declared }
    | none => .error .malformed

/-- Adds a table to the array of tables of a key. What was said of the tables
below the key held of the table before. -/
def openArrayTable (document : Document) (key : Key) : Except Fault Document :=
  if isFrozenIn document.frozen key then .error .malformed
  else
    let isKept (other : Key) : Bool := !key.isPrefixOf other
    match key.getLast? with
    | none => .error .malformed
    | some name =>
        match Table.changeAt true (Table.addToArray? name) key.dropLast document.root with
        | some root =>
            .ok { document with
              root
              header := key
              declared := key :: document.declared.filter isKept
              frozen := document.frozen.filter isKept }
        | none => .error .malformed

/-- The proper beginnings of a key, shortest first. -/
def properBeginnings (key : Key) : List Key :=
  (List.range (key.length - 1)).map fun length => key.take (length + 1)

/-- Whether a value closes its key to all later statements. -/
def isClosed : Value → Bool
  | .array _ => true
  | .table _ => true
  | _ => false

/-- Gives a key below the current header its value. The tables that a dotted key
goes through must not be declared, and become so at the next header. -/
def assign (document : Document) (key : Key) (value : Value) : Except Fault Document :=
  let through := (properBeginnings key).map (document.header ++ ·)
  let parent := document.header ++ key.dropLast
  if through.any document.declared.contains || isFrozenIn document.frozen parent then
    .error .malformed
  else
    match key.getLast? with
    | none => .error .malformed
    | some name =>
        match Table.changeAt true (Table.add? name value) parent document.root with
        | some root =>
            .ok { document with
              root
              pending := through ++ document.pending
              frozen :=
                if isClosed value then (document.header ++ key) :: document.frozen
                else document.frozen }
        | none => .error .malformed

end Document

end ExprLexer.Toml
