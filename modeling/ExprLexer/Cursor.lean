import ExprLexer.Number.Basic

/-!
# Cursors

A cursor walks over a fixed sequence in both directions. Its position counts
the elements handed out so far and never passes either end. Reaching an end is
no fault: there is then no element. Only jumping outside the sequence is
refused, and asking an exhausted cursor for one more element by iteration.
-/

set_option autoImplicit false

namespace ExprLexer

/-- A sequence with a position between two of its elements or at an end. -/
structure Cursor (α : Type) where
  elements : List α
  position : Nat
  position_le : position ≤ elements.length

inductive CursorFault where
  | outOfRange (position : Int) (length : Nat)
  /-- The position asked for is no whole number. -/
  | notWhole (kind : OperandKind)
  | exhausted
  deriving DecidableEq

def CursorFault.message : CursorFault → String
  | .outOfRange position length => s!"cursor position {position} out of range [0, {length}]"
  | .notWhole kind => "cursor position must be an int, got " ++ kind.word
  | .exhausted => ""

namespace Cursor

variable {α : Type}

def ofList (elements : List α) : Cursor α := ⟨elements, 0, Nat.zero_le _⟩

def length (cursor : Cursor α) : Nat := cursor.elements.length

def isExhausted (cursor : Cursor α) : Bool := cursor.position == cursor.length

/-- The element of the given index; there is none before the first or after the last. -/
def elementAt? (cursor : Cursor α) (index : Int) : Option α :=
  if 0 ≤ index then cursor.elements[index.toNat]? else none

def next (cursor : Cursor α) : Option α × Cursor α :=
  if inside : cursor.position < cursor.elements.length then
    (some cursor.elements[cursor.position],
      ⟨cursor.elements, cursor.position + 1, inside⟩)
  else (none, cursor)

/-- Moves back over one element and looks at the one now behind the position. -/
def prev (cursor : Cursor α) : Option α × Cursor α :=
  if cursor.position = 0 then (none, cursor)
  else
    (cursor.elementAt? (cursor.position - 2),
      ⟨cursor.elements, cursor.position - 1,
        Nat.le_trans (Nat.sub_le _ _) cursor.position_le⟩)

/-- Looks at the element after the one that would be handed out next. -/
def peek (cursor : Cursor α) : Option α := cursor.elementAt? (cursor.position + 1)

def latest (cursor : Cursor α) : Option α := cursor.elementAt? (cursor.position - 1)

def remaining (cursor : Cursor α) : List α := cursor.elements.drop cursor.position

/-- Jumps to a position from zero to the length. -/
def seek (cursor : Cursor α) (position : Int) : Except CursorFault (Cursor α) :=
  if inside : 0 ≤ position ∧ position ≤ cursor.elements.length then
    .ok ⟨cursor.elements, position.toNat, Int.toNat_le.mpr inside.2⟩
  else .error (.outOfRange position cursor.length)

/-- Jumps to the position that an operand gives, which must be a whole number. -/
def seekOperand (cursor : Cursor α) : Operand → Except CursorFault (Cursor α)
  | .datum (.whole position) => cursor.seek position
  | other => .error (.notWhole other.kind)

def iterate (cursor : Cursor α) : Except CursorFault (α × Cursor α) :=
  match cursor.next with
  | (some element, moved) => .ok (element, moved)
  | (none, _) => .error .exhausted

theorem iterate_decreases {cursor moved : Cursor α} {element : α}
    (step : cursor.iterate = .ok (element, moved)) :
    moved.elements.length - moved.position < cursor.elements.length - cursor.position := by
  by_cases inside : cursor.position < cursor.elements.length
  · simp only [iterate, next, dif_pos inside] at step
    cases step
    exact Nat.sub_succ_lt_self _ _ inside
  · simp only [iterate, next, dif_neg inside] at step
    cases step

def drain (cursor : Cursor α) : List α × Cursor α :=
  match _ : cursor.iterate with
  | .ok (element, moved) =>
      let others := moved.drain
      (element :: others.1, others.2)
  | .error _ => ([], cursor)
  termination_by cursor.elements.length - cursor.position
  decreasing_by exact iterate_decreases ‹_›

def display (cursor : Cursor α) : String :=
  s!"Cursor(position={cursor.position}, length={cursor.length})"

end Cursor

end ExprLexer
