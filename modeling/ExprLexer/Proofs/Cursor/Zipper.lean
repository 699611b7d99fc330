import ExprLexer.Cursor
import Mathlib.Data.List.Forall2

/-! A cursor is a list zipper. The zipper has no position and no bounds to check: it
keeps what was handed out apart from what is left. Whatever is asked of the two, in any
order, they answer alike, and the elements stay as they are. -/

set_option autoImplicit false

namespace ExprLexer

inductive CursorRequest where
  | next
  | prev
  | peek
  | latest
  | position
  | currentPosition
  | isExhausted
  | length
  | remaining
  | iterate
  | drain
  | seek (target : Operand)
  deriving DecidableEq

/-- What is answered. Elements may be of any type, also one with a value for nothing;
that there is no element is told apart from all of them. -/
inductive CursorAnswer (α : Type) where
  | done
  | element (found : Option α)
  | elements (list : List α)
  | count (number : Nat)
  | truth (holds : Bool)
  | refused (cause : CursorFault)
  deriving DecidableEq

/-- The answers to requests, one after the other, each with the state it leaves. -/
def answerAll {State α : Type}
    (answer : State → CursorRequest → CursorAnswer α × State) (state : State) :
    List CursorRequest → List (CursorAnswer α × State)
  | [] => []
  | request :: requests =>
      answer state request :: answerAll answer (answer state request).2 requests

/-- What was handed out, the latest first, and what is left. -/
structure Zipper (α : Type) where
  handedOut : List α
  left : List α

namespace Zipper

variable {α : Type}

def ofList (elements : List α) : Zipper α := ⟨[], elements⟩

def elements (zipper : Zipper α) : List α := zipper.handedOut.reverse ++ zipper.left

theorem elements_handOut (handedOut left : List α) (head : α) :
    (⟨head :: handedOut, left⟩ : Zipper α).elements =
      (⟨handedOut, head :: left⟩ : Zipper α).elements := by
  simp [elements]

def splitAt (elements : List α) (index : Nat) : Zipper α :=
  ⟨(elements.take index).reverse, elements.drop index⟩

def answer (zipper : Zipper α) : CursorRequest → CursorAnswer α × Zipper α
  | .next =>
      match zipper.left with
      | [] => (.element none, zipper)
      | head :: rest => (.element (some head), ⟨head :: zipper.handedOut, rest⟩)
  | .prev =>
      match zipper.handedOut with
      | [] => (.element none, zipper)
      | latest :: earlier => (.element earlier.head?, ⟨earlier, latest :: zipper.left⟩)
  | .peek => (.element zipper.left[1]?, zipper)
  | .latest => (.element zipper.handedOut.head?, zipper)
  | .position => (.count zipper.handedOut.length, zipper)
  | .currentPosition => (.count zipper.handedOut.length, zipper)
  | .isExhausted => (.truth zipper.left.isEmpty, zipper)
  | .length => (.count zipper.elements.length, zipper)
  | .remaining => (.elements zipper.left, zipper)
  | .iterate =>
      match zipper.left with
      | [] => (.refused .exhausted, zipper)
      | head :: rest => (.element (some head), ⟨head :: zipper.handedOut, rest⟩)
  | .drain => (.elements zipper.left, ⟨zipper.left.reverse ++ zipper.handedOut, []⟩)
  | .seek (.datum (.whole target)) =>
      if 0 ≤ target ∧ target ≤ zipper.elements.length then
        (.done, splitAt zipper.elements target.toNat)
      else (.refused (.outOfRange target zipper.elements.length), zipper)
  | .seek other => (.refused (.notWhole other.kind), zipper)

/-- No request changes the elements, only where they are split. -/
theorem elements_answer (zipper : Zipper α) (request : CursorRequest) :
    (zipper.answer request).2.elements = zipper.elements := by
  obtain ⟨handedOut, left⟩ := zipper
  cases request with
  | next | iterate =>
      cases left with
      | nil => rfl
      | cons head rest => exact elements_handOut handedOut rest head
  | prev =>
      cases handedOut with
      | nil => rfl
      | cons latest earlier => exact (elements_handOut earlier left latest).symm
  | drain => simp [answer, elements]
  | peek | latest | position | currentPosition | isExhausted | length | remaining => rfl
  | seek target =>
      cases target with
      | number value => rfl
      | datum value =>
          cases value with
          | nothing | truth | float | text => rfl
          | whole target =>
              rw [answer]
              split
              · simp [splitAt, elements]
              · rfl

end Zipper

namespace Cursor

variable {α : Type}

def answer (cursor : Cursor α) : CursorRequest → CursorAnswer α × Cursor α
  | .next => (.element cursor.next.1, cursor.next.2)
  | .prev => (.element cursor.prev.1, cursor.prev.2)
  | .peek => (.element cursor.peek, cursor)
  | .latest => (.element cursor.latest, cursor)
  | .position => (.count cursor.position, cursor)
  | .currentPosition => (.count cursor.position, cursor)
  | .isExhausted => (.truth cursor.isExhausted, cursor)
  | .length => (.count cursor.length, cursor)
  | .remaining => (.elements cursor.remaining, cursor)
  | .iterate =>
      match cursor.iterate with
      | .ok (element, moved) => (.element (some element), moved)
      | .error cause => (.refused cause, cursor)
  | .drain => (.elements cursor.drain.1, cursor.drain.2)
  | .seek target =>
      match cursor.seekOperand target with
      | .ok moved => (.done, moved)
      | .error cause => (.refused cause, cursor)

/-- The cursor stands where the zipper is open. -/
structure StandsAt (cursor : Cursor α) (zipper : Zipper α) : Prop where
  elements_eq : cursor.elements = zipper.elements
  position_eq : cursor.position = zipper.handedOut.length

variable {cursor moved : Cursor α} {zipper : Zipper α} {handedOut left : List α} {head : α}

theorem standsAt_ofList (elements : List α) :
    (ofList elements).StandsAt (Zipper.ofList elements) :=
  ⟨rfl, rfl⟩

namespace StandsAt

/-! ## Looking -/

theorem length_eq (stands : cursor.StandsAt zipper) :
    cursor.elements.length = zipper.handedOut.length + zipper.left.length := by
  rw [stands.elements_eq, Zipper.elements, List.length_append, List.length_reverse]

theorem elementAt?_after (stands : cursor.StandsAt zipper) (offset : Nat) :
    cursor.elementAt? (cursor.position + offset) = zipper.left[offset]? := by
  have index : ((cursor.position : Int) + offset).toNat = cursor.position + offset := by omega
  rw [elementAt?, if_pos (by omega), index, stands.elements_eq, stands.position_eq,
    Zipper.elements, List.getElem?_append_right (by simp)]
  simp

theorem elementAt?_before (stands : cursor.StandsAt zipper) (offset : Nat) :
    cursor.elementAt? (cursor.position - (offset + 1 : Nat)) = zipper.handedOut[offset]? := by
  have position := stands.position_eq
  by_cases inside : offset < zipper.handedOut.length
  · have index : ((cursor.position : Int) - (offset + 1 : Nat)).toNat =
        zipper.handedOut.length - 1 - offset := by omega
    rw [elementAt?, if_pos (by omega), index, stands.elements_eq, Zipper.elements,
      List.getElem?_append_left (by rw [List.length_reverse]; omega),
      List.getElem?_reverse (by omega)]
    congr 1
    omega
  · rw [elementAt?, if_neg (by omega), List.getElem?_eq_none (by omega)]

theorem remaining_eq (stands : cursor.StandsAt zipper) : cursor.remaining = zipper.left := by
  rw [remaining, stands.elements_eq, stands.position_eq, Zipper.elements]
  exact List.drop_left' (List.length_reverse)

theorem isExhausted_eq (stands : cursor.StandsAt zipper) :
    cursor.isExhausted = zipper.left.isEmpty := by
  rw [isExhausted, length, stands.length_eq, stands.position_eq, Bool.eq_iff_iff, beq_iff_eq,
    List.isEmpty_iff_length_eq_zero]
  omega

/-! ## Moving -/

theorem next_of_nil (stands : cursor.StandsAt ⟨handedOut, []⟩) : cursor.next = (none, cursor) := by
  have length := stands.length_eq
  have position := stands.position_eq
  exact dif_neg (by simp only [List.length_nil] at length position; omega)

theorem next_of_cons (stands : cursor.StandsAt ⟨handedOut, head :: left⟩) :
    ∃ moved, cursor.next = (some head, moved) ∧ moved.StandsAt ⟨head :: handedOut, left⟩ := by
  have length := stands.length_eq
  have position := stands.position_eq
  simp only [List.length_cons] at length position
  have inside : cursor.position < cursor.elements.length := by omega
  have found : cursor.elements[cursor.position]? = some head := by
    rw [stands.elements_eq, position, Zipper.elements, List.getElem?_append_right (by simp)]
    simp
  rw [List.getElem?_eq_getElem inside, Option.some.injEq] at found
  refine ⟨⟨cursor.elements, cursor.position + 1, inside⟩, ?_, ?_, ?_⟩
  · rw [next, dif_pos inside, found]
  · rw [stands.elements_eq, Zipper.elements_handOut]
  · exact congrArg (· + 1) position

theorem prev_of_nil (stands : cursor.StandsAt ⟨[], left⟩) : cursor.prev = (none, cursor) :=
  if_pos stands.position_eq

theorem prev_of_cons (stands : cursor.StandsAt ⟨head :: handedOut, left⟩) :
    ∃ moved, cursor.prev = (handedOut.head?, moved) ∧
      moved.StandsAt ⟨handedOut, head :: left⟩ := by
  have position := stands.position_eq
  have behind := stands.elementAt?_before 1
  rw [List.getElem?_cons_succ, ← List.head?_eq_getElem?] at behind
  simp only [List.length_cons] at position
  refine ⟨⟨cursor.elements, cursor.position - 1,
    Nat.le_trans (Nat.sub_le _ _) cursor.position_le⟩, ?_, ?_, ?_⟩
  · rw [prev, if_neg (by omega), ← behind]
    rfl
  · rw [← Zipper.elements_handOut, ← stands.elements_eq]
  · exact Nat.sub_eq_of_eq_add position

theorem iterate_of_nil (stands : cursor.StandsAt ⟨handedOut, []⟩) :
    cursor.iterate = .error .exhausted := by
  rw [iterate, stands.next_of_nil]

theorem iterate_of_cons (stands : cursor.StandsAt ⟨handedOut, head :: left⟩) :
    ∃ moved, cursor.iterate = .ok (head, moved) ∧ moved.StandsAt ⟨head :: handedOut, left⟩ := by
  obtain ⟨moved, step, movedStands⟩ := stands.next_of_cons
  exact ⟨moved, by rw [iterate, step], movedStands⟩

theorem drain_eq (stands : cursor.StandsAt ⟨handedOut, left⟩) :
    cursor.drain.1 = left ∧ cursor.drain.2.StandsAt ⟨left.reverse ++ handedOut, []⟩ := by
  -- Each round of the loop takes one element of what is left, until iteration refuses.
  induction left generalizing cursor handedOut with
  | nil =>
      rw [drain]
      split
      next step =>
        rw [stands.iterate_of_nil] at step
        cases step
      next => exact ⟨rfl, stands⟩
  | cons head left ih =>
      obtain ⟨moved, step, movedStands⟩ := stands.iterate_of_cons
      obtain ⟨others, ends⟩ := ih movedStands
      rw [drain]
      split
      next element other same =>
        rw [step] at same
        cases same
        refine ⟨congrArg (head :: ·) others, ?_⟩
        rw [List.reverse_cons, List.append_assoc]
        exact ends
      next same =>
        rw [step] at same
        cases same

theorem seek_of_inside (stands : cursor.StandsAt zipper) {target : Int}
    (inside : 0 ≤ target ∧ target ≤ zipper.elements.length) :
    ∃ moved, cursor.seek target = .ok moved ∧
      moved.StandsAt (Zipper.splitAt zipper.elements target.toNat) := by
  rw [← stands.elements_eq] at inside ⊢
  refine ⟨⟨cursor.elements, target.toNat, _⟩, dif_pos inside, ?_, ?_⟩
  · rw [Zipper.elements, Zipper.splitAt, List.reverse_reverse, List.take_append_drop]
  · rw [Zipper.splitAt, List.length_reverse, List.length_take, Nat.min_eq_left (by omega)]

theorem seek_of_outside (stands : cursor.StandsAt zipper) {target : Int}
    (outside : ¬(0 ≤ target ∧ target ≤ zipper.elements.length)) :
    cursor.seek target = .error (.outOfRange target zipper.elements.length) := by
  rw [← stands.elements_eq] at outside ⊢
  exact dif_neg outside

/-! ## Steps and runs -/

theorem answer_seek (stands : cursor.StandsAt zipper) (target : Int) :
    (cursor.answer (.seek (.datum (.whole target)))).1 =
        (zipper.answer (.seek (.datum (.whole target)))).1 ∧
      (cursor.answer (.seek (.datum (.whole target)))).2.StandsAt
        (zipper.answer (.seek (.datum (.whole target)))).2 := by
  rw [Cursor.answer, Zipper.answer, seekOperand]
  by_cases inside : 0 ≤ target ∧ target ≤ zipper.elements.length
  · obtain ⟨moved, step, movedStands⟩ := stands.seek_of_inside inside
    rw [step, if_pos inside]
    exact ⟨rfl, movedStands⟩
  · rw [stands.seek_of_outside inside, if_neg inside]
    exact ⟨rfl, stands⟩

theorem answer (stands : cursor.StandsAt zipper) (request : CursorRequest) :
    (cursor.answer request).1 = (zipper.answer request).1 ∧
      (cursor.answer request).2.StandsAt (zipper.answer request).2 := by
  obtain ⟨handedOut, left⟩ := zipper
  cases request with
  | next =>
      cases left with
      | nil =>
          rw [Cursor.answer, stands.next_of_nil]
          exact ⟨rfl, stands⟩
      | cons head left =>
          obtain ⟨moved, step, movedStands⟩ := stands.next_of_cons
          rw [Cursor.answer, step]
          exact ⟨rfl, movedStands⟩
  | prev =>
      cases handedOut with
      | nil =>
          rw [Cursor.answer, stands.prev_of_nil]
          exact ⟨rfl, stands⟩
      | cons latest earlier =>
          obtain ⟨moved, step, movedStands⟩ := stands.prev_of_cons
          rw [Cursor.answer, step]
          exact ⟨rfl, movedStands⟩
  | peek => exact ⟨congrArg CursorAnswer.element (stands.elementAt?_after 1), stands⟩
  | latest =>
      have behind := stands.elementAt?_before 0
      rw [← List.head?_eq_getElem?] at behind
      exact ⟨congrArg CursorAnswer.element behind, stands⟩
  | position => exact ⟨congrArg CursorAnswer.count stands.position_eq, stands⟩
  | currentPosition => exact ⟨congrArg CursorAnswer.count stands.position_eq, stands⟩
  | isExhausted => exact ⟨congrArg CursorAnswer.truth stands.isExhausted_eq, stands⟩
  | length =>
      have length : cursor.length = (⟨handedOut, left⟩ : Zipper α).elements.length :=
        congrArg List.length stands.elements_eq
      exact ⟨congrArg CursorAnswer.count length, stands⟩
  | remaining => exact ⟨congrArg CursorAnswer.elements stands.remaining_eq, stands⟩
  | iterate =>
      cases left with
      | nil =>
          rw [Cursor.answer, stands.iterate_of_nil]
          exact ⟨rfl, stands⟩
      | cons head left =>
          obtain ⟨moved, step, movedStands⟩ := stands.iterate_of_cons
          rw [Cursor.answer, step]
          exact ⟨rfl, movedStands⟩
  | drain =>
      obtain ⟨all, ends⟩ := stands.drain_eq
      exact ⟨congrArg CursorAnswer.elements all, ends⟩
  | seek target =>
      cases target with
      | number value => exact ⟨rfl, stands⟩
      | datum value =>
          cases value with
          | nothing | truth | float | text => exact ⟨rfl, stands⟩
          | whole target => exact stands.answer_seek target

end StandsAt

/-- An element that is nothing is still handed out, and ends no iteration. -/
example : ((answerAll answer (ofList [some 'a', none, some 'b'])
      [.next, .iterate, .latest, .iterate, .iterate, .prev]).map (·.1)) =
    [.element (some (some 'a')), .element (some none), .element (some none),
      .element (some (some 'b')), .refused .exhausted, .element (some none)] := by
  decide

end Cursor

end ExprLexer
