import ExprLexer.Text.Ansi
import Mathlib.Data.List.TakeWhile

/-! Texts lose their control sequences part by part where no sequence can reach from
one part into the next. A sequence of its own that is put between two such parts goes
without a trace. -/

set_option autoImplicit false

namespace ExprLexer.Text

section Single

variable {char : Char} {text remaining : List Char}

theorem stripControls_of_some (found : afterControl? text = some remaining) :
    stripControls (escapeChar :: text) = stripControls remaining := by
  rw [stripControls, if_pos rfl]
  split
  next other same =>
    rw [found] at same
    rw [Option.some.inj same]
  next missing =>
    rw [found] at missing
    cases missing

theorem stripControls_of_none (missing : afterControl? text = none) :
    stripControls (escapeChar :: text) = escapeChar :: stripControls text := by
  rw [stripControls, if_pos rfl]
  split
  next other found =>
    rw [missing] at found
    cases found
  next => rfl

theorem stripControls_of_ne (other : char ≠ escapeChar) :
    stripControls (char :: text) = char :: stripControls text := by
  rw [stripControls, if_neg other]

theorem stripControls_of_not_mem (absent : escapeChar ∉ text) : stripControls text = text := by
  induction text with
  | nil => rw [stripControls]
  | cons char text ih =>
      obtain ⟨other, absent⟩ := List.ne_and_not_mem_of_not_mem_cons absent
      rw [stripControls_of_ne other.symm, ih absent]

end Single

/-! ## Where texts part -/

/-- Whether a control sequence can be unfinished after a character. -/
def leavesOpen (char : Char) : Bool :=
  char == escapeChar || char == '[' || isControlParameter char

/-- Whether a character can go on with an unfinished control sequence. -/
def goesOn (char : Char) : Bool :=
  char == '[' || isControlParameter char || char.isAlpha

/-- No control sequence is unfinished at the end of a text. -/
def IsClosed (text : List Char) : Prop := ∀ last ∈ text.getLast?, leavesOpen last = false

/-- A text does not go on with a control sequence that is unfinished before it. -/
def IsFresh (text : List Char) : Prop := ∀ next ∈ text.head?, goesOn next = false

theorem isClosed_nil : IsClosed [] := nofun

theorem isFresh_nil : IsFresh [] := nofun

theorem IsFresh.cons {char : Char} (fresh : goesOn char = false) (text : List Char) :
    IsFresh (char :: text) := by
  intro next found
  rw [List.head?_cons, Option.mem_some] at found
  exact found ▸ fresh

/-- No control sequence reaches from the first text into the second one. -/
def Parts (left right : List Char) : Prop := IsClosed left ∨ IsFresh right

namespace Parts

variable {left right : List Char} {char : Char}

theorem of_append (before : List Char) (parts : Parts (before ++ left) right) :
    Parts left right := by
  rcases parts with closed | fresh
  · left
    intro last found
    exact closed last (by rw [List.getLast?_append, found, Option.some_or]; rfl)
  · exact .inr fresh

theorem isFresh_of_leavesOpen (parts : Parts (char :: left) right)
    (opens : ∀ other ∈ char :: left, leavesOpen other = true) : IsFresh right := by
  rcases parts with closed | fresh
  · obtain ⟨last, ends⟩ : ∃ last, (char :: left).getLast? = some last := ⟨_, rfl⟩
    have unfinished := opens last (List.mem_of_getLast? ends)
    rw [closed last ends] at unfinished
    cases unfinished
  · exact fresh

end Parts

/-! ## Parts of a text -/

section Parting

variable {text remaining more left right : List Char}

theorem not_isAlpha_of_isControlParameter {char : Char}
    (parameter : isControlParameter char = true) : char.isAlpha = false := by
  simp only [isControlParameter, Bool.or_eq_true, beq_iff_eq] at parameter
  rcases parameter with (rfl | rfl) | digit
  · decide
  · decide
  · obtain ⟨_, small⟩ : '0'.val ≤ char.val ∧ char.val ≤ '9'.val := by
      simpa [Char.isDigit] using digit
    have notUpper : ¬ 'A'.val ≤ char.val := fun large =>
      absurd (UInt32.le_trans large small) (by decide)
    have notLower : ¬ 'a'.val ≤ char.val := fun large =>
      absurd (UInt32.le_trans large small) (by decide)
    have letters : char.isAlpha =
        (decide ('A'.val ≤ char.val ∧ char.val ≤ 'Z'.val) ||
          (decide ('a'.val ≤ char.val) && decide (char.val ≤ 'z'.val))) := rfl
    rw [letters, decide_eq_false fun upper => notUpper upper.1, decide_eq_false notLower,
      Bool.false_and, Bool.or_self]

/-- What is found after the escape character is a control sequence and what remains. -/
theorem afterControl?_eq_some_iff :
    afterControl? text = some remaining ↔
      ∃ parameters final, text = '[' :: (parameters ++ final :: remaining) ∧
        (∀ char ∈ parameters, isControlParameter char = true) ∧ final.isAlpha = true := by
  constructor
  · intro found
    unfold afterControl? at found
    split at found
    next rest =>
      split at found
      next final others dropped =>
        split at found
        next letter =>
          cases found
          refine ⟨rest.takeWhile isControlParameter, final, ?_, ?_, letter⟩
          · rw [← dropped, List.takeWhile_append_dropWhile]
          · exact fun char member => List.mem_takeWhile_imp member
        next => cases found
      next => cases found
    next => cases found
  · rintro ⟨parameters, final, rfl, parameter, letter⟩
    have stops : isControlParameter final = false := by
      cases other : isControlParameter final with
      | false => rfl
      | true =>
          rw [not_isAlpha_of_isControlParameter other] at letter
          cases letter
    have dropped : (parameters ++ final :: remaining).dropWhile isControlParameter =
        final :: remaining := by
      rw [List.dropWhile_append_of_pos parameter, List.dropWhile_cons_of_neg (by simp [stops])]
    rw [afterControl?, dropped]
    exact if_pos letter

theorem afterControl?_append (found : afterControl? text = some remaining) :
    afterControl? (text ++ more) = some (remaining ++ more) := by
  obtain ⟨parameters, final, rfl, parameter, letter⟩ := afterControl?_eq_some_iff.mp found
  refine afterControl?_eq_some_iff.mpr ⟨parameters, final, ?_, parameter, letter⟩
  rw [List.cons_append, List.append_assoc, List.cons_append]

theorem afterControl?_eq_none_of_isFresh (fresh : IsFresh more) : afterControl? more = none := by
  unfold afterControl?
  split
  next rest => exact absurd (fresh '[' rfl) (by decide)
  next => rfl

/-- A sequence that is not there is not completed by a text that does not go on with it. -/
theorem afterControl?_append_eq_none (missing : afterControl? text = none)
    (parts : Parts (escapeChar :: text) more) : afterControl? (text ++ more) = none := by
  cases text with
  | nil =>
      have opens : ∀ other ∈ [escapeChar], leavesOpen other = true :=
        List.forall_mem_singleton.mpr (by decide)
      exact afterControl?_eq_none_of_isFresh (parts.isFresh_of_leavesOpen opens)
  | cons first rest =>
      by_cases bracket : first = '['
      · subst bracket
        simp only [afterControl?, List.cons_append, List.dropWhile_append] at missing ⊢
        cases dropped : rest.dropWhile isControlParameter with
        | nil =>
            -- Only parameters so far, so that the letter would have to come next.
            have parameter := List.dropWhile_eq_nil_iff.mp dropped
            have fresh := parts.isFresh_of_leavesOpen (by
              intro char member
              rcases List.mem_cons.mp member with rfl | member
              · decide
              · rcases List.mem_cons.mp member with rfl | member
                · decide
                · simp [leavesOpen, parameter char member])
            cases more with
            | nil => rfl
            | cons next more =>
                have stops := fresh next rfl
                simp only [goesOn, Bool.or_eq_false_iff] at stops
                simp [stops]
        | cons final others =>
            rw [dropped] at missing
            simpa using missing
      · unfold afterControl?
        split
        next same => exact absurd (List.cons.inj same).1 bracket
        next => rfl

theorem stripControls_append (parts : Parts left right) :
    stripControls (left ++ right) = stripControls left ++ stripControls right := by
  -- Along the passes of the removal: only what it leaves of the first text matters later.
  fun_induction stripControls left with
  | case1 => rfl
  | case2 rest remaining found ih =>
      obtain ⟨parameters, final, rfl, _, _⟩ := afterControl?_eq_some_iff.mp found
      have later : Parts remaining right := by
        apply Parts.of_append (escapeChar :: '[' :: (parameters ++ [final]))
        simpa using parts
      rw [List.cons_append, stripControls_of_some (afterControl?_append found), ih later]
  | case3 rest missing ih =>
      -- A lone escape character stays, as nothing in the second text completes it.
      rw [List.cons_append, List.cons_append,
        stripControls_of_none (afterControl?_append_eq_none missing parts),
        ih (parts.of_append [escapeChar])]
  | case4 char rest other ih =>
      rw [List.cons_append, List.cons_append, stripControls_of_ne other,
        ih (parts.of_append [char])]

end Parting

/-! ## Sequences put in -/

/-- A whole control sequence and nothing else, or nothing at all. -/
def IsInvisible (code : List Char) : Prop :=
  code = [] ∨ ∃ rest, code = escapeChar :: rest ∧ afterControl? rest = some []

/-- What is put in between parted texts leaves no trace if it is invisible. -/
theorem stripControls_insert {code left right : List Char} (invisible : IsInvisible code)
    (parts : Parts left right) :
    stripControls (left ++ (code ++ right)) = stripControls (left ++ right) := by
  rcases invisible with rfl | ⟨rest, rfl, whole⟩
  · rfl
  · have before : Parts left (escapeChar :: rest ++ right) := .inr (.cons (by decide) _)
    rw [stripControls_append before, stripControls_append parts, List.cons_append,
      stripControls_of_some (afterControl?_append whole), List.nil_append]

end ExprLexer.Text
