import ExprLexer.Proofs.Text.CharClasses
import ExprLexer.Proofs.Text.Lines

/-! Lines as every kind of line break makes them, and how they lie to the lines
that line feeds alone make. The two agree until a break without a line feed. -/

set_option autoImplicit false

namespace ExprLexer.Text

/-- How many line breaks a text has. A carriage return and a line feed together are one. -/
def countBreaks : List Char → Nat
  | [] => 0
  | '\r' :: '\n' :: rest => countBreaks rest + 1
  | char :: rest => if isLineBreak char then countBreaks rest + 1 else countBreaks rest

/-- Whether one of the line breaks of a text is without a line feed. -/
def hasLoneBreak : List Char → Bool
  | [] => false
  | '\r' :: '\n' :: rest => hasLoneBreak rest
  | char :: rest => (isLineBreak char && char != '\n') || hasLoneBreak rest

/-- What a text has after its last line break. -/
def openLine (text : List Char) : List Char := text.rtakeWhile fun char => !isLineBreak char

variable {char : Char} {text before line rest : List Char}

/-! ## Single steps -/

theorem splitLines_cons_of_isLineBreak (ending : isLineBreak char = true)
    (unpaired : ∀ rest, char = '\r' → text = '\n' :: rest → False) :
    splitLines (char :: text) = [] :: splitLines text := by
  rw [splitLines.eq_3 char text unpaired, if_pos ending]

theorem splitLines_ne_nil (nonempty : text ≠ []) : splitLines text ≠ [] := by
  fun_cases splitLines text with
  | case1 => exact absurd rfl nonempty
  | case2 => simp
  | case3 => simp
  | case4 => simp
  | case5 => simp

theorem splitLines_cons_of_not_isLineBreak (inside : isLineBreak char = false)
    (nonempty : text ≠ []) :
    splitLines (char :: text) = (splitLines text).modifyHead (char :: ·) := by
  have unpaired : ∀ rest, char = '\r' → text = '\n' :: rest → False := by
    intro rest same _
    subst same
    exact absurd inside (by decide)
  rw [splitLines.eq_3 char text unpaired, if_neg (by simp [inside])]
  cases lines : splitLines text with
  | nil => exact absurd lines (splitLines_ne_nil nonempty)
  | cons line lines => rfl

theorem head?_splitLines (nonempty : text ≠ []) :
    (splitLines text)[0]? = some (text.takeWhile fun char => !isLineBreak char) := by
  fun_induction splitLines text with
  | case1 => exact absurd rfl nonempty
  | case2 rest _ =>
      have feed : isLineBreak '\r' = true := by decide
      simp [feed]
  | case3 char rest _ ending _ => simp [ending]
  | case4 char rest _ inside lines _ =>
      have empty : rest = [] := by
        by_contra nonempty
        exact splitLines_ne_nil nonempty lines
      simp [empty, inside]
  | case5 char rest _ inside line lines split ih =>
      have nonempty : rest ≠ [] := by
        intro same
        subst same
        cases split
      have first := ih nonempty
      rw [split, List.getElem?_cons_zero, Option.some.injEq] at first
      simp [inside, first]

theorem openLine_append_cons (ending : isLineBreak char = true) (before rest : List Char) :
    openLine (before ++ char :: rest) = openLine rest :=
  rtakeWhile_append_cons (by simp [ending])

theorem countBreaks_eq_zero_iff :
    countBreaks text = 0 ↔ ∀ char ∈ text, isLineBreak char = false := by
  fun_induction countBreaks text with
  | case1 => simp
  | case2 rest ih =>
      have feed : isLineBreak '\r' = true := by decide
      simp [feed]
  | case3 char rest _ ending ih => simp [ending]
  | case4 char rest _ inside ih => simp [inside, ih]

theorem openLine_cons (inside : isLineBreak char = false) :
    openLine (char :: text) =
      if countBreaks text = 0 then char :: openLine text else openLine text := by
  have all : (text.all fun char => !isLineBreak char) = true ↔ countBreaks text = 0 := by
    rw [countBreaks_eq_zero_iff, List.all_eq_true]
    simp only [Bool.not_eq_true']
  have passes : (!isLineBreak char) = true := by simp [inside]
  have run : (char :: text).rtakeWhile (fun char => !isLineBreak char) = _ :=
    rtakeWhile_cons passes
  rwa [if_congr all rfl rfl] at run

/-! ## The lines of a longer text -/

def OpensWithin (text : List Char) : Prop := ∃ next ∈ text.head?, isLineBreak next = false

theorem OpensWithin.ne_nil (opens : OpensWithin rest) : rest ≠ [] := by
  intro same
  subst same
  obtain ⟨next, found, _⟩ := opens
  cases found

/-- A carriage return that no line feed follows stays so when the text goes on within a line. -/
theorem OpensWithin.unpaired (opens : OpensWithin rest)
    (unpaired : ∀ others, char = '\r' → before = '\n' :: others → False)
    (others : List Char) (carriage : char = '\r') : before ++ rest = '\n' :: others → False := by
  intro same
  cases before with
  | nil =>
      obtain ⟨next, found, inside⟩ := opens
      rw [List.nil_append] at same
      rw [same] at found
      cases found
      exact absurd inside (by decide)
  | cons next before =>
      obtain ⟨rfl, _⟩ := List.cons.inj same
      exact unpaired before carriage rfl

/-- The line around a place: what the text has after the last line break, and
what follows up to the next one. -/
theorem getElem?_splitLines_countBreaks (opens : OpensWithin rest) (before : List Char) :
    (splitLines (before ++ rest))[countBreaks before]? =
      some (openLine before ++ rest.takeWhile fun char => !isLineBreak char) := by
  fun_induction countBreaks before with
  | case1 => exact head?_splitLines opens.ne_nil
  | case2 before ih =>
      have skipped : openLine ('\r' :: '\n' :: before) = openLine before :=
        openLine_append_cons (by decide) ['\r'] before
      rw [List.cons_append, List.cons_append, splitLines, List.getElem?_cons_succ, ih, skipped]
  | case3 first before unpaired ending ih =>
      have skipped : openLine (first :: before) = openLine before :=
        openLine_append_cons ending [] before
      rw [List.cons_append, splitLines_cons_of_isLineBreak ending (opens.unpaired unpaired),
        List.getElem?_cons_succ, ih, skipped]
  | case4 first before unpaired notEnding ih =>
      have firstInside : isLineBreak first = false := by simpa using notEnding
      rw [List.cons_append, splitLines_cons_of_not_isLineBreak firstInside (by simp [opens.ne_nil]),
        List.getElem?_modifyHead, ih, openLine_cons firstInside]
      split <;> rfl

theorem getElem?_splitLines_of_lt (opens : OpensWithin rest) {index : Nat}
    (ended : index < countBreaks before) :
    (splitLines (before ++ rest))[index]? = (splitLines before)[index]? := by
  fun_induction countBreaks before generalizing index with
  | case1 => cases ended
  | case2 before ih =>
      rw [List.cons_append, List.cons_append, splitLines, splitLines]
      cases index with
      | zero => rfl
      | succ index => exact ih (Nat.lt_of_succ_lt_succ ended)
  | case3 first before unpaired ending ih =>
      rw [List.cons_append, splitLines_cons_of_isLineBreak ending (opens.unpaired unpaired),
        splitLines_cons_of_isLineBreak ending unpaired]
      cases index with
      | zero => rfl
      | succ index => exact ih (Nat.lt_of_succ_lt_succ ended)
  | case4 first before unpaired notEnding ih =>
      have firstInside : isLineBreak first = false := by simpa using notEnding
      have nonempty : before ≠ [] := by
        intro same
        subst same
        cases ended
      rw [List.cons_append, splitLines_cons_of_not_isLineBreak firstInside (by simp [opens.ne_nil]),
        splitLines_cons_of_not_isLineBreak firstInside nonempty, List.getElem?_modifyHead,
        List.getElem?_modifyHead, ih ended]

/-! ## Whole lines -/

theorem splitLines_of_unbroken (nonempty : line ≠ [])
    (unbroken : ∀ char ∈ line, isLineBreak char = false) : splitLines line = [line] := by
  induction line with
  | nil => exact absurd rfl nonempty
  | cons char line ih =>
      obtain ⟨inside, rest⟩ := List.forall_mem_cons.mp unbroken
      cases line with
      | nil => simp [splitLines, inside]
      | cons next line =>
          rw [splitLines_cons_of_not_isLineBreak inside (List.cons_ne_nil _ _),
            ih (List.cons_ne_nil _ _) rest]
          rfl

theorem splitLines_append_cons (unbroken : ∀ char ∈ line, isLineBreak char = false)
    (ending : isLineBreak char = true)
    (unpaired : ∀ others, char = '\r' → rest = '\n' :: others → False) :
    splitLines (line ++ char :: rest) = line :: splitLines rest := by
  induction line with
  | nil => exact splitLines_cons_of_isLineBreak ending unpaired
  | cons first line ih =>
      obtain ⟨inside, others⟩ := List.forall_mem_cons.mp unbroken
      rw [List.cons_append, splitLines_cons_of_not_isLineBreak inside (by simp), ih others]
      rfl

theorem not_isLineBreak_of_mem_splitLines (member : line ∈ splitLines text) :
    ∀ char ∈ line, isLineBreak char = false := by
  fun_induction splitLines text generalizing line with
  | case1 => cases member
  | case2 rest ih =>
      rcases List.mem_cons.mp member with rfl | later
      · simp
      · exact ih later
  | case3 first rest _ _ ih =>
      rcases List.mem_cons.mp member with rfl | later
      · simp
      · exact ih later
  | case4 first rest _ inside _ _ =>
      rw [List.mem_singleton.mp member]
      simpa using inside
  | case5 first rest _ inside head lines split ih =>
      rw [split] at ih
      rcases List.mem_cons.mp member with rfl | later
      · exact List.forall_mem_cons.mpr ⟨by simpa using inside, ih List.mem_cons_self⟩
      · exact ih (List.mem_cons_of_mem _ later)

def IsOneLine (text : List Char) : Prop := ∀ char ∈ text, isLineBreak char = false

instance (text : List Char) : Decidable (IsOneLine text) :=
  List.decidableBAll (fun char => isLineBreak char = false) text

theorem IsOneLine.append (first : IsOneLine before) (second : IsOneLine rest) :
    IsOneLine (before ++ rest) :=
  List.forall_mem_append.mpr ⟨first, second⟩

/-- Rows joined by line feeds are the lines of the whole. Only a last row without a
character would be lost. -/
theorem splitLines_intercalate {rows : List (List Char)} (unbroken : ∀ row ∈ rows, IsOneLine row)
    (visible : ∀ row ∈ rows.getLast?, row ≠ []) :
    splitLines (['\n'].intercalate rows) = rows := by
  induction rows with
  | nil => rfl
  | cons row rows ih =>
      obtain ⟨first, others⟩ := List.forall_mem_cons.mp unbroken
      cases rows with
      | nil =>
          rw [List.intercalate_singleton]
          exact splitLines_of_unbroken (visible row rfl) first
      | cons next rows =>
          have later := ih others fun last found => visible last (by simpa using found)
          rw [List.intercalate_cons_cons, List.append_assoc, List.singleton_append,
            splitLines_append_cons first (by decide) (fun _ carriage => absurd carriage (by decide)),
            later]

/-- Nothing but whole lines is before a place. -/
def EndsLine (text : List Char) : Prop := ∀ last ∈ text.getLast?, isLineBreak last = true

/-- After whole lines a text goes on in lines of its own, since no carriage return pairs
with what follows. -/
theorem splitLines_append_of_endsLine (ended : EndsLine before) (single : '\r' ∉ before)
    (rest : List Char) : splitLines (before ++ rest) = splitLines before ++ splitLines rest := by
  induction before with
  | nil => rfl
  | cons first before ih =>
      obtain ⟨notCarriage, others⟩ : '\r' ≠ first ∧ '\r' ∉ before := by simpa using single
      have unpaired (text : List Char) : ∀ others, first = '\r' → text = '\n' :: others → False :=
        fun _ carriage _ => notCarriage carriage.symm
      have lines : splitLines (before ++ rest) = splitLines before ++ splitLines rest := by
        refine ih (fun last found => ended last ?_) others
        cases before with
        | nil => cases found
        | cons next before => exact found
      cases ending : isLineBreak first with
      | true =>
          rw [List.cons_append, splitLines_cons_of_isLineBreak ending (unpaired _),
            splitLines_cons_of_isLineBreak ending (unpaired _), lines, List.cons_append]
      | false =>
          have nonempty : before ≠ [] := by
            intro empty
            subst empty
            have broken := ended first rfl
            rw [ending] at broken
            cases broken
          rw [List.cons_append, splitLines_cons_of_not_isLineBreak ending (by simp [nonempty]),
            splitLines_cons_of_not_isLineBreak ending nonempty, lines]
          cases split : splitLines before with
          | nil => exact absurd split (splitLines_ne_nil nonempty)
          | cons line lines => rfl

theorem carriageReturn_not_mem_normalizeNewlines (text : List Char) :
    '\r' ∉ normalizeNewlines text := by
  fun_induction normalizeNewlines text with
  | case1 => simp
  | case2 rest ih => simpa using ih
  | case3 rest _ ih => simpa using ih
  | case4 char rest _ other ih =>
      rw [List.mem_cons, not_or]
      exact ⟨fun carriage => other carriage.symm, ih⟩

/-! ## Lone breaks -/

theorem count_newline_le_countBreaks (text : List Char) : text.count '\n' ≤ countBreaks text := by
  fun_induction countBreaks text with
  | case1 => simp
  | case2 rest ih => simpa using ih
  | case3 char rest _ _ ih =>
      rw [List.count_cons]
      split <;> omega
  | case4 char rest _ inside ih =>
      have other : char ≠ '\n' := by
        intro same
        subst same
        exact inside (by decide)
      rw [List.count_cons_of_ne other]
      exact ih

theorem count_newline_eq_countBreaks_iff (text : List Char) :
    text.count '\n' = countBreaks text ↔ hasLoneBreak text = false := by
  fun_induction countBreaks text with
  | case1 => simp [hasLoneBreak]
  | case2 rest ih => simpa [hasLoneBreak] using ih
  | case3 char rest unpaired ending ih =>
      rw [hasLoneBreak.eq_3 char rest unpaired, Bool.or_eq_false_iff, ← ih]
      by_cases feed : char = '\n'
      · simp [feed]
      · have fewer := count_newline_le_countBreaks rest
        rw [List.count_cons_of_ne feed]
        simp only [ending, Bool.true_and, bne_eq_false_iff_eq, feed, false_and, iff_false]
        omega
  | case4 char rest unpaired inside ih =>
      have other : char ≠ '\n' := by
        intro same
        subst same
        exact inside (by decide)
      rw [hasLoneBreak.eq_3 char rest unpaired, List.count_cons_of_ne other, ih]
      simp [inside]

theorem openLine_eq_lastLine (paired : hasLoneBreak text = false) :
    openLine text = lastLine text := by
  fun_induction hasLoneBreak text with
  | case1 => rfl
  | case2 rest ih =>
      have skipped : openLine ('\r' :: '\n' :: rest) = openLine rest :=
        openLine_append_cons (by decide) ['\r'] rest
      rw [skipped, ih paired]
      exact (lastLine_append_newline ['\r'] rest).symm
  | case3 char rest unpaired ih =>
      obtain ⟨notLone, restPaired⟩ := Bool.or_eq_false_iff.mp paired
      cases ending : isLineBreak char with
      | true =>
          obtain rfl : char = '\n' := by simpa [ending] using notLone
          have skipped : openLine ('\n' :: rest) = openLine rest :=
            openLine_append_cons ending [] rest
          rw [skipped, ih restPaired]
          exact (lastLine_append_newline [] rest).symm
      | false =>
          have other : char ≠ '\n' := by
            intro same
            subst same
            exact absurd ending (by decide)
          rw [openLine_cons ending, lastLine_cons other, ih restPaired,
            (count_newline_eq_countBreaks_iff rest).mpr restPaired]

end ExprLexer.Text
