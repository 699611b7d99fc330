import ExprLexer.Lexer
import Mathlib.Data.List.DropRight

/-! Lines as line feeds alone make them. A place in a text is the number of line
feeds before it and the length of what follows the last of them. -/

set_option autoImplicit false

namespace ExprLexer.Text

/-- What a text has after its last line feed. -/
def lastLine (text : List Char) : List Char := text.rtakeWhile (· != '\n')

/-- The characters of a line from one column to another, counted from one, both included. -/
def cutColumns (line : List Char) (start finish : Int) : List Char :=
  (line.drop (start - 1).toNat).take (finish - start + 1).toNat

section RightRuns

variable {α : Type} {test : α → Bool} {left right text : List α} {value : α}

theorem rtakeWhile_append_of_forall (all : ∀ value ∈ right, test value = true) :
    (left ++ right).rtakeWhile test = left.rtakeWhile test ++ right := by
  rw [List.rtakeWhile, List.reverse_append,
    List.takeWhile_append_of_pos fun value member => all value (List.mem_reverse.mp member),
    List.reverse_append, List.reverse_reverse, List.rtakeWhile]

/-- Nothing up to a value that fails the test counts for the last run. -/
theorem rtakeWhile_append_cons (fails : test value = false) :
    (left ++ value :: right).rtakeWhile test = right.rtakeWhile test := by
  induction right using List.reverseRecOn with
  | nil => simp [fails]
  | append_singleton right last ih =>
      rw [← List.cons_append, ← List.append_assoc, List.rtakeWhile_concat, List.rtakeWhile_concat,
        ih]

theorem rtakeWhile_cons (passes : test value = true) :
    (value :: text).rtakeWhile test =
      if text.all test then value :: text.rtakeWhile test else text.rtakeWhile test := by
  split
  next all =>
    have each := List.all_eq_true.mp all
    rw [List.rtakeWhile_eq_self_iff.mpr each,
      List.rtakeWhile_eq_self_iff.mpr (List.forall_mem_cons.mpr ⟨passes, each⟩)]
  next some =>
    obtain ⟨stop, member, stops⟩ : ∃ stop ∈ text, test stop = false := by simpa using some
    obtain ⟨left, right, rfl⟩ := List.append_of_mem member
    rw [← List.cons_append, rtakeWhile_append_cons stops, rtakeWhile_append_cons stops]

end RightRuns

theorem lastLine_append {before text : List Char} (within : '\n' ∉ text) :
    lastLine (before ++ text) = lastLine before ++ text :=
  rtakeWhile_append_of_forall fun char member => by
    simpa using ne_of_mem_of_not_mem member within

theorem count_append_of_not_mem {before text : List Char} (within : '\n' ∉ text) :
    (before ++ text).count '\n' = before.count '\n' := by
  rw [List.count_append, List.count_eq_zero.mpr within, Nat.add_zero]

/-- Places grow with the text: a line feed starts a later line, and any other
character a later column. -/
theorem place_lt_of_append {before text : List Char} (nonempty : text ≠ []) :
    before.count '\n' < (before ++ text).count '\n' ∨
      before.count '\n' = (before ++ text).count '\n' ∧
        (lastLine before).length < (lastLine (before ++ text)).length := by
  by_cases feed : '\n' ∈ text
  · left
    rw [List.count_append]
    have some := List.count_pos_iff.mpr feed
    omega
  · right
    rw [count_append_of_not_mem feed, lastLine_append feed, List.length_append]
    have some := List.length_pos_iff.mpr nonempty
    exact ⟨rfl, by omega⟩

theorem place_lt_of_lt {source : List Char} {start finish : Nat} (below : start < finish)
    (bound : finish ≤ source.length) :
    (source.take start).count '\n' < (source.take finish).count '\n' ∨
      (source.take start).count '\n' = (source.take finish).count '\n' ∧
        (lastLine (source.take start)).length < (lastLine (source.take finish)).length := by
  have split : source.take start ++ (source.take finish).drop start = source.take finish := by
    have shorter : (source.take finish).take start = source.take start := by
      rw [List.take_take, Nat.min_eq_left (Nat.le_of_lt below)]
    rw [← shorter, List.take_append_drop]
  rw [← split]
  apply place_lt_of_append
  rw [← List.length_pos_iff, List.length_drop, List.length_take]
  omega

theorem lastLine_append_newline (left right : List Char) :
    lastLine (left ++ '\n' :: right) = lastLine right :=
  rtakeWhile_append_cons (by decide)

theorem lastLine_cons {char : Char} {text : List Char} (other : char ≠ '\n') :
    lastLine (char :: text) =
      if text.count '\n' = 0 then char :: lastLine text else lastLine text := by
  have all : text.all (· != '\n') = true ↔ text.count '\n' = 0 := by
    rw [List.count_eq_zero, List.all_eq_true]
    simp only [bne_iff_ne]
    exact ⟨fun each member => each _ member rfl, fun absent char member => by
      intro same
      subst same
      exact absent member⟩
  have passes : (char != '\n') = true := bne_iff_ne.mpr other
  have run : (char :: text).rtakeWhile (· != '\n') = _ := rtakeWhile_cons passes
  rwa [if_congr all rfl rfl] at run

theorem head?_splitOn_newline (text : List Char) :
    (text.splitOn '\n')[0]? = some (text.takeWhile (· != '\n')) := by
  induction text with
  | nil => rfl
  | cons char text ih =>
      rw [List.splitOn_cons_eq_if_modifyHead]
      by_cases feed : char = '\n'
      · simp [feed]
      · simp [feed, List.getElem?_modifyHead, ih]

/-- The segment around a place: what the text has after the last line feed, and
what follows up to the next one. -/
theorem getElem?_splitOn_newline (before rest : List Char) :
    ((before ++ rest).splitOn '\n')[before.count '\n']? =
      some (lastLine before ++ rest.takeWhile (· != '\n')) := by
  induction before with
  | nil => exact head?_splitOn_newline rest
  | cons char before ih =>
      rw [List.cons_append, List.splitOn_cons_eq_if_modifyHead]
      by_cases feed : char = '\n'
      · subst feed
        rw [if_pos (BEq.refl _), List.count_cons_self, List.getElem?_cons_succ, ih]
        rw [← List.nil_append ('\n' :: before), lastLine_append_newline]
      · rw [if_neg (by simpa using feed), List.count_cons_of_ne (by simpa using feed),
          List.getElem?_modifyHead, ih, lastLine_cons feed]
        split <;> rfl

end ExprLexer.Text

namespace ExprLexer.Location

theorem advanceBy_start (line : Int) (text : List Char) :
    (start line).advanceBy text =
      ⟨text.length, line + text.count '\n', (Text.lastLine text).length + 1⟩ := by
  induction text using List.reverseRecOn with
  | nil => simp [start, advanceBy, Text.lastLine]
  | append_singleton text char ih =>
      have step : (start line).advanceBy (text ++ [char]) =
          ((start line).advanceBy text).advance char := List.foldl_concat ..
      rw [step, ih, advance]
      by_cases feed : char = '\n'
      · subst feed
        rw [if_pos rfl, Text.lastLine_append_newline]
        simp [Text.lastLine, Int.add_assoc]
      · have within : '\n' ∉ [char] := by simpa using Ne.symm feed
        rw [if_neg feed, Text.lastLine_append within, Text.count_append_of_not_mem within]
        simp

end ExprLexer.Location
