import ExprLexer.Proofs.Text.CharClasses
import Mathlib.Data.List.DropRight
import Mathlib.Data.List.TakeWhile

/-! The maximal split of a source. What a piece is does not depend on any way of
finding it; one pass over the source then finds exactly the pieces, in order. -/

set_option autoImplicit false

namespace ExprLexer

/-- A text at its place in a source, between what is before and what is after it. -/
structure Piece where
  before : List Char
  text : List Char
  after : List Char
  deriving DecidableEq

namespace Piece

/-- A run of word characters that can be extended to neither side. -/
structure IsWord (piece : Piece) : Prop where
  nonempty : piece.text ≠ []
  wordChars : ∀ char ∈ piece.text, Lexer.isWordChar char = true
  opens : ∀ char ∈ piece.before.getLast?, Lexer.isWordChar char = false
  closes : ∀ char ∈ piece.after.head?, Lexer.isWordChar char = false

/-- A single character that neither separates nor belongs to a word. -/
def IsSymbol (piece : Piece) : Prop :=
  ∃ char, piece.text = [char] ∧ Text.isBlank char = false ∧ Lexer.isWordChar char = false

/-- A word or a symbol at a place of the given source. -/
structure IsPieceOf (source : List Char) (piece : Piece) : Prop where
  whole : piece.before ++ piece.text ++ piece.after = source
  shape : piece.IsWord ∨ piece.IsSymbol

end Piece

/-- All the pieces of a source, from left to right. -/
structure IsSplit (source : List Char) (pieces : List Piece) : Prop where
  ordered : pieces.Pairwise fun earlier later => earlier.before.length < later.before.length
  complete : ∀ piece, piece ∈ pieces ↔ piece.IsPieceOf source

/-- One pass over a text that stands after another one. -/
def piecesAfter (before : List Char) : List Char → List Piece
  | [] => []
  | char :: rest =>
      if Text.isBlank char then piecesAfter (before ++ [char]) rest
      else if Lexer.isWordChar char then
        let word := char :: rest.takeWhile Lexer.isWordChar
        let remaining := rest.dropWhile Lexer.isWordChar
        ⟨before, word, remaining⟩ :: piecesAfter (before ++ word) remaining
      else ⟨before, [char], rest⟩ :: piecesAfter (before ++ [char]) rest
  termination_by text => text.length
  decreasing_by
    · simp
    · simp only [List.length_cons]
      exact Nat.lt_succ_of_le (List.dropWhile_sublist Lexer.isWordChar |>.length_le)
    · simp

def pieces (source : List Char) : List Piece := piecesAfter [] source

namespace Piece

variable {source before rest : List Char} {piece other : Piece} {char : Char}

theorem IsPieceOf.text_ne_nil (valid : piece.IsPieceOf source) : piece.text ≠ [] := by
  rcases valid.shape with word | ⟨char, single, _, _⟩
  · exact word.nonempty
  · simp [single]

theorem IsPieceOf.not_blank (valid : piece.IsPieceOf source) (member : char ∈ piece.text) :
    Text.isBlank char = false := by
  rcases valid.shape with word | ⟨symbol, single, notBlank, _⟩
  · exact Lexer.not_isBlank_of_isWordChar (word.wordChars char member)
  · rw [single, List.mem_singleton] at member
    exact member ▸ notBlank

theorem IsPieceOf.isWord_of_mem (valid : piece.IsPieceOf source) (member : char ∈ piece.text)
    (wordChar : Lexer.isWordChar char = true) : piece.IsWord := by
  rcases valid.shape with word | ⟨symbol, single, _, notWord⟩
  · exact word
  · rw [single, List.mem_singleton] at member
    rw [member, notWord] at wordChar
    cases wordChar

theorem IsPieceOf.isWord_of_wordChars (valid : piece.IsPieceOf source)
    (wordChars : ∀ char ∈ piece.text, Lexer.isWordChar char = true) : piece.IsWord := by
  obtain ⟨first, others, shape⟩ := List.exists_cons_of_ne_nil valid.text_ne_nil
  have member : first ∈ piece.text := shape ▸ List.mem_cons_self
  exact valid.isWord_of_mem member (wordChars first member)

theorem IsPieceOf.isSymbol_of_mem (valid : piece.IsPieceOf source) (member : char ∈ piece.text)
    (notWord : Lexer.isWordChar char = false) : piece.IsSymbol := by
  rcases valid.shape with word | symbol
  · rw [word.wordChars char member] at notWord
    cases notWord
  · exact symbol

theorem IsPieceOf.starts_at_or_after (valid : piece.IsPieceOf (before ++ char :: rest))
    (notEarlier : before.length ≤ piece.before.length) :
    (∃ tail, piece.before = before ∧ piece.text = char :: tail ∧ tail ++ piece.after = rest) ∨
      (before ++ [char]).length ≤ piece.before.length := by
  rcases Nat.eq_or_lt_of_le notEarlier with same | later
  · left
    have split := valid.whole
    rw [List.append_assoc] at split
    obtain ⟨beforeEq, restEq⟩ := List.append_inj split same.symm
    cases shape : piece.text with
    | nil => exact absurd shape valid.text_ne_nil
    | cons first tail =>
        rw [shape, List.cons_append] at restEq
        obtain ⟨rfl, tailEq⟩ := List.cons.inj restEq
        exact ⟨tail, beforeEq, rfl, tailEq⟩
  · right
    rw [List.length_append, List.length_singleton]
    exact later

theorem IsPieceOf.first_eq (valid : piece.IsPieceOf source) :
    source[piece.before.length]? = piece.text.head? := by
  rw [← valid.whole, List.append_assoc, List.getElem?_append_right (Nat.le_refl _),
    Nat.sub_self, ← List.head?_eq_getElem?, List.head?_append]
  cases shape : piece.text with
  | nil => exact absurd shape valid.text_ne_nil
  | cons first tail => rfl

theorem IsPieceOf.previous_eq (valid : piece.IsPieceOf source) (inside : 0 < piece.before.length) :
    source[piece.before.length - 1]? = piece.before.getLast? := by
  rw [← valid.whole, List.append_assoc, List.getElem?_append_left (by omega),
    List.getLast?_eq_getElem?]

theorem IsPieceOf.not_within_run {run remaining : List Char}
    (valid : piece.IsPieceOf (before ++ run ++ remaining))
    (wordChars : ∀ char ∈ run, Lexer.isWordChar char = true)
    (later : before.length < piece.before.length) :
    (before ++ run).length ≤ piece.before.length := by
  by_contra inside
  rw [List.length_append] at inside
  have inRun : ∀ offset, before.length ≤ offset → offset < before.length + run.length →
      ∀ char ∈ (before ++ run ++ remaining)[offset]?, Lexer.isWordChar char = true := by
    intro offset above below char found
    rw [List.getElem?_append_left (by rw [List.length_append]; omega),
      List.getElem?_append_right above] at found
    exact wordChars char (List.mem_of_getElem? found)
  cases first : piece.text.head? with
  | none => exact valid.text_ne_nil (List.head?_eq_none_iff.mp first)
  | some head =>
      have headIsWord := inRun piece.before.length (by omega) (by omega) head
        (valid.first_eq.trans first)
      have word := valid.isWord_of_mem (List.mem_of_mem_head? first) headIsWord
      cases previous : piece.before.getLast? with
      | none =>
          rw [List.getLast?_eq_none_iff.mp previous] at later
          simp at later
      | some last =>
          have lastIsWord := inRun (piece.before.length - 1) (by omega) (by omega) last
            ((valid.previous_eq (by omega)).trans previous)
          rw [word.opens last previous] at lastIsWord
          cases lastIsWord

/-- A piece that starts where a word character starts after no word character
is the whole run from there. -/
theorem IsPieceOf.eq_run {tail : List Char} (valid : piece.IsPieceOf source)
    (beforeEq : piece.before = before) (textEq : piece.text = char :: tail)
    (restEq : tail ++ piece.after = rest) (wordChar : Lexer.isWordChar char = true) :
    piece = ⟨before, char :: rest.takeWhile Lexer.isWordChar,
      rest.dropWhile Lexer.isWordChar⟩ := by
  have word := valid.isWord_of_mem (textEq ▸ List.mem_cons_self) wordChar
  have tailWord : ∀ other ∈ tail, Lexer.isWordChar other = true := fun other member =>
    word.wordChars other (textEq ▸ List.mem_cons_of_mem _ member)
  have stops : piece.after.takeWhile Lexer.isWordChar = [] := by
    cases following : piece.after with
    | nil => rfl
    | cons next others =>
        have closed := word.closes next (by rw [following]; rfl)
        rw [List.takeWhile_cons_of_neg (by simp [closed])]
  have stays : piece.after.dropWhile Lexer.isWordChar = piece.after := by
    have whole := List.takeWhile_append_dropWhile (p := Lexer.isWordChar) (l := piece.after)
    rwa [stops, List.nil_append] at whole
  rw [← restEq, List.takeWhile_append_of_pos tailWord, List.dropWhile_append_of_pos tailWord,
    stops, stays, List.append_nil, ← textEq, ← beforeEq]

theorem IsPieceOf.eq_symbol {tail : List Char} (valid : piece.IsPieceOf source)
    (beforeEq : piece.before = before) (textEq : piece.text = char :: tail)
    (restEq : tail ++ piece.after = rest) (notWord : Lexer.isWordChar char = false) :
    piece = ⟨before, [char], rest⟩ := by
  obtain ⟨symbol, single, _, _⟩ :=
    valid.isSymbol_of_mem (textEq ▸ List.mem_cons_self) notWord
  rw [textEq, List.cons.injEq] at single
  obtain ⟨rfl, rfl⟩ := single
  rw [← beforeEq, ← restEq, ← textEq]
  rfl

theorem isPieceOf_run (text : List Char)
    (opens : ∀ last ∈ before.getLast?, Lexer.isWordChar last = false)
    (starts : text.takeWhile Lexer.isWordChar ≠ []) :
    (⟨before, text.takeWhile Lexer.isWordChar,
      text.dropWhile Lexer.isWordChar⟩ : Piece).IsPieceOf (before ++ text) := by
  refine ⟨by simp [List.takeWhile_append_dropWhile], .inl ⟨starts, ?_, opens, ?_⟩⟩
  · intro other member
    exact List.mem_takeWhile_imp member
  · intro next found
    have stopped := List.head?_dropWhile_not Lexer.isWordChar text
    rw [Option.mem_def.mp found] at stopped
    exact stopped

theorem isPieceOf_symbol (notBlank : Text.isBlank char = false)
    (notWord : Lexer.isWordChar char = false) :
    (⟨before, [char], rest⟩ : Piece).IsPieceOf (before ++ char :: rest) :=
  ⟨by simp, .inr ⟨char, rfl, notBlank, notWord⟩⟩

structure IsPieceFrom (source : List Char) (offset : Nat) (piece : Piece) : Prop where
  isPieceOf : piece.IsPieceOf source
  notEarlier : offset ≤ piece.before.length

theorem not_isPieceFrom_length : ¬piece.IsPieceFrom source source.length := by
  intro start
  have lengths := congrArg List.length start.isPieceOf.whole
  have nonempty := List.length_pos_iff.mpr start.isPieceOf.text_ne_nil
  have late := start.notEarlier
  simp only [List.length_append] at lengths
  omega

theorem isPieceFrom_iff_of_isBlank (blank : Text.isBlank char = true) :
    piece.IsPieceFrom (before ++ char :: rest) before.length ↔
      piece.IsPieceFrom (before ++ char :: rest) (before ++ [char]).length := by
  constructor
  · intro start
    rcases start.isPieceOf.starts_at_or_after start.notEarlier with ⟨tail, _, textEq, _⟩ | later
    · have notBlank := start.isPieceOf.not_blank (textEq ▸ List.mem_cons_self)
      rw [blank] at notBlank
      cases notBlank
    · exact ⟨start.isPieceOf, later⟩
  · intro start
    have later := start.notEarlier
    rw [List.length_append] at later
    exact ⟨start.isPieceOf, by omega⟩

theorem isPieceFrom_iff_of_symbol (notBlank : Text.isBlank char = false)
    (notWord : Lexer.isWordChar char = false) :
    piece.IsPieceFrom (before ++ char :: rest) before.length ↔
      piece = ⟨before, [char], rest⟩ ∨
        piece.IsPieceFrom (before ++ char :: rest) (before ++ [char]).length := by
  constructor
  · intro start
    rcases start.isPieceOf.starts_at_or_after start.notEarlier with
      ⟨tail, beforeEq, textEq, restEq⟩ | later
    · exact .inl (start.isPieceOf.eq_symbol beforeEq textEq restEq notWord)
    · exact .inr ⟨start.isPieceOf, later⟩
  · intro found
    rcases found with rfl | start
    · exact ⟨isPieceOf_symbol notBlank notWord, Nat.le_refl _⟩
    · have later := start.notEarlier
      rw [List.length_append] at later
      exact ⟨start.isPieceOf, by omega⟩

theorem isPieceFrom_iff_of_isWordChar (wordChar : Lexer.isWordChar char = true)
    (opens : ∀ last ∈ before.getLast?, Lexer.isWordChar last = false) :
    piece.IsPieceFrom (before ++ char :: rest) before.length ↔
      piece = ⟨before, char :: rest.takeWhile Lexer.isWordChar,
          rest.dropWhile Lexer.isWordChar⟩ ∨
        piece.IsPieceFrom (before ++ char :: rest)
          (before ++ char :: rest.takeWhile Lexer.isWordChar).length := by
  have run := isPieceOf_run (char :: rest) opens
    (by simp [List.takeWhile_cons_of_pos wordChar])
  rw [List.takeWhile_cons_of_pos wordChar, List.dropWhile_cons_of_pos wordChar] at run
  constructor
  · intro start
    rcases start.isPieceOf.starts_at_or_after start.notEarlier with
      ⟨tail, beforeEq, textEq, restEq⟩ | later
    · exact .inl (start.isPieceOf.eq_run beforeEq textEq restEq wordChar)
    · right
      have wordChars : ∀ other ∈ char :: rest.takeWhile Lexer.isWordChar,
          Lexer.isWordChar other = true :=
        (run.isWord_of_mem List.mem_cons_self wordChar).wordChars
      have valid := start.isPieceOf
      rw [← run.whole] at valid
      rw [List.length_append, List.length_singleton] at later
      exact ⟨start.isPieceOf, valid.not_within_run wordChars (Nat.lt_of_succ_le later)⟩
  · intro found
    rcases found with rfl | start
    · exact ⟨run, Nat.le_refl _⟩
    · have later := start.notEarlier
      rw [List.length_append] at later
      exact ⟨start.isPieceOf, by omega⟩

end Piece

section Pass

variable {before text source : List Char}

/-- A pass finds exactly the pieces from its start on, provided that it does not
start within a word. -/
theorem mem_piecesAfter_iff
    (boundary : ∀ last ∈ before.getLast?, Lexer.isWordChar last = true →
      ∀ next ∈ text.head?, Lexer.isWordChar next = false) (piece : Piece) :
    piece ∈ piecesAfter before text ↔ piece.IsPieceFrom (before ++ text) before.length := by
  fun_induction piecesAfter before text with
  | case1 before =>
      rw [List.append_nil]
      simp only [List.not_mem_nil, false_iff]
      exact Piece.not_isPieceFrom_length
  | case2 before char rest blank ih =>
      rw [ih (by simp [Lexer.not_isWordChar_of_isBlank blank]), ← List.append_cons,
        Piece.isPieceFrom_iff_of_isBlank blank]
  | case3 before char rest notBlank wordChar word remaining ih =>
      -- The pass is not within a word, so the run that starts here is a whole one.
      have opens : ∀ last ∈ before.getLast?, Lexer.isWordChar last = false := by
        intro last found
        cases lastWord : Lexer.isWordChar last with
        | false => rfl
        | true =>
            have closed := boundary last found lastWord char rfl
            rw [wordChar] at closed
            cases closed
      have closes : ∀ next ∈ remaining.head?, Lexer.isWordChar next = false := by
        intro next found
        have stops := List.head?_dropWhile_not Lexer.isWordChar rest
        rw [Option.mem_def.mp found] at stops
        exact stops
      have whole : before ++ word ++ remaining = before ++ char :: rest := by
        simp [word, remaining, List.takeWhile_append_dropWhile]
      rw [List.mem_cons, ih fun _ _ _ => closes, whole,
        Piece.isPieceFrom_iff_of_isWordChar wordChar opens]
  | case4 before char rest notBlank notWord ih =>
      simp only [Bool.not_eq_true] at notBlank notWord
      rw [List.mem_cons, ih (by simp [notWord]), ← List.append_cons,
        Piece.isPieceFrom_iff_of_symbol notBlank notWord]

theorem before_length_le_of_mem_piecesAfter {piece : Piece}
    (member : piece ∈ piecesAfter before text) : before.length ≤ piece.before.length := by
  fun_induction piecesAfter before text with
  | case1 => cases member
  | case2 before char rest _ ih =>
      have later := ih member
      rw [List.length_append] at later
      omega
  | case3 before char rest _ _ word remaining ih =>
      rcases List.mem_cons.mp member with rfl | member
      · exact Nat.le_refl _
      · have later := ih member
        rw [List.length_append] at later
        omega
  | case4 before char rest _ _ ih =>
      rcases List.mem_cons.mp member with rfl | member
      · exact Nat.le_refl _
      · have later := ih member
        rw [List.length_append] at later
        omega

theorem piecesAfter_ordered (before text : List Char) :
    (piecesAfter before text).Pairwise fun earlier later =>
      earlier.before.length < later.before.length := by
  fun_induction piecesAfter before text with
  | case1 => exact .nil
  | case2 _ _ _ _ ih => exact ih
  | case3 before char rest _ _ word remaining ih =>
      refine .cons ?_ ih
      intro piece member
      have later := before_length_le_of_mem_piecesAfter member
      simp only [List.length_append, word, List.length_cons] at later
      show before.length < piece.before.length
      omega
  | case4 before char rest _ _ ih =>
      refine .cons ?_ ih
      intro piece member
      have later := before_length_le_of_mem_piecesAfter member
      simp only [List.length_append, List.length_singleton] at later
      show before.length < piece.before.length
      omega

theorem isSplit_pieces (source : List Char) : IsSplit source (pieces source) := by
  refine ⟨piecesAfter_ordered [] source, fun piece => ?_⟩
  rw [pieces, mem_piecesAfter_iff (by simp)]
  exact ⟨fun start => start.isPieceOf, fun valid => ⟨valid, Nat.zero_le _⟩⟩

theorem IsSplit.unique {left right : List Piece} (first : IsSplit source left)
    (second : IsSplit source right) : left = right := by
  have nodup {list : List Piece} (split : IsSplit source list) : list.Nodup :=
    split.ordered.imp fun earlier same => absurd (same ▸ earlier) (Nat.lt_irrefl _)
  refine List.Perm.eq_of_pairwise ?_ first.ordered second.ordered ?_
  · intro one other _ _ below above
    exact absurd below (Nat.lt_asymm above)
  · rw [List.perm_ext_iff_of_nodup (nodup first) (nodup second)]
    intro piece
    rw [first.complete, second.complete]

theorem isSplit_iff_eq_pieces {list : List Piece} : IsSplit source list ↔ list = pieces source := by
  constructor
  · intro split
    exact split.unique (isSplit_pieces source)
  · intro same
    subst same
    exact isSplit_pieces source

theorem mem_pieces_iff {piece : Piece} : piece ∈ pieces source ↔ piece.IsPieceOf source :=
  (isSplit_pieces source).complete piece

end Pass

/-! ## Pieces cover what is not blank, once -/

namespace Piece

variable {source : List Char} {piece other : Piece} {char : Char} {offset : Nat}

def Holds (piece : Piece) (offset : Nat) : Prop :=
  piece.before.length ≤ offset ∧ offset < piece.before.length + piece.text.length

theorem IsPieceOf.getElem?_of_holds (valid : piece.IsPieceOf source) (holds : piece.Holds offset) :
    ∃ char ∈ piece.text, source[offset]? = some char := by
  obtain ⟨lower, upper⟩ := holds
  have bound : offset - piece.before.length < piece.text.length := by omega
  refine ⟨piece.text[offset - piece.before.length], List.getElem_mem bound, ?_⟩
  rw [← valid.whole, List.append_assoc, List.getElem?_append_right lower,
    List.getElem?_append_left bound, List.getElem?_eq_getElem bound]

/-- Of two pieces of a source the earlier one ends before the later one starts. -/
theorem IsPieceOf.ends_before (valid : piece.IsPieceOf source) (otherValid : other.IsPieceOf source)
    (earlier : piece.before.length < other.before.length) :
    piece.before.length + piece.text.length ≤ other.before.length := by
  rcases valid.shape with word | ⟨symbol, single, _, _⟩
  · have split := otherValid
    rw [← valid.whole] at split
    have bound := split.not_within_run word.wordChars earlier
    rwa [List.length_append] at bound
  · rw [single, List.length_singleton]
    exact earlier

theorem IsPieceOf.trichotomy (valid : piece.IsPieceOf source)
    (otherValid : other.IsPieceOf source) :
    piece.before.length < other.before.length ∨ piece = other ∨
      other.before.length < piece.before.length := by
  obtain ⟨index, bound, rfl⟩ := List.mem_iff_getElem.mp (mem_pieces_iff.mpr valid)
  obtain ⟨otherIndex, otherBound, rfl⟩ := List.mem_iff_getElem.mp (mem_pieces_iff.mpr otherValid)
  have ordered := List.pairwise_iff_getElem.mp (isSplit_pieces source).ordered
  rcases Nat.lt_trichotomy index otherIndex with below | rfl | above
  · exact .inl (ordered _ _ _ _ below)
  · exact .inr (.inl rfl)
  · exact .inr (.inr (ordered _ _ _ _ above))

theorem IsPieceOf.eq_of_holds (valid : piece.IsPieceOf source)
    (otherValid : other.IsPieceOf source) (holds : piece.Holds offset)
    (otherHolds : other.Holds offset) : piece = other := by
  obtain ⟨lower, upper⟩ := holds
  obtain ⟨otherLower, otherUpper⟩ := otherHolds
  rcases valid.trichotomy otherValid with below | same | above
  · have apart := valid.ends_before otherValid below
    omega
  · exact same
  · have apart := otherValid.ends_before valid above
    omega

/-- Every character that is not blank belongs to a piece: to the run around it,
or to the symbol that it is. -/
theorem exists_holds (found : source[offset]? = some char) (notBlank : Text.isBlank char = false) :
    ∃ piece : Piece, piece.IsPieceOf source ∧ piece.Holds offset := by
  obtain ⟨bound, rfl⟩ := List.getElem?_eq_some_iff.mp found
  have whole : source.take offset ++ source[offset] :: source.drop (offset + 1) = source := by
    rw [← List.drop_eq_getElem_cons, List.take_append_drop]
  have length : (source.take offset).length = offset := List.length_take_of_le (by omega)
  generalize source.take offset = leading at whole length
  generalize source.drop (offset + 1) = following at whole
  generalize source[offset] = char at whole notBlank
  subst length
  cases wordChar : Lexer.isWordChar char with
  | false =>
      refine ⟨⟨leading, [char], following⟩, ?_, Nat.le_refl _, by simp⟩
      rw [← whole]
      exact isPieceOf_symbol notBlank wordChar
  | true =>
      let lead := leading.rdropWhile Lexer.isWordChar
      let run := leading.rtakeWhile Lexer.isWordChar
      have leadingEq : lead ++ run = leading := List.rdropWhile_append_rtakeWhile
      have opens : ∀ last ∈ lead.getLast?, Lexer.isWordChar last = false := by
        intro last found
        have nonempty : lead ≠ [] := by
          intro empty
          simp [empty] at found
        rw [List.getLast?_eq_some_getLast nonempty, Option.mem_some] at found
        simpa [← found] using List.rdropWhile_last_not Lexer.isWordChar leading nonempty
      have taken : (run ++ char :: following).takeWhile Lexer.isWordChar =
          run ++ char :: following.takeWhile Lexer.isWordChar := by
        rw [List.takeWhile_append_of_pos fun _ member => List.mem_rtakeWhile_imp member,
          List.takeWhile_cons_of_pos wordChar]
      have valid := isPieceOf_run (run ++ char :: following) opens (by simp [taken])
      rw [← List.append_assoc, leadingEq, whole] at valid
      refine ⟨_, valid, ?_, ?_⟩
      · rw [← leadingEq, List.length_append]
        exact Nat.le_add_right _ _
      · show leading.length < lead.length + _
        rw [← leadingEq, taken, List.length_append, List.length_append, List.length_cons]
        omega

end Piece

end ExprLexer
