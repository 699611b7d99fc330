import ExprLexer.Proofs.Lexing.Concatenation

/-! Sources in which parts are replaced. As long as what stands for a piece is one piece
of its kind again, or blank, no two pieces of the new source run together: its pieces
are those that are kept, in order. -/

set_option autoImplicit false

namespace ExprLexer

namespace Text

/-- The text with another one for each of its characters. What it is may depend on what
stands before the character. -/
def substitute (change : List Char → Char → List Char) (before : List Char) :
    List Char → List Char
  | [] => []
  | char :: rest => change before char ++ substitute change (before ++ [char]) rest

variable {change : List Char → Char → List Char} {before text : List Char}

theorem substitute_append (before left right : List Char) :
    substitute change before (left ++ right) =
      substitute change before left ++ substitute change (before ++ left) right := by
  induction left generalizing before with
  | nil => simp [substitute]
  | cons char left ih =>
      rw [List.cons_append, substitute, substitute, ih, List.append_assoc, List.append_assoc]
      rfl

/-- What relates every character to its replacement relates the texts as well. -/
theorem substitute_related (related : List Char → List Char → Prop) (nil : related [] [])
    (append : ∀ {newLeft left newRight right}, related newLeft left → related newRight right →
      related (newLeft ++ newRight) (left ++ right))
    (each : ∀ left char right, text = left ++ char :: right →
      related (change (before ++ left) char) [char]) :
    related (substitute change before text) text := by
  induction text generalizing before with
  | nil => exact nil
  | cons char text ih =>
      have first := each [] char text rfl
      rw [List.append_nil] at first
      refine append first (ih fun left other right split => ?_)
      rw [List.append_assoc]
      exact each (char :: left) other right (by rw [split]; rfl)

/-- Where the change does not look at what stands before. -/
theorem substitute_eq_flatMap {each : Char → List Char}
    (constant : ∀ left char right, text = left ++ char :: right →
      change (before ++ left) char = each char) :
    substitute change before text = text.flatMap each := by
  refine substitute_related (fun new old => new = old.flatMap each) rfl ?_ ?_
  · intro newLeft left newRight right first second
    rw [first, second, List.flatMap_append]
  · intro left char right split
    rw [constant left char right split, List.flatMap_singleton]

theorem substitute_eq_of_first {new : List Char} (nonempty : text ≠ [])
    (each : ∀ left char right, text = left ++ char :: right →
      change (before ++ left) char = if left = [] then new else []) :
    substitute change before text = new := by
  obtain ⟨first, rest, rfl⟩ := List.exists_cons_of_ne_nil nonempty
  have start := each [] first rest rfl
  have others : substitute change (before ++ [first]) rest = rest.flatMap fun _ => [] := by
    refine substitute_eq_flatMap fun left char right split => ?_
    rw [List.append_assoc]
    exact each (first :: left) char right (by rw [split]; rfl)
  rw [List.append_nil, if_pos rfl] at start
  rw [substitute, start, others, List.flatMap_eq_nil_iff.mpr fun _ _ => rfl, List.append_nil]

end Text

namespace Piece

def substitute (change : List Char → Char → List Char) (piece : Piece) : Piece where
  before := Text.substitute change [] piece.before
  text := Text.substitute change piece.before piece.text
  after := Text.substitute change (piece.before ++ piece.text) piece.after

/-- What may stand for a piece: one piece of its kind if it is kept, blanks if not. -/
inductive StandIn (piece : Piece) : Bool → List Char → Prop where
  | word {text : List Char} :
      piece.IsWord → text ≠ [] → (∀ char ∈ text, Lexer.isWordChar char = true) →
      StandIn piece true text
  | symbol : piece.IsSymbol → StandIn piece true piece.text
  | blank {text : List Char} :
      text ≠ [] → (∀ char ∈ text, Text.isBlank char = true) → StandIn piece false text

variable {piece : Piece} {kept : Bool} {text : List Char}

theorem IsPieceOf.standIn_self {source : List Char} (valid : piece.IsPieceOf source) :
    piece.StandIn true piece.text := by
  rcases valid.shape with word | symbol
  · exact .word word word.nonempty word.wordChars
  · exact .symbol symbol

theorem StandIn.ne_nil (standIn : piece.StandIn kept text) : text ≠ [] := by
  cases standIn with
  | word _ nonempty _ => exact nonempty
  | symbol symbol =>
      obtain ⟨char, single, _, _⟩ := symbol
      simp [single]
  | blank nonempty _ => exact nonempty

theorem StandIn.not_isWordChar (standIn : piece.StandIn kept text) (notWord : ¬piece.IsWord) :
    ∀ char ∈ text, Lexer.isWordChar char = false := by
  intro char member
  cases standIn with
  | word word _ _ => exact absurd word notWord
  | symbol symbol =>
      obtain ⟨symbol, single, _, notWordChar⟩ := symbol
      rw [single, List.mem_singleton] at member
      exact member ▸ notWordChar
  | blank _ blank => exact Lexer.not_isWordChar_of_isBlank (blank char member)

theorem StandIn.pieces_eq (standIn : piece.StandIn kept text) :
    pieces text = if kept then [⟨[], text, []⟩] else [] := by
  cases standIn with
  | word _ nonempty wordChars =>
      have alone : (⟨[], text, []⟩ : Piece).IsPieceOf text :=
        ⟨by simp, .inl ⟨nonempty, wordChars, by simp, by simp⟩⟩
      exact alone.pieces_eq_singleton rfl rfl
  | symbol symbol =>
      have alone : (⟨[], piece.text, []⟩ : Piece).IsPieceOf piece.text := ⟨by simp, .inr symbol⟩
      exact alone.pieces_eq_singleton rfl rfl
  | blank _ blank => exact pieces_eq_nil_of_blank blank

end Piece

/-- The change leaves blanks alone and replaces each piece by what may stand for it. -/
structure KeepsApart (change : List Char → Char → List Char) (keep : Piece → Bool)
    (source : List Char) : Prop where
  blanks : ∀ before char after, before ++ char :: after = source →
    Text.isBlank char = true → change before char = [char]
  standIns : ∀ piece : Piece, piece.IsPieceOf source →
    piece.StandIn (keep piece) (piece.substitute change).text

namespace KeepsApart

variable {change : List Char → Char → List Char} {keep : Piece → Bool} {source : List Char}
  {before rest : List Char} {piece : Piece}

theorem stops (keepsApart : KeepsApart change keep source) (whole : before ++ rest = source)
    (closes : ∀ next ∈ rest.head?, Lexer.isWordChar next = false) :
    ∀ next ∈ (Text.substitute change before rest).head?, Lexer.isWordChar next = false := by
  cases rest with
  | nil => simp [Text.substitute]
  | cons char rest =>
      have notWord := closes char rfl
      rw [Text.substitute]
      cases blank : Text.isBlank char with
      | true =>
          rw [keepsApart.blanks before char rest whole blank]
          intro next found
          cases found
          exact notWord
      | false =>
          -- The character is a piece alone, and no part of a word may stand for it.
          have valid : (⟨before, [char], rest⟩ : Piece).IsPieceOf source :=
            whole ▸ Piece.isPieceOf_symbol blank notWord
          have standIn := keepsApart.standIns _ valid
          have single : ((⟨before, [char], rest⟩ : Piece).substitute change).text =
              change before char := by
            simp [Piece.substitute, Text.substitute]
          rw [single] at standIn
          intro next found
          rw [List.head?_append_of_ne_nil _ standIn.ne_nil] at found
          refine standIn.not_isWordChar (fun word => ?_) next (List.mem_of_mem_head? found)
          rw [word.wordChars char List.mem_cons_self] at notWord
          cases notWord

theorem closes (keepsApart : KeepsApart change keep source) (valid : piece.IsPieceOf source) :
    Closes Lexer.isWordChar (piece.substitute change).text (piece.substitute change).after := by
  intro last found lastWord
  by_cases word : piece.IsWord
  · exact keepsApart.stops valid.whole word.closes
  · have notWord := (keepsApart.standIns piece valid).not_isWordChar word last
      (List.mem_of_mem_getLast? found)
    rw [notWord] at lastWord
    cases lastWord

/-- A pass over the place of a piece finds what stands for it and goes on behind it. -/
theorem piecesAfter_standIn (keepsApart : KeepsApart change keep source)
    (valid : piece.IsPieceOf source) :
    piecesAfter (Text.substitute change [] piece.before)
        (Text.substitute change piece.before (piece.text ++ piece.after)) =
      (if keep piece then [piece.substitute change] else []) ++
        piecesAfter (Text.substitute change [] (piece.before ++ piece.text))
          (Text.substitute change (piece.before ++ piece.text) piece.after) := by
  have standIn := keepsApart.standIns piece valid
  have found := piecesAfter_append_eq_map (Text.substitute change [] piece.before) []
    (piece.substitute change).text
  rw [List.append_nil] at found
  have alone : piecesAfter [] (piece.substitute change).text =
      if keep piece then [⟨[], (piece.substitute change).text, []⟩] else [] := standIn.pieces_eq
  rw [alone] at found
  have joined := piecesAfter_append (keepsApart.closes valid)
    (Text.substitute change [] piece.before)
  rw [Text.substitute_append, Text.substitute_append, List.nil_append]
  refine Eq.trans joined ?_
  rw [found]
  cases keep piece with
  | true => simp [Piece.within, Piece.substitute]
  | false => rfl

theorem piecesAfter_eq (keepsApart : KeepsApart change keep source)
    (valid : ∀ piece ∈ piecesAfter before rest, piece.IsPieceOf source)
    (whole : before ++ rest = source) :
    piecesAfter (Text.substitute change [] before) (Text.substitute change before rest) =
      ((piecesAfter before rest).filter keep).map (Piece.substitute change) := by
  -- Both passes go on together: over a blank, or over a whole piece and what stands for it.
  fun_induction piecesAfter before rest with
  | case1 before => simp [Text.substitute, piecesAfter]
  | case2 before char rest blank ih =>
      have same := keepsApart.blanks before char rest whole blank
      have next := ih valid (by rw [← List.append_cons, whole])
      rw [Text.substitute_append, List.nil_append] at next
      rw [Text.substitute, same, List.singleton_append, piecesAfter, if_pos blank, ← next]
      simp [Text.substitute, same]
  | case3 before char rest notBlank wordChar word remaining ih =>
      obtain ⟨valid, others⟩ := List.forall_mem_cons.mp valid
      have split : word ++ remaining = char :: rest := by
        simp [word, remaining, List.takeWhile_append_dropWhile]
      have found := keepsApart.piecesAfter_standIn valid
      have next := ih others (by rw [List.append_assoc, split, whole])
      dsimp only at found
      rw [split, next] at found
      rw [found]
      cases kept : keep ⟨before, word, remaining⟩ <;> simp [kept]
  | case4 before char rest notBlank notWord ih =>
      obtain ⟨valid, others⟩ := List.forall_mem_cons.mp valid
      have found := keepsApart.piecesAfter_standIn valid
      have next := ih others (by rw [← List.append_cons, whole])
      dsimp only at found
      rw [List.singleton_append, next] at found
      rw [found]
      cases kept : keep ⟨before, [char], rest⟩ <;> simp [kept]

/-- The pieces of the new source are what stands for the pieces that are kept. -/
theorem pieces_substitute (keepsApart : KeepsApart change keep source) :
    pieces (Text.substitute change [] source) =
      ((pieces source).filter keep).map (Piece.substitute change) :=
  keepsApart.piecesAfter_eq (fun _ member => mem_pieces_iff.mp member) rfl

end KeepsApart

/-! ## Places of changes -/

namespace Span

instance (span : Span) (line column : Int) : Decidable (span.Covers line column) :=
  inferInstanceAs (Decidable (_ ∧ _))

/-- The span covers the character that a source has after the given text. -/
def CoversAfter (span : Span) (line : Int) (before : List Char) : Prop :=
  span.Covers (line + before.count '\n') ((Text.lastLine before).length + 1)

instance (span : Span) (line : Int) (before : List Char) :
    Decidable (span.CoversAfter line before) :=
  inferInstanceAs (Decidable (span.Covers _ _))

end Span

namespace Piece

variable {source before after left right : List Char} {piece other : Piece} {char : Char}
  {file : String} {line : Int}

theorem IsPieceOf.coversAfter_iff (valid : piece.IsPieceOf source)
    (whole : before ++ char :: after = source) :
    (piece.span file line).CoversAfter line before ↔ piece.Holds before.length := by
  have inside : before.length < source.length := by
    rw [← whole]
    simp
  have covers : (piece.span file line).Covers (line + (source.take before.length).count '\n')
      ((Text.lastLine (source.take before.length)).length + 1) ↔ piece.Holds before.length :=
    valid.covers_iff inside
  rwa [← whole, List.take_left] at covers

theorem IsPieceOf.whole_of_split (valid : piece.IsPieceOf source)
    (split : piece.text = left ++ char :: right) :
    piece.before ++ left ++ char :: (right ++ piece.after) = source := by
  rw [← valid.whole, split]
  simp

/-- Within a piece its own span covers, and no other one does. -/
theorem IsPieceOf.coversAfter_within_iff (valid : piece.IsPieceOf source)
    (otherValid : other.IsPieceOf source) (split : piece.text = left ++ char :: right) :
    (other.span file line).CoversAfter line (piece.before ++ left) ↔ other = piece := by
  have holds : piece.Holds (piece.before ++ left).length := by
    simp only [Holds, split, List.length_append, List.length_cons]
    omega
  rw [otherValid.coversAfter_iff (valid.whole_of_split split)]
  constructor
  · intro otherHolds
    exact otherValid.eq_of_holds valid otherHolds holds
  · rintro rfl
    exact holds

theorem IsPieceOf.not_coversAfter_of_isBlank (valid : piece.IsPieceOf source)
    (whole : before ++ char :: after = source) (blank : Text.isBlank char = true) :
    ¬(piece.span file line).CoversAfter line before := by
  rw [valid.coversAfter_iff whole]
  intro holds
  obtain ⟨held, member, found⟩ := valid.getElem?_of_holds holds
  rw [← whole, List.getElem?_append_right (Nat.le_refl _), Nat.sub_self, List.getElem?_cons_zero,
    Option.some.injEq] at found
  have notBlank := valid.not_blank member
  rw [← found, blank] at notBlank
  cases notBlank

variable {keep : Piece → Bool}

/-- Of the kept pieces none but the one that holds a character has a span that covers it. -/
theorem IsPieceOf.find?_coversAfter_within (valid : piece.IsPieceOf source)
    (split : piece.text = left ++ char :: right) :
    ((pieces source).filter keep).find? (fun other =>
        (other.span file line).CoversAfter line (piece.before ++ left)) =
      if keep piece then some piece else none := by
  have only : ∀ other ∈ (pieces source).filter keep,
      (other.span file line).CoversAfter line (piece.before ++ left) → other = piece := by
    intro other member
    have otherValid := mem_pieces_iff.mp (List.mem_of_mem_filter member)
    exact (valid.coversAfter_within_iff otherValid split).mp
  cases kept : keep piece with
  | false =>
      refine List.find?_eq_none.mpr fun other member covers => ?_
      rw [only other member (of_decide_eq_true covers)] at member
      rw [(List.mem_filter.mp member).2] at kept
      cases kept
  | true =>
      cases found : ((pieces source).filter keep).find? (fun other =>
          (other.span file line).CoversAfter line (piece.before ++ left)) with
      | none =>
          have listed := List.mem_filter.mpr ⟨mem_pieces_iff.mpr valid, kept⟩
          have covers : (piece.span file line).CoversAfter line (piece.before ++ left) :=
            (valid.coversAfter_within_iff valid split).mpr rfl
          exact absurd (decide_eq_true covers) (List.find?_eq_none.mp found piece listed)
      | some other =>
          have covers := List.find?_some found
          rw [only other (List.mem_of_find?_eq_some found) (of_decide_eq_true covers)]
          rfl

theorem find?_coversAfter_blank (whole : before ++ char :: after = source)
    (blank : Text.isBlank char = true) :
    ((pieces source).filter keep).find? (fun other =>
      (other.span file line).CoversAfter line before) = none := by
  refine List.find?_eq_none.mpr fun other member covers => ?_
  have valid := mem_pieces_iff.mp (List.mem_of_mem_filter member)
  exact valid.not_coversAfter_of_isBlank whole blank (of_decide_eq_true covers)

end Piece

end ExprLexer
