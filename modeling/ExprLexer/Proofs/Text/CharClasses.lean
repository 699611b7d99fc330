import ExprLexer.Lexer

/-! How the classes of characters lie to each other. The tables are compared range
by range, so that no code point is looked at alone. -/

set_option autoImplicit false

namespace ExprLexer.Text

/-- No range of the one table meets a range of the other. -/
def CharTable.disjoint (left right : CharTable) : Bool :=
  left.all fun (first, last) => right.all fun (start, finish) => last < start || finish < first

theorem CharTable.not_contains_of_disjoint {left right : CharTable} {char : Char}
    (apart : left.disjoint right = true) (member : left.contains char = true) :
    right.contains char = false := by
  obtain ⟨⟨first, last⟩, listed, within⟩ := List.any_eq_true.mp member
  simp only [Bool.and_eq_true, decide_eq_true_eq] at within
  apply List.any_eq_false.mpr
  intro range other
  obtain ⟨start, finish⟩ := range
  have separated := List.all_eq_true.mp (List.all_eq_true.mp apart _ listed) _ other
  simp only [Bool.or_eq_true, decide_eq_true_eq] at separated
  simp only [Bool.and_eq_true, decide_eq_true_eq, not_and, Nat.not_le]
  omega

theorem blankTable_disjoint_alphanumericTable :
    blankTable.disjoint alphanumericTable = true := by
  decide +kernel

/-- Every character that ends a line separates words. -/
theorem isBlank_of_isLineBreak {char : Char} (ending : isLineBreak char = true) :
    isBlank char = true := by
  have blank : (['\n', '\r', '\x0b', '\x0c', '\x1c', '\x1d', '\x1e', '\u0085', '\u2028',
      '\u2029'].all isBlank) = true := by decide
  exact List.all_eq_true.mp blank char (List.contains_iff_mem.mp ending)

section Repr

variable {char : Char}

theorem isDigit_of_mem_toDigits {value : Nat} (member : char ∈ Nat.toDigits 10 value) :
    char.isDigit = true :=
  Nat.isDigit_of_mem_toDigits (by decide) (by decide) member

theorem toList_repr_ofNat (value : Nat) :
    (Int.ofNat value).repr.toList = Nat.toDigits 10 value :=
  Nat.toList_repr

theorem toList_repr_negSucc (value : Nat) :
    (Int.negSucc value).repr.toList = '-' :: Nat.toDigits 10 (value + 1) := by
  simp [Int.repr]

theorem isDigit_or_eq_of_mem_repr {value : Int} (member : char ∈ value.repr.toList) :
    char.isDigit = true ∨ char = '-' := by
  cases value with
  | ofNat value =>
      rw [toList_repr_ofNat] at member
      exact .inl (isDigit_of_mem_toDigits member)
  | negSucc value =>
      rw [toList_repr_negSucc] at member
      rcases List.mem_cons.mp member with rfl | digit
      · exact .inr rfl
      · exact .inl (isDigit_of_mem_toDigits digit)

theorem toDigits_injective {left right : Nat}
    (same : Nat.toDigits 10 left = Nat.toDigits 10 right) : left = right := by
  calc
    left = Nat.ofDigitChars 10 (Nat.toDigits 10 left) 0 := Nat.ofDigitChars_ten_toDigits.symm
    _ = Nat.ofDigitChars 10 (Nat.toDigits 10 right) 0 := by rw [same]
    _ = right := Nat.ofDigitChars_ten_toDigits

theorem cons_ne_toDigits (text : List Char) (value : Nat) :
    '-' :: text ≠ Nat.toDigits 10 value := by
  intro same
  have digit : '-'.isDigit = true :=
    isDigit_of_mem_toDigits (same ▸ List.mem_cons_self : '-' ∈ Nat.toDigits 10 value)
  exact absurd digit (by decide)

-- `Int.repr_inj` says this too, but comes only with the whole of Mathlib.
theorem eq_of_repr_eq {left right : Int} (same : left.repr = right.repr) : left = right := by
  have characters := congrArg String.toList same
  -- The sign is told by the first character, and the rest by the digits.
  cases left <;> cases right
  case ofNat.ofNat left right =>
    rw [toList_repr_ofNat, toList_repr_ofNat] at characters
    rw [toDigits_injective characters]
  case ofNat.negSucc left right =>
    rw [toList_repr_ofNat, toList_repr_negSucc] at characters
    exact absurd characters.symm (cons_ne_toDigits _ _)
  case negSucc.ofNat left right =>
    rw [toList_repr_ofNat, toList_repr_negSucc] at characters
    exact absurd characters (cons_ne_toDigits _ _)
  case negSucc.negSucc left right =>
    rw [toList_repr_negSucc, toList_repr_negSucc] at characters
    rw [Nat.succ.inj (toDigits_injective (List.cons.inj characters).2)]

end Repr

end ExprLexer.Text

namespace ExprLexer.Lexer

/-- A blank character never belongs to a word, so it does not matter that blanks
are looked for first. -/
theorem not_isWordChar_of_isBlank {char : Char} (blank : Text.isBlank char = true) :
    isWordChar char = false := by
  have letter : Text.isAlphanumeric char = false :=
    Text.CharTable.not_contains_of_disjoint Text.blankTable_disjoint_alphanumericTable blank
  have underscore : char ≠ '_' := by
    intro same
    subst same
    exact absurd blank (by decide)
  have point : char ≠ '.' := by
    intro same
    subst same
    exact absurd blank (by decide)
  simp [isWordChar, letter, underscore, point]

theorem not_isBlank_of_isWordChar {char : Char} (word : isWordChar char = true) :
    Text.isBlank char = false := by
  cases blank : Text.isBlank char with
  | false => rfl
  | true => exact absurd word (by simp [not_isWordChar_of_isBlank blank])

theorem isWordChar_of_isDigit {char : Char} (digit : char.isDigit = true) :
    isWordChar char = true := by
  have letter : Text.isAlphanumeric char = true := by
    simp only [Char.isDigit, Bool.and_eq_true, decide_eq_true_eq] at digit
    refine List.any_eq_true.mpr ⟨(0x30, 0x39), .head _, ?_⟩
    simp only [Bool.and_eq_true, decide_eq_true_eq]
    exact digit
  simp [isWordChar, letter]

end ExprLexer.Lexer
