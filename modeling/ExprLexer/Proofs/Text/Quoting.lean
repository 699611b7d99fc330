import ExprLexer.Proofs.Text.LineBreaks
import ExprLexer.Text.Quoted

/-! What quoting leaves of a text. A character that is not printable is written in
printable ASCII, so that a quoted text shows as one line whatever was quoted. -/

set_option autoImplicit false

namespace ExprLexer.Text

def asciiTable : CharTable := [(0x20, 0x7e)]

def IsPrintable (text : List Char) : Prop := ∀ char ∈ text, isPrintable char = true

instance (text : List Char) : Decidable (IsPrintable text) :=
  inferInstanceAs (Decidable (∀ char ∈ text, isPrintable char = true))

variable {char mark : Char} {left right text : List Char}

theorem IsPrintable.append (first : IsPrintable left) (second : IsPrintable right) :
    IsPrintable (left ++ right) :=
  List.forall_mem_append.mpr ⟨first, second⟩

theorem asciiTable_disjoint_unprintableTable :
    asciiTable.disjoint unprintableTable = true := by
  decide +kernel

theorem isPrintable_of_ascii (ascii : asciiTable.contains char = true) :
    isPrintable char = true := by
  rw [isPrintable,
    CharTable.not_contains_of_disjoint asciiTable_disjoint_unprintableTable ascii]
  rfl

theorem isPrintable_of_all_ascii (ascii : text.all asciiTable.contains = true) :
    IsPrintable text := fun char member =>
  isPrintable_of_ascii (List.all_eq_true.mp ascii char member)

/-- Every character that ends a line is written as an escape. -/
theorem not_isLineBreak_of_isPrintable (printable : isPrintable char = true) :
    isLineBreak char = false := by
  have hidden : (['\n', '\r', '\x0b', '\x0c', '\x1c', '\x1d', '\x1e', '\u0085', '\u2028',
      '\u2029'].all fun char => !isPrintable char) = true := by decide +kernel
  cases ending : isLineBreak char with
  | false => rfl
  | true =>
      have unprintable := List.all_eq_true.mp hidden char (List.contains_iff_mem.mp ending)
      rw [printable] at unprintable
      cases unprintable

theorem IsPrintable.isOneLine (printable : IsPrintable text) : IsOneLine text :=
  fun char member => not_isLineBreak_of_isPrintable (printable char member)

theorem isOneLine_of_all_ascii (ascii : text.all asciiTable.contains = true) : IsOneLine text :=
  (isPrintable_of_all_ascii ascii).isOneLine

/-! ## Escapes -/

theorem quoteMark_eq_or (text : List Char) : quoteMark text = '"' ∨ quoteMark text = '\'' := by
  unfold quoteMark
  split
  · exact .inl rfl
  · exact .inr rfl

theorem ascii_digitChar {digit : Nat} (small : digit < 16) :
    asciiTable.contains (Nat.digitChar digit) = true := by
  have each : ∀ digit < 16, asciiTable.contains (Nat.digitChar digit) = true := by decide
  exact each digit small

theorem isPrintable_toDigits (value : Nat) : IsPrintable (Nat.toDigits 16 value) := by
  induction value using Nat.strongRecOn with
  | ind value ih =>
      rcases Nat.lt_or_ge value 16 with small | large
      · rw [Nat.toDigits_of_lt_base small]
        exact List.forall_mem_singleton.mpr (isPrintable_of_ascii (ascii_digitChar small))
      · have last := ascii_digitChar (Nat.mod_lt value (by decide : 0 < 16))
        rw [Nat.toDigits_of_base_le (by decide) large]
        exact (ih (value / 16) (by omega)).append
          (List.forall_mem_singleton.mpr (isPrintable_of_ascii last))

theorem isPrintable_hexadecimal (width value : Nat) : IsPrintable (hexadecimal width value) := by
  refine IsPrintable.append ?_ (isPrintable_toDigits value)
  intro char member
  rw [List.eq_of_mem_replicate member]
  exact isPrintable_of_ascii (by decide)

theorem isPrintable_quoteChar (quotes : mark = '"' ∨ mark = '\'') (char : Char) :
    IsPrintable (quoteChar mark char) := by
  have escape (width : Nat) (letter : Char) (plain : asciiTable.contains letter = true) :
      IsPrintable ('\\' :: letter :: hexadecimal width char.toNat) :=
    List.forall_mem_cons.mpr ⟨isPrintable_of_ascii (by decide),
      List.forall_mem_cons.mpr ⟨isPrintable_of_ascii plain, isPrintable_hexadecimal _ _⟩⟩
  unfold quoteChar
  split
  next marked =>
    have plain : asciiTable.contains char = true := by
      rcases marked with rfl | rfl
      · rcases quotes with rfl | rfl <;> decide
      · decide
    refine List.forall_mem_cons.mpr ⟨isPrintable_of_ascii (by decide), ?_⟩
    exact List.forall_mem_singleton.mpr (isPrintable_of_ascii plain)
  split
  · exact isPrintable_of_all_ascii (by decide)
  split
  · exact isPrintable_of_all_ascii (by decide)
  split
  · exact isPrintable_of_all_ascii (by decide)
  split
  next printable => exact List.forall_mem_singleton.mpr printable
  split
  · exact escape 2 'x' (by decide)
  split
  · exact escape 4 'u' (by decide)
  · exact escape 8 'U' (by decide)

theorem isPrintable_quoteChars (text : List Char) : IsPrintable (quoteChars text) := by
  have marked := quoteMark_eq_or text
  have mark : isPrintable (quoteMark text) = true := by
    rcases marked with same | same <;> rw [same] <;> exact isPrintable_of_ascii (by decide)
  refine List.forall_mem_cons.mpr ⟨mark, IsPrintable.append ?_ ?_⟩
  · intro char member
    obtain ⟨quoted, _, shown⟩ := List.mem_flatMap.mp member
    exact isPrintable_quoteChar marked quoted char shown
  · exact List.forall_mem_singleton.mpr mark

/-- Whatever is quoted, the quoted text is printable. -/
theorem isPrintable_quote (text : String) : IsPrintable (quote text).toList := by
  rw [quote, String.toList_ofList]
  exact isPrintable_quoteChars text.toList

end ExprLexer.Text
