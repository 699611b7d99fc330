import ExprLexer.Proofs.Number.ExactRuns
import ExprLexer.Proofs.Numeral.CanonicalForm

/-! Reading and display of integers are partners. Integers are read from the literals of not
too many digits whose value is in range, and a display is a literal without a character to
spare. -/

set_option autoImplicit false

namespace ExprLexer

/-! ## Digits and their places -/

theorem digitChar_digitNumber {digit : Char} (isDigit : digit.isDigit = true) :
    Nat.digitChar (digitNumber digit) = digit := by
  have least := (Char.isDigit_iff_toNat.mp isDigit).1
  have zero : '0'.toNat = 48 := rfl
  rw [← Char.toNat_inj, Nat.toNat_digitChar_of_lt_ten (digitNumber_lt isDigit), digitNumber]
  omega

theorem digitsValue_concat (front : List Char) (last : Char) :
    digitsValue (front ++ [last]) = 10 * digitsValue front + digitNumber last := by
  rw [digitsValue, List.foldl_concat]
  rfl

/-- Each digit counts by its place, the last one as it is. -/
theorem digitsValue_eq_ofDigits (digits : List Char) :
    digitsValue digits = Nat.ofDigits 10 (digits.reverse.map digitNumber) := by
  induction digits using List.reverseRecOn with
  | nil => rfl
  | append_singleton front last ih =>
      rw [digitsValue_concat, ih, List.reverse_concat, List.map_cons, Nat.ofDigits_cons,
        Nat.add_comm]

/-! ## Digits without zeros to spare -/

/-- The digits that are kept of a whole number: those from the first that is no zero on, or
else a single zero. -/
def withoutSpareZeros (digits : List Char) : List Char :=
  match digits.dropWhile isZeroDigit with
  | [] => ['0']
  | significant => significant

section Digits

variable {digits : List Char}

/-- Digits that do not start with a zero are the digits of the number that they denote. -/
theorem digits_digitsValue_of_head (run : ∀ char ∈ digits, char.isDigit = true)
    (nonempty : digits ≠ []) (leading : digits.head? ≠ some '0') :
    Layout.digits (digitsValue digits) = digits := by
  induction digits using List.reverseRecOn with
  | nil => exact absurd rfl nonempty
  | append_singleton front last ih =>
      have lastDigit : last.isDigit = true := run last (by simp)
      have single : Layout.digits (digitNumber last) = [last] := by
        rw [Layout.digits_of_lt (digitNumber_lt lastDigit), digitChar_digitNumber lastDigit]
      rw [digitsValue_concat]
      rcases eq_or_ne front [] with rfl | more
      · rwa [digitsValue, List.foldl_nil, Nat.mul_zero, Nat.zero_add]
      · rw [List.head?_append_of_ne_nil _ more] at leading
        have before := ih (fun char member => run char (List.mem_append_left _ member)) more leading
        have positive : 0 < digitsValue front := by
          refine Nat.pos_of_ne_zero fun zero => leading ?_
          rw [← before, zero]
          rfl
        rw [Layout.digits, ← Nat.toDigits_append_toDigits (by decide) positive
          (digitNumber_lt lastDigit)]
        exact congrArg₂ (· ++ ·) before single

theorem digits_digitsValue (run : ∀ char ∈ digits, char.isDigit = true) :
    Layout.digits (digitsValue digits) = withoutSpareZeros digits := by
  have leading := List.head?_dropWhile_not isZeroDigit digits
  rw [← digitsValue_dropWhile, withoutSpareZeros]
  split
  next none =>
    rw [none]
    rfl
  next significant some =>
    apply digits_digitsValue_of_head
    · exact fun char member => run char ((List.dropWhile_suffix _).subset member)
    · exact some
    · intro zero
      rw [zero] at leading
      cases leading

theorem digits_eq_zero_iff {value : Nat} : Layout.digits value = ['0'] ↔ value = 0 := by
  constructor
  · intro zero
    rw [← digitsValue_digits value, zero]
    rfl
  · rintro rfl
    rfl

end Digits

/-! ## Integer literals -/

/-- An integer literal: a sign, which may be left out, and digits. -/
structure IntegerLiteral where
  sign : SignMark
  digits : List Char
  nonempty : digits ≠ []
  isDigit : ∀ char ∈ digits, char.isDigit = true

namespace IntegerLiteral

def text (literal : IntegerLiteral) : List Char := literal.sign.text ++ literal.digits

def magnitude (literal : IntegerLiteral) : Nat :=
  Nat.ofDigits 10 (literal.digits.reverse.map digitNumber)

def value (literal : IntegerLiteral) : Int :=
  if literal.sign.negative then -(literal.magnitude : Int) else literal.magnitude

/-- The literal without a plus and without zeros to spare, and without a sign of a zero. -/
def canonicalText (literal : IntegerLiteral) : List Char :=
  (if literal.sign.negative ∧ withoutSpareZeros literal.digits ≠ ['0'] then ['-'] else []) ++
    withoutSpareZeros literal.digits

theorem magnitude_eq (literal : IntegerLiteral) :
    literal.magnitude = digitsValue literal.digits :=
  (digitsValue_eq_ofDigits literal.digits).symm

theorem value_eq_signed (literal : IntegerLiteral) :
    literal.value = signed literal.sign.negative (digitsValue literal.digits) := by
  rw [value, magnitude_eq, signed]

theorem natAbs_value (literal : IntegerLiteral) :
    literal.value.natAbs = literal.magnitude := by
  rw [value]
  split
  · rw [Int.natAbs_neg, Int.natAbs_natCast]
  · exact Int.natAbs_natCast _

theorem value_neg_iff (literal : IntegerLiteral) :
    literal.value < 0 ↔ literal.sign.negative = true ∧ literal.magnitude ≠ 0 := by
  rw [value]
  split
  next minus =>
    rw [and_iff_right minus]
    omega
  next plus =>
    exact iff_of_false (Int.not_lt.mpr (Int.natCast_nonneg _)) fun both => plus both.1

theorem length_digits_value_le (literal : IntegerLiteral) :
    (Layout.digits literal.value.natAbs).length ≤ literal.digits.length := by
  rw [natAbs_value, magnitude_eq]
  exact (Nat.length_toDigits_le_iff (by decide) (List.length_pos_of_ne_nil literal.nonempty)).mpr
    (digitsValue_lt literal.isDigit)

theorem splitIntegerLiteral?_text (literal : IntegerLiteral) :
    splitIntegerLiteral? literal.text = some (literal.sign.negative, literal.digits) := by
  have unsigned : ∀ next ∈ literal.digits.head?, next ≠ '+' ∧ next ≠ '-' := by
    intro next first
    have digit := literal.isDigit next (List.mem_of_mem_head? first)
    constructor <;> rintro rfl <;> exact absurd digit (by decide)
  rw [splitIntegerLiteral?, text, literal.sign.splitSign_text unsigned]
  exact if_pos (isDigitRun_iff.mpr ⟨literal.nonempty, literal.isDigit⟩)

theorem exists_of_splitIntegerLiteral? {text : List Char} {split : Bool × List Char}
    (found : splitIntegerLiteral? text = some split) :
    ∃ literal : IntegerLiteral, literal.text = text := by
  obtain ⟨sign, written, _⟩ := SignMark.exists_splitSign text
  unfold splitIntegerLiteral? at found
  dsimp only at found
  split at found
  next digits =>
    obtain ⟨nonempty, isDigit⟩ := isDigitRun_iff.mp digits
    exact ⟨⟨sign, (splitSign text).2, nonempty, isDigit⟩, written⟩
  next => cases found

end IntegerLiteral

namespace Integer

/-! ## Reading -/

theorem readWhole_literal (literal : IntegerLiteral) :
    readWhole (String.ofList literal.text) =
      if digitLimit < literal.digits.length then .error (.tooManyDigits literal.digits.length)
      else .ok literal.value := by
  rw [readWhole, String.toList_ofList, literal.splitIntegerLiteral?_text, literal.value_eq_signed]

theorem parse_of_long {literal : IntegerLiteral} (long : digitLimit < literal.digits.length) :
    parse (String.ofList literal.text) = .error (.tooManyDigits literal.digits.length) := by
  rw [parse, readWhole_literal, if_pos long]
  rfl

theorem parse_of_short {literal : IntegerLiteral} (short : literal.digits.length ≤ digitLimit) :
    parse (String.ofList literal.text) = ofInt literal.value := by
  rw [parse, readWhole_literal, if_neg (Nat.not_lt.mpr short)]
  rfl

theorem parse_of_no_literal {text : String}
    (noLiteral : ∀ literal : IntegerLiteral, String.ofList literal.text ≠ text) :
    parse text = .error (.notIntegerLiteral text) := by
  rw [parse, readWhole]
  split
  next => rfl
  next found =>
    obtain ⟨literal, written⟩ := IntegerLiteral.exists_of_splitIntegerLiteral? found
    exact absurd (by rw [written, String.ofList_toList]) (noLiteral literal)

theorem ofInt_eq_ok_iff {value : Int} {integer : Integer} :
    ofInt value = .ok integer ↔ value = integer.value := by
  constructor
  · intro given
    by_cases inRange : InRange value
    · rw [ofInt_of_inRange inRange] at given
      cases given
      rfl
    · rw [ofInt_of_not_inRange inRange] at given
      cases given
  · rintro rfl
    exact ofInt_of_inRange integer.inRange

theorem parse_literal_eq_ok_iff {literal : IntegerLiteral} {integer : Integer} :
    parse (String.ofList literal.text) = .ok integer ↔
      literal.digits.length ≤ digitLimit ∧ literal.value = integer.value := by
  rcases Nat.lt_or_ge digitLimit literal.digits.length with long | short
  · rw [parse_of_long long]
    exact iff_of_false nofun fun both => absurd both.1 (Nat.not_le.mpr long)
  · rw [parse_of_short short, ofInt_eq_ok_iff, and_iff_right short]

theorem parse_eq_ok_iff {text : String} {integer : Integer} :
    parse text = .ok integer ↔ ∃ literal : IntegerLiteral, String.ofList literal.text = text ∧
      literal.digits.length ≤ digitLimit ∧ literal.value = integer.value := by
  constructor
  · intro read
    by_contra none
    have refused : parse text = .error (.notIntegerLiteral text) :=
      parse_of_no_literal fun literal written =>
        none ⟨literal, written, parse_literal_eq_ok_iff.mp (written ▸ read)⟩
    rw [read] at refused
    cases refused
  · rintro ⟨literal, rfl, accepted⟩
    exact parse_literal_eq_ok_iff.mpr accepted

/-! ## Display -/

def literal (integer : Integer) : IntegerLiteral where
  sign := .ofNegative (integer.value < 0)
  digits := Layout.digits integer.value.natAbs
  nonempty := Layout.digits_ne_nil _
  isDigit _ := Layout.isDigit_of_mem_digits

theorem display_eq_text (integer : Integer) :
    integer.display = String.ofList integer.literal.text := by
  rw [display, IntegerLiteral.text, literal, SignMark.text_ofNegative]
  simp only [decide_eq_true_eq]

theorem value_literal (integer : Integer) : integer.literal.value = integer.value := by
  rw [IntegerLiteral.value_eq_signed, literal, SignMark.negative_ofNegative, digitsValue_digits,
    signed]
  simp only [decide_eq_true_eq]
  split <;> omega

theorem parse_display (integer : Integer) : parse integer.display = .ok integer := by
  have short : integer.literal.digits.length < digitLimit :=
    length_digits_lt (integer.natAbs_le.trans (Nat.le_self_pow (by decide) _))
  rw [display_eq_text]
  exact parse_literal_eq_ok_iff.mpr ⟨short.le, integer.value_literal⟩

/-- An integer is displayed as any of its literals is without what it has to spare. -/
theorem display_eq_canonicalText {literal : IntegerLiteral} {integer : Integer}
    (value : literal.value = integer.value) :
    integer.display = String.ofList literal.canonicalText := by
  have digits : Layout.digits literal.magnitude = withoutSpareZeros literal.digits := by
    rw [literal.magnitude_eq, digits_digitsValue literal.isDigit]
  have zero : withoutSpareZeros literal.digits = ['0'] ↔ literal.magnitude = 0 := by
    rw [← digits]
    exact digits_eq_zero_iff
  rw [display, ← value, literal.natAbs_value, digits, IntegerLiteral.canonicalText]
  simp only [literal.value_neg_iff, ne_eq, zero]

/-- Reading inverts display and keeps to the literals. A text is read exactly if it is a literal
of at most 4300 digits whose value is in range, and as that value. A literal of more digits is
refused for them, one of a value out of range for that value, which has no more digits than are
written, and every other text as no literal. A display is read as its integer, and an integer
is displayed as its literals are without what they have to spare. -/
theorem parse_inverts_display :
    (∀ text integer, parse text = .ok integer ↔
      ∃ literal : IntegerLiteral, String.ofList literal.text = text ∧
        literal.digits.length ≤ 4300 ∧ literal.value = integer.value) ∧
    (∀ literal : IntegerLiteral, 4300 < literal.digits.length →
      parse (String.ofList literal.text) = .error (.tooManyDigits literal.digits.length)) ∧
    (∀ literal : IntegerLiteral, literal.digits.length ≤ 4300 → ¬InRange literal.value →
      parse (String.ofList literal.text) = .error (.outOfRange literal.value) ∧
        (Layout.digits literal.value.natAbs).length ≤ 4300) ∧
    (∀ text, (∀ literal : IntegerLiteral, String.ofList literal.text ≠ text) →
      parse text = .error (.notIntegerLiteral text)) ∧
    (∀ integer : Integer, parse integer.display = .ok integer) ∧
    ∀ (literal : IntegerLiteral) integer, parse (String.ofList literal.text) = .ok integer →
      integer.display = String.ofList literal.canonicalText := by
  refine ⟨fun _ _ => parse_eq_ok_iff, fun _ => parse_of_long, ?_, fun _ => parse_of_no_literal,
    parse_display, ?_⟩
  · intro literal short past
    rw [parse_of_short short]
    exact ⟨ofInt_of_not_inRange past, literal.length_digits_value_le.trans short⟩
  · intro literal integer read
    exact display_eq_canonicalText (parse_literal_eq_ok_iff.mp read).2

end Integer

end ExprLexer
