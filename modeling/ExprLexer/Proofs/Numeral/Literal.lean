import ExprLexer.Numeral.Reader
import Mathlib.Data.List.TakeWhile
import Mathlib.Data.Rat.Cast.Order
import Mathlib.Tactic.FieldSimp
import Mathlib.Tactic.Ring

/-! The grammar of decimal literals: what is read as a numeral are the texts of literals,
and the numeral is what the literal says. -/

set_option autoImplicit false

namespace ExprLexer

attribute [local instance (1100)] instPowNat

theorem digitsValue_eq_ofDigitChars (digits : List Char) :
    digitsValue digits = Nat.ofDigitChars 10 digits 0 :=
  Nat.ofDigitChars_eq_foldl.symm

/-- A sign before digits, which may be left out. -/
inductive SignMark where
  | absent
  | plus
  | minus

namespace SignMark

def text : SignMark → List Char
  | absent => []
  | plus => ['+']
  | minus => ['-']

def negative : SignMark → Bool
  | minus => true
  | _ => false

/-- The sign of a number, which is left out unless it is a minus. -/
def ofNegative (negative : Bool) : SignMark := if negative then minus else absent

@[simp]
theorem text_ofNegative (negative : Bool) :
    (ofNegative negative).text = if negative then ['-'] else [] := by
  cases negative <;> rfl

@[simp]
theorem negative_ofNegative (sign : Bool) : (ofNegative sign).negative = sign := by
  cases sign <;> rfl

theorem splitSign_text (sign : SignMark) {body : List Char}
    (unsigned : ∀ next ∈ body.head?, next ≠ '+' ∧ next ≠ '-') :
    splitSign (sign.text ++ body) = (sign.negative, body) := by
  cases sign with
  | plus => rfl
  | minus => rfl
  | absent =>
      apply splitSign.eq_3
      · rintro rest rfl
        exact (unsigned '+' rfl).1 rfl
      · rintro rest rfl
        exact (unsigned '-' rfl).2 rfl

theorem exists_splitSign (text : List Char) :
    ∃ sign : SignMark, sign.text ++ (splitSign text).2 = text ∧
      sign.negative = (splitSign text).1 := by
  unfold splitSign
  split
  next rest => exact ⟨plus, rfl, rfl⟩
  next rest => exact ⟨minus, rfl, rfl⟩
  next => exact ⟨absent, rfl, rfl⟩

end SignMark

theorem isDigitRun_iff {text : List Char} :
    isDigitRun text = true ↔ text ≠ [] ∧ ∀ char ∈ text, char.isDigit = true := by
  simp [isDigitRun]

structure ExponentPart where
  mark : Char
  sign : SignMark
  digits : List Char
  marked : mark = 'e' ∨ mark = 'E'
  nonempty : digits ≠ []
  isDigit : ∀ char ∈ digits, char.isDigit = true

namespace ExponentPart

def text (part : ExponentPart) : List Char := part.mark :: (part.sign.text ++ part.digits)

/-- The power of ten that the exponent stands for. -/
def value (part : ExponentPart) : Int :=
  if part.sign.negative then -(Nat.ofDigitChars 10 part.digits 0 : Int)
  else Nat.ofDigitChars 10 part.digits 0

theorem readExponent?_text (part : ExponentPart) : readExponent? part.text = some part.value := by
  have unsigned : ∀ next ∈ part.digits.head?, next ≠ '+' ∧ next ≠ '-' := by
    intro next first
    have digit := part.isDigit next (List.mem_of_head? first)
    constructor <;> rintro rfl <;> exact absurd digit (by decide)
  have digits := isDigitRun_iff.mpr ⟨part.nonempty, part.isDigit⟩
  have accepted : (part.mark = 'e' ∨ part.mark = 'E') ∧ isDigitRun part.digits = true :=
    ⟨part.marked, digits⟩
  rw [text, readExponent?, part.sign.splitSign_text unsigned]
  dsimp only
  rw [if_pos accepted, digitsValue_eq_ofDigitChars]
  rfl

theorem exists_of_readExponent? {char : Char} {rest : List Char} {exponent : Int}
    (read : readExponent? (char :: rest) = some exponent) :
    ∃ part : ExponentPart, part.text = char :: rest ∧ part.value = exponent := by
  rw [readExponent?] at read
  obtain ⟨sign, whole, negative⟩ := SignMark.exists_splitSign rest
  dsimp only at read
  split at read
  next accepted =>
    obtain ⟨marked, run⟩ := accepted
    obtain ⟨nonempty, isDigit⟩ := isDigitRun_iff.mp run
    refine ⟨⟨char, sign, _, marked, nonempty, isDigit⟩, ?_, ?_⟩
    · exact congrArg (char :: ·) whole
    · rw [← Option.some.inj read, digitsValue_eq_ofDigitChars, value, negative]
      rfl
  next => cases read

end ExponentPart

/-- A decimal literal: a sign, digits with at most one point among or around them, and an
exponent. Only a point that digits follow may have none before it. -/
structure DecimalLiteral where
  sign : SignMark
  whole : List Char
  fraction : Option (List Char)
  exponent : Option ExponentPart
  wholeDigits : ∀ char ∈ whole, char.isDigit = true
  fractionDigits : ∀ digits ∈ fraction, ∀ char ∈ digits, char.isDigit = true
  someDigit : whole ≠ [] ∨ ∃ digits, fraction = some digits ∧ digits ≠ []

namespace DecimalLiteral

def fractionText : Option (List Char) → List Char
  | none => []
  | some digits => '.' :: digits

def exponentText : Option ExponentPart → List Char
  | none => []
  | some part => part.text

def text (literal : DecimalLiteral) : List Char :=
  literal.sign.text ++
    (literal.whole ++ (fractionText literal.fraction ++ exponentText literal.exponent))

def places (literal : DecimalLiteral) : List Char := literal.fraction.getD []

/-- The power of ten that the exponent stands for; without one it is the zeroth. -/
def scale (literal : DecimalLiteral) : Int := (literal.exponent.map ExponentPart.value).getD 0

def numeral (literal : DecimalLiteral) : Numeral where
  negative := literal.sign.negative
  significand := digitsValue (literal.whole ++ literal.places)
  exponent := literal.scale - literal.places.length

theorem not_digit_of_exponentText {exponent : Option ExponentPart} {next : Char}
    (first : next ∈ (exponentText exponent).head?) :
    next.isDigit = false ∧ next ≠ '.' := by
  cases exponent with
  | none => cases first
  | some part =>
      cases first
      rcases part.marked with mark | mark <;> rw [mark] <;> decide

theorem takeWhile_of_stops {digits rest : List Char} (run : ∀ char ∈ digits, char.isDigit = true)
    (stops : ∀ next ∈ rest.head?, next.isDigit = false) :
    (digits ++ rest).takeWhile Char.isDigit = digits ∧
      (digits ++ rest).dropWhile Char.isDigit = rest := by
  rw [List.takeWhile_append_of_pos run, List.dropWhile_append_of_pos run]
  cases rest with
  | nil => simp
  | cons next rest => simp [stops next rfl]

theorem splitFraction_text {fraction : Option (List Char)} {rest : List Char}
    (digits : ∀ digits ∈ fraction, ∀ char ∈ digits, char.isDigit = true)
    (stops : ∀ next ∈ rest.head?, next.isDigit = false ∧ next ≠ '.') :
    splitFraction (fractionText fraction ++ rest) = (fraction.getD [], rest) := by
  cases fraction with
  | none =>
      apply splitFraction.eq_2
      rintro others rfl
      exact (stops '.' rfl).2 rfl
  | some places =>
      obtain ⟨taken, dropped⟩ := takeWhile_of_stops (digits places rfl) fun next first =>
        (stops next first).1
      rw [fractionText, List.cons_append, splitFraction, taken, dropped]
      rfl

theorem exists_splitFraction (text : List Char) :
    ∃ fraction : Option (List Char), (∀ digits ∈ fraction, ∀ char ∈ digits, char.isDigit = true) ∧
      fractionText fraction ++ (splitFraction text).2 = text ∧
      fraction.getD [] = (splitFraction text).1 := by
  unfold splitFraction
  split
  next rest =>
    refine ⟨some (rest.takeWhile Char.isDigit), ?_, ?_, rfl⟩
    · rintro _ ⟨⟩ char member
      exact List.mem_takeWhile_imp member
    · exact congrArg ('.' :: ·) List.takeWhile_append_dropWhile
  next => exact ⟨none, nofun, rfl, rfl⟩

theorem readExponent?_exponentText (exponent : Option ExponentPart) :
    readExponent? (exponentText exponent) = some ((exponent.map ExponentPart.value).getD 0) := by
  cases exponent with
  | none => rfl
  | some part => exact part.readExponent?_text

theorem exists_of_readExponent? {text : List Char} {value : Int}
    (read : readExponent? text = some value) :
    ∃ exponent : Option ExponentPart, exponentText exponent = text ∧
      (exponent.map ExponentPart.value).getD 0 = value := by
  cases text with
  | nil => exact ⟨none, rfl, Option.some.inj read⟩
  | cons char rest =>
      obtain ⟨part, written, same⟩ := ExponentPart.exists_of_readExponent? read
      exact ⟨some part, written, same⟩

/-- No literal goes on with a second sign. -/
theorem unsigned (literal : DecimalLiteral) :
    ∀ next ∈ (literal.whole ++
      (fractionText literal.fraction ++ exponentText literal.exponent)).head?,
      next ≠ '+' ∧ next ≠ '-' := by
  intro next first
  cases whole : literal.whole with
  | cons char rest =>
      rw [whole] at first
      cases first
      have digit := literal.wholeDigits next (whole ▸ List.mem_cons_self)
      constructor <;> rintro rfl <;> exact absurd digit (by decide)
  | nil =>
      rcases literal.someDigit with some | ⟨digits, fraction, _⟩
      · exact absurd whole some
      · rw [whole, fraction] at first
        cases first
        decide

theorem read?_text (literal : DecimalLiteral) :
    Numeral.read? literal.text = some literal.numeral := by
  have stops : ∀ next ∈ (exponentText literal.exponent).head?,
      next.isDigit = false ∧ next ≠ '.' := fun next first => not_digit_of_exponentText first
  have wholeStops : ∀ next ∈ (fractionText literal.fraction ++
      exponentText literal.exponent).head?, next.isDigit = false := by
    intro next first
    cases fraction : literal.fraction with
    | none =>
        rw [fraction] at first
        exact (stops next first).1
    | some digits =>
        rw [fraction] at first
        cases first
        decide
  -- What follows the digits of the whole part is no digit, so that they are taken as they are.
  obtain ⟨taken, dropped⟩ := takeWhile_of_stops literal.wholeDigits wholeStops
  have digit : (literal.whole.isEmpty && (literal.fraction.getD []).isEmpty) = false := by
    rcases literal.someDigit with some | ⟨digits, fraction, some⟩
    · simp [some]
    · simp [fraction, some]
  unfold Numeral.read?
  rw [text, literal.sign.splitSign_text literal.unsigned]
  dsimp only
  rw [taken, dropped, splitFraction_text literal.fractionDigits stops]
  dsimp only
  rw [digit, readExponent?_exponentText]
  rfl

/-- What is read as a numeral is written as a literal. -/
theorem exists_of_read? {text : List Char} {numeral : Numeral}
    (read : Numeral.read? text = some numeral) :
    ∃ literal : DecimalLiteral, literal.text = text ∧ literal.numeral = numeral := by
  obtain ⟨sign, signed, negative⟩ := SignMark.exists_splitSign text
  have body := List.takeWhile_append_dropWhile (p := Char.isDigit) (l := (splitSign text).2)
  obtain ⟨fraction, fractionDigits, pointed, places⟩ :=
    exists_splitFraction ((splitSign text).2.dropWhile Char.isDigit)
  unfold Numeral.read? at read
  dsimp only at read
  split at read
  next => cases read
  next digit =>
    obtain ⟨value, exponentRead, rfl⟩ := Option.map_eq_some_iff.mp read
    obtain ⟨exponent, written, same⟩ := exists_of_readExponent? exponentRead
    have someDigit : (splitSign text).2.takeWhile Char.isDigit ≠ [] ∨
        ∃ digits, fraction = some digits ∧ digits ≠ [] := by
      by_cases empty : (splitSign text).2.takeWhile Char.isDigit = []
      · rw [empty, ← places] at digit
        cases fraction with
        | none => exact absurd rfl digit
        | some digits => exact .inr ⟨digits, rfl, by simpa using digit⟩
      · exact .inl empty
    refine ⟨⟨sign, (splitSign text).2.takeWhile Char.isDigit, fraction, exponent,
      fun char member => List.mem_takeWhile_imp member, fractionDigits, someDigit⟩, ?_, ?_⟩
    · rw [DecimalLiteral.text, written, pointed, body, signed]
    · rw [← negative, ← places, ← same]
      rfl

/-! ## The number of a literal -/

/-- The magnitude of the number that a literal denotes: its whole part and its fraction, by
the power of ten of its exponent. -/
def magnitude (literal : DecimalLiteral) : ℚ :=
  (Nat.ofDigitChars 10 literal.whole 0 +
      (Nat.ofDigitChars 10 literal.places 0 : ℚ) / (10 : ℚ) ^ literal.places.length) *
    (10 : ℚ) ^ literal.scale

theorem magnitude_eq (literal : DecimalLiteral) :
    literal.magnitude = (literal.numeral.significand : ℚ) * (10 : ℚ) ^ literal.numeral.exponent := by
  have ten : (10 : ℚ) ≠ 0 := by norm_num
  have joined : literal.numeral.significand =
      10 ^ literal.places.length * Nat.ofDigitChars 10 literal.whole 0 +
        Nat.ofDigitChars 10 literal.places 0 := by
    rw [numeral, digitsValue_eq_ofDigitChars, Nat.ofDigitChars_append,
      Nat.ofDigitChars_eq_ofDigitChars_zero]
  have exponent : literal.numeral.exponent = literal.scale - (literal.places.length : Int) := rfl
  rw [joined, exponent, magnitude, zpow_sub₀ ten, zpow_natCast]
  push_cast
  field_simp

end DecimalLiteral

end ExprLexer
