import ExprLexer.Proofs.Number.DecimalText
import ExprLexer.Proofs.Numeral.Literal
import ExprLexer.Proofs.Numeral.Rounded

/-! Decimals are read from the three names and from decimal literals, and from nothing
else. A literal is rounded to the value nearest to the number that it denotes. -/

set_option autoImplicit false

namespace ExprLexer

theorem DecimalLiteral.isNearest_toBinary64 (literal : DecimalLiteral) :
    Binary64.IsNearest literal.sign.negative literal.magnitude literal.numeral.toBinary64 := by
  rw [literal.magnitude_eq]
  exact literal.numeral.isNearest_toBinary64

namespace Decimal

theorem parse_literal (literal : DecimalLiteral) :
    parse (String.ofList literal.text) = .ok ⟨literal.numeral.toBinary64⟩ :=
  parse_of_read? (by rw [String.toList_ofList, literal.read?_text])

/-- The words for the values that have no literal. -/
def names : List (String × Binary64) :=
  [("inf", .infinity false), ("-inf", .infinity true), ("NaN", .nan)]

theorem parse_of_mem_names {entry : String × Binary64} (named : entry ∈ names) :
    parse entry.1 = .ok ⟨entry.2⟩ := by
  simp only [names, List.mem_cons, List.not_mem_nil, or_false] at named
  rcases named with rfl | rfl | rfl <;> rfl

theorem parse_of_unnamed {text : String} (unnamed : text ∉ names.map Prod.fst) :
    parse text =
      match Numeral.read? text.toList with
      | some numeral => .ok ⟨numeral.toBinary64⟩
      | none => .error (.notDecimalLiteral text) := by
  simp only [names, List.map_cons, List.map_nil, List.mem_cons, List.not_mem_nil, or_false,
    not_or] at unnamed
  cases found : Numeral.read? text.toList <;>
    rw [parse, if_neg unnamed.1, if_neg unnamed.2.1, if_neg unnamed.2.2, found]

/-- A text is one of the names, or a literal, or it is refused. -/
theorem parse_cases (text : String) :
    (∃ value, (text, value) ∈ names) ∨
      (∃ literal : DecimalLiteral, String.ofList literal.text = text) ∨
      parse text = .error (.notDecimalLiteral text) := by
  by_cases named : text ∈ names.map Prod.fst
  · obtain ⟨entry, member, rfl⟩ := List.mem_map.mp named
    exact .inl ⟨entry.2, member⟩
  · right
    have read := parse_of_unnamed named
    cases found : Numeral.read? text.toList with
    | none =>
        rw [found] at read
        exact .inr read
    | some numeral =>
        obtain ⟨literal, written, _⟩ := DecimalLiteral.exists_of_read? found
        exact .inl ⟨literal, by rw [written, String.ofList_toList]⟩

/-- A text is read as a decimal exactly if it is one of the three names, or as a whole a
decimal literal; the decimal is then the named value, or the value nearest to the exact number
that the literal denotes, of the sign of the literal. Every other text is refused. -/
theorem parse_accepts_names_and_literals (text : String) :
    (∀ decimal, parse text = .ok decimal ↔
      (text, decimal.value) ∈ names ∨
        ∃ literal : DecimalLiteral, String.ofList literal.text = text ∧
          Binary64.IsNearest literal.sign.negative literal.magnitude decimal.value) ∧
      (parse text = .error (.notDecimalLiteral text) ↔
        text ∉ names.map Prod.fst ∧
          ∀ literal : DecimalLiteral, String.ofList literal.text ≠ text) := by
  refine ⟨fun decimal => ⟨fun read => ?_, ?_⟩, fun refused => ⟨?_, ?_⟩, ?_⟩
  · rcases parse_cases text with ⟨value, named⟩ | ⟨literal, rfl⟩ | refused
    · have known := parse_of_mem_names named
      rw [read] at known
      cases known
      exact .inl named
    · have known := parse_literal literal
      rw [read] at known
      cases known
      exact .inr ⟨literal, rfl, literal.isNearest_toBinary64⟩
    · rw [read] at refused
      cases refused
  · rintro (named | ⟨literal, rfl, nearest⟩)
    · exact parse_of_mem_names named
    · rw [parse_literal, literal.isNearest_toBinary64.unique nearest]
  · intro named
    obtain ⟨entry, member, rfl⟩ := List.mem_map.mp named
    rw [parse_of_mem_names member] at refused
    cases refused
  · rintro literal rfl
    rw [parse_literal] at refused
    cases refused
  · rintro ⟨unnamed, noLiteral⟩
    rcases parse_cases text with ⟨value, named⟩ | ⟨literal, written⟩ | refused
    · exact absurd (List.mem_map_of_mem named) unnamed
    · exact absurd written (noLiteral literal)
    · exact refused

end Decimal

end ExprLexer
