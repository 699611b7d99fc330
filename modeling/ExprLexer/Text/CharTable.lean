/-!
# Character tables

A class of characters is given by its code points as inclusive ranges in
increasing order.
-/

set_option autoImplicit false

namespace ExprLexer.Text

/-- Inclusive ranges of code points. -/
abbrev CharTable := List (Nat × Nat)

def CharTable.contains (table : CharTable) (char : Char) : Bool :=
  table.any fun (first, last) => first ≤ char.toNat && char.toNat ≤ last

end ExprLexer.Text
