/-!
# Terminal control sequences

A control sequence is the escape character, an opening bracket, parameters made
of digits, semicolons and question marks, and one ASCII letter. Streams that are
no terminals get texts without them.
-/

set_option autoImplicit false

namespace ExprLexer.Text

def escapeChar : Char := '\x1b'

/-- Whether a character belongs to the parameters of a control sequence. -/
def isControlParameter (char : Char) : Bool :=
  char == ';' || char == '?' || char.isDigit

/-- What follows a control sequence whose escape character has been taken. -/
def afterControl? : List Char → Option (List Char)
  | '[' :: rest =>
      match rest.dropWhile isControlParameter with
      | final :: remaining => if final.isAlpha then some remaining else none
      | [] => none
  | _ => none

theorem length_afterControl? {text remaining : List Char}
    (found : afterControl? text = some remaining) : remaining.length < text.length := by
  unfold afterControl? at found
  split at found
  · rename_i rest
    split at found
    · rename_i final others dropped
      have shorter := (List.dropWhile_sublist (l := rest) isControlParameter).length_le
      rw [dropped] at shorter
      split at found
      · cases found
        simp only [List.length_cons] at shorter ⊢
        omega
      · cases found
    · cases found
  · cases found

/-- The text without its control sequences. -/
def stripControls : List Char → List Char
  | [] => []
  | char :: rest =>
      if char = escapeChar then
        match _found : afterControl? rest with
        | some remaining => stripControls remaining
        | none => char :: stripControls rest
      else char :: stripControls rest
  termination_by text => text.length
  decreasing_by
    · have := length_afterControl? _found
      simp only [List.length_cons]
      omega
    · simp
    · simp

end ExprLexer.Text
