import ExprLexer.Toml.Reader
import Mathlib.Data.List.TakeWhile

/-! The readers of documents take from the text before they go on, so that the fuel they are
given is always enough: with more of it they read the same. -/

set_option autoImplicit false

namespace ExprLexer.Toml

variable {text rest : List Char}

/-! ## What numbers and moments leave -/

section Options

variable {isDigit : Char → Bool} {digits : List Char}

theorem length_takeDigits (isDigit : Char → Bool) (text : List Char) :
    (takeDigits isDigit text).2.length ≤ text.length := by
  fun_induction takeDigits isDigit text with
  | case1 => exact Nat.le_refl _
  | case2 digit rest _ digits remaining taken ih =>
      simp only [taken, List.length_cons] at ih ⊢
      omega
  | case3 => exact Nat.le_refl _
  | case4 digit rest _ _ digits remaining taken ih =>
      simp only [taken, List.length_cons] at ih ⊢
      omega
  | case5 => exact Nat.le_refl _

theorem length_takeDigitRun (taken : takeDigitRun? isDigit text = some (digits, rest)) :
    rest.length ≤ text.length := by
  cases text with
  | nil => cases taken
  | cons first others =>
      have shorter := length_takeDigits isDigit others
      simp only [takeDigitRun?] at taken
      split at taken
      · obtain ⟨rfl, rfl⟩ := taken
        exact Nat.le_succ_of_le shorter
      · cases taken

theorem length_splitSign (text : List Char) : (splitSign text).2.length ≤ text.length := by
  unfold splitSign
  split <;> simp

theorem length_takeRadixInteger {value : Int}
    (taken : takeRadixInteger? text = some (value, rest)) : rest.length ≤ text.length := by
  have run {base : Nat} {isDigit : Char → Bool} {after : List Char}
      (taken : takeRadixInteger?.run base isDigit after = some (value, rest)) :
      rest.length ≤ after.length := by
    obtain ⟨⟨digits, remaining⟩, read, same⟩ := Option.map_eq_some_iff.mp taken
    cases same
    exact length_takeDigitRun read
  unfold takeRadixInteger? at taken
  split at taken
  · exact Nat.le_add_right_of_le (Nat.le_add_right_of_le (run taken))
  · exact Nat.le_add_right_of_le (Nat.le_add_right_of_le (run taken))
  · exact Nat.le_add_right_of_le (Nat.le_add_right_of_le (run taken))
  · cases taken

theorem length_takeWholePart {whole : List Char}
    (taken : takeWholePart? text = some (whole, rest)) : rest.length ≤ text.length := by
  unfold takeWholePart? at taken
  split at taken
  · cases taken
    exact Nat.le_succ _
  · exact length_takeDigitRun taken

theorem length_takeFraction {fraction : List Char}
    (taken : takeFraction? text = some (fraction, rest)) : rest.length ≤ text.length := by
  unfold takeFraction? at taken
  split at taken
  · exact Nat.le_succ_of_le (length_takeDigitRun taken)
  · cases taken

theorem length_takeExponent {exponent : Int}
    (taken : takeExponent? text = some (exponent, rest)) : rest.length ≤ text.length := by
  cases text with
  | nil => cases taken
  | cons mark others =>
      have unsigned := length_splitSign others
      simp only [takeExponent?] at taken
      split at taken
      · obtain ⟨⟨digits, remaining⟩, read, same⟩ := Option.map_eq_some_iff.mp taken
        cases same
        have shorter := length_takeDigitRun read
        simp only [List.length_cons]
        omega
      · cases taken

theorem length_takeDecimal {reading : Except Fault (Taken Value)}
    (taken : takeDecimal? text = some reading) :
    ∀ value rest, reading = .ok (value, rest) → rest.length ≤ text.length := by
  have unsigned := length_splitSign text
  simp only [takeDecimal?, Option.bind_eq_bind, Option.bind_eq_some_iff, Prod.exists] at taken
  obtain ⟨whole, afterWhole, read, finish⟩ := taken
  have shorter := length_takeWholePart read
  -- the fraction and the exponent leave no more, whether or not they are there
  have fraction : ((takeFraction? afterWhole).getD ([], afterWhole)).2.length ≤
      afterWhole.length := by
    cases found : takeFraction? afterWhole with
    | none => exact Nat.le_refl _
    | some taken => exact length_takeFraction found
  have exponent (text : List Char) : ((takeExponent? text).getD (0, text)).2.length ≤
      text.length := by
    cases found : takeExponent? text with
    | none => exact Nat.le_refl _
    | some taken => exact length_takeExponent found
  have exponent := exponent ((takeFraction? afterWhole).getD ([], afterWhole)).2
  intro value rest same
  split at finish
  · cases finish
    cases same
    omega
  · split at finish
    · cases finish
      cases same
    · cases finish
      cases same
      omega

theorem length_takeNumber {width least greatest value : Nat}
    (taken : takeNumber? width least greatest text = some (value, rest)) :
    rest.length ≤ text.length := by
  simp only [takeNumber?] at taken
  split at taken
  · cases taken
    rw [List.length_drop]
    exact Nat.sub_le _ _
  · cases taken

theorem length_takeChar {char : Char} (taken : takeChar? char text = some rest) :
    rest.length ≤ text.length := by
  cases text with
  | nil => cases taken
  | cons first others =>
      simp only [takeChar?] at taken
      split at taken
      · cases taken
        exact Nat.le_succ _
      · cases taken

theorem length_takeDate {date : Date} (taken : takeDate? text = some (date, rest)) :
    rest.length ≤ text.length := by
  simp only [takeDate?, Option.bind_eq_bind, Option.bind_eq_some_iff, Prod.exists, Option.pure_def,
    Option.some.injEq, Prod.mk.injEq] at taken
  obtain ⟨year, afterYear, first, _, dash, month, afterMonth, second, _, again, day, afterDay,
    third, rfl, rfl⟩ := taken
  have first := length_takeNumber first
  have dash := length_takeChar dash
  have second := length_takeNumber second
  have again := length_takeChar again
  have third := length_takeNumber third
  omega

theorem length_takeMicroseconds (text : List Char) :
    (takeMicroseconds text).2.length ≤ text.length := by
  unfold takeMicroseconds
  split
  · dsimp only
    split
    · exact Nat.le_refl _
    · exact Nat.le_succ_of_le (List.length_dropWhile_le _ _)
  · exact Nat.le_refl _

theorem length_takeTime {time : Time} (taken : takeTime? text = some (time, rest)) :
    rest.length ≤ text.length := by
  simp only [takeTime?, Option.bind_eq_bind, Option.bind_eq_some_iff, Prod.exists, Option.pure_def,
    Option.some.injEq, Prod.mk.injEq] at taken
  obtain ⟨hour, afterHour, first, _, colon, minute, afterMinute, second, _, again, whole,
    afterWhole, third, rfl, rfl⟩ := taken
  have first := length_takeNumber first
  have colon := length_takeChar colon
  have second := length_takeNumber second
  have again := length_takeChar again
  have third := length_takeNumber third
  have last := length_takeMicroseconds afterWhole
  omega

theorem length_takeOffset {offset : Int} (taken : takeOffset? text = some (offset, rest)) :
    rest.length ≤ text.length := by
  simp only [takeOffset?, Option.bind_eq_bind, Option.bind_eq_some_iff, Prod.exists,
    Option.pure_def, Option.some.injEq, Prod.mk.injEq] at taken
  obtain ⟨hour, afterHour, first, _, colon, minute, afterMinute, second, rfl, rfl⟩ := taken
  have first := length_takeNumber first
  have colon := length_takeChar colon
  have second := length_takeNumber second
  omega

theorem length_takeZone (text : List Char) : (takeZone text).2.length ≤ text.length := by
  simp only [takeZone]
  split
  · rename_i minutes rest zone
    split at zone
    · cases zone
      exact Nat.le_succ _
    · cases zone
      exact Nat.le_succ _
    · exact Nat.le_succ_of_le (length_takeOffset zone)
    · obtain ⟨⟨offset, remaining⟩, read, same⟩ := Option.map_eq_some_iff.mp zone
      cases same
      exact Nat.le_succ_of_le (length_takeOffset read)
    · cases zone
  · exact Nat.le_refl _

theorem length_takeTimeAfterDate {time : Time}
    (taken : takeTimeAfterDate? text = some (time, rest)) : rest.length ≤ text.length := by
  cases text with
  | nil => cases taken
  | cons separator others =>
      simp only [takeTimeAfterDate?] at taken
      split at taken
      · exact Nat.le_succ_of_le (length_takeTime taken)
      · cases taken

end Options

/-! ## What readers leave -/

/-- A reading, if it does not fail, leaves at most so many characters. -/
def Leaves {α : Type} (bound : Nat) (reading : Except Fault (Taken α)) : Prop :=
  ∀ taken rest, reading = .ok (taken, rest) → rest.length ≤ bound

namespace Leaves

variable {α β : Type} {bound larger : Nat} {reading : Except Fault (Taken α)}

theorem error (cause : Fault) : Leaves bound (.error cause : Except Fault (Taken α)) := nofun

theorem ok {taken : α} (shorter : rest.length ≤ bound) : Leaves bound (.ok (taken, rest)) := by
  intro _ _ same
  cases same
  exact shorter

theorem mono (leaves : Leaves bound reading) (le : bound ≤ larger) : Leaves larger reading :=
  fun taken rest read => Nat.le_trans (leaves taken rest read) le

theorem bind {next : Taken α → Except Fault (Taken β)} (leaves : Leaves bound reading)
    (after : ∀ taken rest, rest.length ≤ bound → Leaves larger (next (taken, rest))) :
    Leaves larger (reading >>= next) := by
  cases reading with
  | error cause => exact error cause
  | ok pair =>
      obtain ⟨taken, rest⟩ := pair
      exact after taken rest (leaves taken rest rfl)

theorem after {γ : Type} {step : Except Fault γ} {next : γ → Except Fault (Taken β)}
    (leaves : ∀ done, step = .ok done → Leaves bound (next done)) :
    Leaves bound (step >>= next) := by
  cases step with
  | error cause => exact error cause
  | ok done => exact leaves done rfl

theorem map {change : Taken α → Taken β} (leaves : Leaves bound reading)
    (keeps : ∀ pair, (change pair).2 = pair.2) : Leaves bound (reading.map change) := by
  cases reading with
  | error cause => exact error cause
  | ok pair =>
      refine ok ?_
      rw [keeps pair]
      exact leaves pair.1 pair.2 rfl

end Leaves

section Readers

variable {multiline : Bool}

theorem leaves_readCodePoint (width : Nat) (text : List Char) :
    Leaves text.length (readCodePoint width text) := by
  simp only [readCodePoint]
  split
  · refine .ok ?_
    rw [List.length_drop]
    exact Nat.sub_le _ _
  · exact .error _

theorem leaves_readEscape (multiline : Bool) (text : List Char) :
    Leaves text.length (readEscape multiline text) := by
  cases text with
  | nil => exact .error _
  | cons mark others =>
      simp only [readEscape]
      split
      · exact .ok (Nat.le_succ_of_le (List.length_dropWhile_le _ _))
      · split
        · have blanks := List.length_dropWhile_le isLineBlank others
          split
          · exact .ok (Nat.zero_le _)
          · rename_i below started
            rw [show others.dropWhile isLineBlank = _ from started, List.length_cons] at blanks
            have gaps := List.length_dropWhile_le isGap below
            refine .ok ?_
            simp only [List.length_cons]
            omega
          · exact .error _
        · split
          · exact (leaves_readCodePoint 4 others).mono (Nat.le_succ _)
          · split
            · exact (leaves_readCodePoint 8 others).mono (Nat.le_succ _)
            · split
              · exact .ok (Nat.le_succ _)
              · exact .error _

theorem leaves_readBasic (multiline : Bool) : ∀ fuel text,
    Leaves text.length (readBasic multiline fuel text) := by
  intro fuel
  induction fuel with
  | zero => exact fun text => .error _
  | succ fuel ih =>
      intro text
      cases text with
      | nil => exact .error _
      | cons char others =>
          have later (text : List Char) (shorter : text.length ≤ others.length) :
              Leaves (char :: others).length (readBasic multiline fuel text) :=
            (ih text).mono (Nat.le_succ_of_le shorter)
          simp only [readBasic]
          split
          · refine (leaves_readEscape multiline others).bind fun escaped rest shorter => ?_
            exact (later rest shorter).bind fun chars remaining shorter => .ok shorter
          · split
            · exact .ok (Nat.le_succ _)
            · exact .ok (by simp only [List.length_cons]; omega)
            · split
              · exact .error _
              · exact (later others (Nat.le_refl _)).bind fun chars remaining shorter =>
                  .ok shorter

theorem leaves_readLiteral (multiline : Bool) (text : List Char) :
    Leaves text.length (readLiteral multiline text) := by
  induction text with
  | nil => exact .error _
  | cons char others ih =>
      have later := ih.mono (Nat.le_succ others.length)
      simp only [readLiteral]
      split
      · exact .ok (Nat.le_succ _)
      · exact .ok (by simp only [List.length_cons]; omega)
      · split
        · exact .error _
        · exact later.bind fun chars remaining shorter => .ok shorter

theorem length_skipFirstNewline (text : List Char) :
    (skipFirstNewline text).length ≤ text.length := by
  unfold skipFirstNewline
  split
  · exact Nat.le_succ _
  · exact Nat.le_refl _

theorem length_takeExtraQuotes (mark : Char) (text : List Char) :
    (takeExtraQuotes mark text).2.length ≤ text.length := by
  unfold takeExtraQuotes
  split
  · split
    · split <;> simp only [List.length_cons] <;> omega
    · exact Nat.le_refl _
  · split
    · exact Nat.zero_le _
    · exact Nat.le_refl _
  · exact Nat.le_refl _

theorem leaves_readMultiline (mark : Char) (text : List Char) :
    Leaves text.length (readMultiline mark text) := by
  have body := length_skipFirstNewline text
  have quotes (chars : List Char) (rest : List Char) (shorter : rest.length ≤ text.length) :
      Leaves text.length (.ok (chars ++ (takeExtraQuotes mark rest).1,
        (takeExtraQuotes mark rest).2)) :=
    .ok (Nat.le_trans (length_takeExtraQuotes mark rest) shorter)
  simp only [readMultiline]
  split
  · exact ((leaves_readBasic true _ _).mono body).bind quotes
  · exact ((leaves_readLiteral true _).mono body).bind quotes

theorem length_takeMoment {moment : Moment}
    (taken : takeMoment text = .ok (some (moment, rest))) : rest.length ≤ text.length := by
  unfold takeMoment at taken
  split at taken
  · rename_i date afterDate read
    have shorter := length_takeDate read
    split at taken
    · cases taken
    · split at taken
      · rename_i time afterTime follows
        have later := length_takeTimeAfterDate follows
        have zone := length_takeZone afterTime
        simp only [Except.ok.injEq, Option.some.injEq, Prod.mk.injEq] at taken
        obtain ⟨-, rfl⟩ := taken
        omega
      · cases taken
        exact shorter
  · have taken := Except.ok.inj taken
    obtain ⟨⟨time, remaining⟩, read, same⟩ := Option.map_eq_some_iff.mp taken
    cases same
    exact length_takeTime read

theorem leaves_takeNumberValue {reading : Except Fault (Taken Value)}
    (taken : takeNumberValue? text = some reading) : Leaves text.length reading := by
  unfold takeNumberValue? at taken
  split at taken
  · rename_i value rest read
    cases taken
    exact .ok (length_takeRadixInteger read)
  · split at taken
    · rename_i read
      cases taken
      exact length_takeDecimal read
    · obtain ⟨⟨value, remaining⟩, read, rfl⟩ := Option.map_eq_some_iff.mp taken
      have unsigned := length_splitSign text
      simp only [takeNamedFloat?] at read
      refine .ok ?_
      split at read
      · rename_i named
        simp only [named, List.length_cons] at unsigned
        cases read
        omega
      · rename_i named
        simp only [named, List.length_cons] at unsigned
        cases read
        omega
      · cases read

theorem leaves_readScalar (text : List Char) : Leaves text.length (readScalar text) := by
  have string {count : Nat} {reading : Except Fault (Taken (List Char))}
      (leaves : Leaves count reading) (longer : count ≤ text.length) :
      Leaves text.length (reading.map fun pair => (Value.string (String.ofList pair.1), pair.2)) :=
    (leaves.mono longer).map fun _ => rfl
  unfold readScalar
  dsimp only
  split
  · exact string (leaves_readMultiline _ _) (by simp only [List.length_cons]; omega)
  · exact string (leaves_readBasic _ _ _) (by simp only [List.length_cons]; omega)
  · exact string (leaves_readMultiline _ _) (by simp only [List.length_cons]; omega)
  · exact string (leaves_readLiteral _ _) (by simp only [List.length_cons]; omega)
  · exact .ok (by simp only [List.length_cons]; omega)
  · exact .ok (by simp only [List.length_cons]; omega)
  · cases read : takeMoment text with
    | error cause => exact .error cause
    | ok moment =>
        cases moment with
        | some taken => exact .ok (length_takeMoment read)
        | none =>
            show Leaves text.length ((takeNumberValue? text).getD (.error .malformed))
            cases taken : takeNumberValue? text with
            | none => exact .error _
            | some reading => exact leaves_takeNumberValue taken

/-! ### Keys -/

theorem length_skipBlanks (text : List Char) : (skipBlanks text).length ≤ text.length :=
  List.length_dropWhile_le _ _

theorem length_skipGaps {inComment : Bool} (skipped : skipGaps inComment text = .ok rest) :
    rest.length ≤ text.length := by
  induction text generalizing inComment with
  | nil =>
      cases skipped
      exact Nat.le_refl _
  | cons char others ih =>
      simp only [skipGaps] at skipped
      split at skipped
      · split at skipped
        · cases skipped
        · exact Nat.le_succ_of_le (ih skipped)
      · split at skipped
        · exact Nat.le_succ_of_le (ih skipped)
        · split at skipped
          · exact Nat.le_succ_of_le (ih skipped)
          · cases skipped
            exact Nat.le_refl _

theorem length_skipComment (skipped : skipComment text = .ok rest) :
    rest.length ≤ text.length := by
  unfold skipComment at skipped
  split at skipped
  · split at skipped
    · cases skipped
    · cases skipped
      exact Nat.le_succ_of_le (List.length_dropWhile_le _ _)
  · cases skipped
    exact Nat.le_refl _

theorem leaves_readKeyPart (text : List Char) : Leaves text.length (readKeyPart text) := by
  unfold readKeyPart
  split
  · exact ((leaves_readBasic _ _ _).mono (Nat.le_succ _)).map fun _ => rfl
  · exact ((leaves_readLiteral _ _).mono (Nat.le_succ _)).map fun _ => rfl
  · dsimp only
    split
    · exact .error _
    · exact .ok (List.length_dropWhile_le _ _)

theorem leaves_readKey : ∀ fuel text, Leaves text.length (readKey fuel text) := by
  intro fuel
  induction fuel with
  | zero => exact fun text => .error _
  | succ fuel ih =>
      intro text
      simp only [readKey]
      refine (leaves_readKeyPart text).bind fun part rest shorter => ?_
      have blanks := length_skipBlanks rest
      split
      · rename_i afterPoint pointed
        rw [pointed, List.length_cons] at blanks
        have later := length_skipBlanks afterPoint
        refine (ih (skipBlanks afterPoint)).bind fun parts remaining left => .ok ?_
        exact Nat.le_trans left (by omega)
      · exact .ok (Nat.le_trans blanks shorter)

theorem leaves_readKeyAndEquals (text : List Char) :
    Leaves (text.length - 1) (readKeyAndEquals text) := by
  unfold readKeyAndEquals
  refine (leaves_readKey _ text).bind fun key rest shorter => ?_
  split
  · rename_i read afterEquals same
    cases same
    have blanks := length_skipBlanks afterEquals
    simp only [List.length_cons] at shorter
    exact .ok (by omega)
  · exact .error _

/-! ### Values -/

theorem leaves_readValue_of {fuel : Nat}
    (elements : ∀ text, Leaves text.length (readElements fuel text))
    (entries : ∀ table text, Leaves text.length (readEntries fuel table text))
    (text : List Char) : Leaves text.length (readValue (fuel + 1) text) := by
  simp only [readValue]
  split
  · refine .after fun gap skipped => ?_
    have shorter := length_skipGaps skipped
    split
    · simp only [List.length_cons] at shorter ⊢
      exact .ok (by omega)
    · refine (elements gap).bind fun read remaining left => .ok ?_
      simp only [List.length_cons]
      omega
  · rename_i inner
    have shorter := length_skipBlanks inner
    split
    · rename_i remaining closed
      simp only [closed, List.length_cons] at shorter ⊢
      exact .ok (by omega)
    · exact (entries _ _).mono (Nat.le_succ_of_le shorter)
  · exact leaves_readScalar text

theorem leaves_readElements_of {fuel : Nat}
    (value : ∀ text, Leaves text.length (readValue fuel text))
    (elements : ∀ text, Leaves text.length (readElements fuel text))
    (text : List Char) : Leaves text.length (readElements (fuel + 1) text) := by
  simp only [readElements]
  refine (value text).bind fun element rest left => .after fun gap skipped => ?_
  have shorter := length_skipGaps skipped
  split
  · simp only [List.length_cons] at shorter
    exact .ok (by omega)
  · simp only [List.length_cons] at shorter
    refine .after fun next skipped => ?_
    have later := length_skipGaps skipped
    split
    · simp only [List.length_cons] at later
      exact .ok (by omega)
    · refine ((elements next).mono ?_).bind fun read remaining left => .ok left
      omega
  · exact .error _

theorem leaves_readEntries_of {fuel : Nat}
    (value : ∀ text, Leaves text.length (readValue fuel text))
    (entries : ∀ table text, Leaves text.length (readEntries fuel table text))
    (table : InlineTable) (text : List Char) :
    Leaves text.length (readEntries (fuel + 1) table text) := by
  simp only [readEntries]
  refine (leaves_readKeyAndEquals text).bind fun key afterEquals shorter => ?_
  refine (value afterEquals).bind fun read rest left => .after fun grown assigned => ?_
  have blanks := length_skipBlanks rest
  split
  · rename_i remaining closed
    simp only [closed, List.length_cons] at blanks
    exact .ok (by omega)
  · rename_i afterComma parted
    have later := length_skipBlanks afterComma
    simp only [parted, List.length_cons] at blanks
    exact (entries grown (skipBlanks afterComma)).mono (by omega)
  · exact .error _

/-- What values leave, by induction on the fuel for all three kinds of readers at once. -/
theorem leaves_readValues (fuel : Nat) :
    (∀ text, Leaves text.length (readValue fuel text)) ∧
      (∀ text, Leaves text.length (readElements fuel text)) ∧
      ∀ table text, Leaves text.length (readEntries fuel table text) := by
  induction fuel with
  | zero =>
      simp only [readValue, readElements, readEntries]
      exact ⟨fun _ => .error _, fun _ => .error _, fun _ _ => .error _⟩
  | succ fuel ih =>
      obtain ⟨value, elements, entries⟩ := ih
      exact ⟨leaves_readValue_of elements entries, leaves_readElements_of value elements,
        leaves_readEntries_of value entries⟩

/-! ### Statements -/

theorem leaves_readHeader (closing text : List Char) :
    Leaves text.length (readHeader closing text) := by
  unfold readHeader
  refine (leaves_readKey _ _).bind fun key rest shorter => ?_
  have blanks := length_skipBlanks text
  dsimp only
  split
  · refine .ok ?_
    rw [List.length_drop]
    omega
  · exact .error _

theorem leaves_readStatement (document : Document) (text : List Char) :
    Leaves text.length (readStatement document text) := by
  unfold readStatement
  split
  · refine ((leaves_readHeader _ _).mono ?_).bind fun key remaining left =>
      .after fun opened _ => .ok left
    simp only [List.length_cons]
    omega
  · exact ((leaves_readHeader _ _).mono (Nat.le_succ _)).bind fun key remaining left =>
      .after fun opened _ => .ok left
  · refine (leaves_readKeyAndEquals text).bind fun key afterEquals shorter => ?_
    refine ((leaves_readValues _).1 afterEquals).bind fun value remaining left =>
      .after fun assigned _ => .ok ?_
    exact Nat.le_trans left (Nat.le_trans shorter (Nat.sub_le _ _))

end Readers

/-! ## Fuel -/

section Fuel

variable {α β γ : Type} {bound : Nat} {reading : Except Fault (Taken α)}

theorem bind_congr_of_leaves {next other : Taken α → Except Fault β}
    (leaves : Leaves bound reading)
    (same : ∀ taken rest, rest.length ≤ bound → next (taken, rest) = other (taken, rest)) :
    reading >>= next = reading >>= other := by
  cases reading with
  | error cause => rfl
  | ok pair => exact same pair.1 pair.2 (leaves pair.1 pair.2 rfl)

theorem bind_congr_of_ok {step : Except Fault γ} {next other : γ → Except Fault β}
    (same : ∀ done, step = .ok done → next done = other done) :
    step >>= next = step >>= other := by
  cases step with
  | error cause => rfl
  | ok done => exact same done rfl

theorem readBasic_congr (multiline : Bool) : ∀ {first second : Nat} {text : List Char},
    text.length ≤ first → text.length ≤ second →
      readBasic multiline first text = readBasic multiline second text := by
  intro first
  induction first with
  | zero =>
      intro second text enough other
      obtain rfl := List.eq_nil_of_length_eq_zero (Nat.le_zero.mp enough)
      cases second <;> rfl
  | succ first ih =>
      intro second text enough other
      cases text with
      | nil => cases second <;> rfl
      | cons char others =>
          cases second with
          | zero => cases other
          | succ second =>
              have enough := Nat.le_of_succ_le_succ enough
              have other := Nat.le_of_succ_le_succ other
              have same {text : List Char} (shorter : text.length ≤ others.length) :
                  readBasic multiline first text = readBasic multiline second text :=
                ih (Nat.le_trans shorter enough) (Nat.le_trans shorter other)
              simp only [readBasic]
              rw [same (Nat.le_refl _)]
              split
              · refine bind_congr_of_leaves (leaves_readEscape multiline others) ?_
                intro escaped rest shorter
                rw [same shorter]
              · rfl

theorem readKey_congr : ∀ {first second : Nat} {text : List Char},
    text.length ≤ first → text.length ≤ second → readKey first text = readKey second text := by
  intro first
  induction first with
  | zero =>
      intro second text enough other
      obtain rfl := List.eq_nil_of_length_eq_zero (Nat.le_zero.mp enough)
      cases second <;> rfl
  | succ first ih =>
      intro second text enough other
      cases second with
      | zero =>
          obtain rfl := List.eq_nil_of_length_eq_zero (Nat.le_zero.mp other)
          rfl
      | succ second =>
          simp only [readKey]
          refine bind_congr_of_leaves (leaves_readKeyPart text) fun part rest shorter => ?_
          have blanks := length_skipBlanks rest
          dsimp only
          split
          · rename_i afterPoint pointed
            rw [pointed, List.length_cons] at blanks
            have later := length_skipBlanks afterPoint
            have same : readKey first (skipBlanks afterPoint) = readKey second _ :=
              ih (by omega) (by omega)
            rw [same]
          · rfl

/-! ### Values -/

section Values

variable {first second : Nat}

theorem readValue_congr_of {text : List Char}
    (elements : ∀ rest : List Char, rest.length < text.length →
      readElements first rest = readElements second rest)
    (entries : ∀ table (rest : List Char), rest.length < text.length →
      readEntries first table rest = readEntries second table rest) :
    readValue (first + 1) text = readValue (second + 1) text := by
  simp only [readValue]
  split
  · refine bind_congr_of_ok fun gap skipped => ?_
    have shorter := length_skipGaps skipped
    split
    · rfl
    · rw [elements gap (Nat.lt_succ_of_le shorter)]
  · rename_i inner
    have shorter := length_skipBlanks inner
    split
    · rfl
    · exact entries _ _ (Nat.lt_succ_of_le shorter)
  · rfl

theorem readElements_congr_of {text : List Char}
    (value : readValue first text = readValue second text)
    (elements : ∀ rest : List Char, rest.length < text.length →
      readElements first rest = readElements second rest) :
    readElements (first + 1) text = readElements (second + 1) text := by
  simp only [readElements]
  rw [value]
  refine bind_congr_of_leaves ((leaves_readValues second).1 text) fun element rest left => ?_
  refine bind_congr_of_ok fun gap skipped => ?_
  have shorter := length_skipGaps skipped
  split
  · rfl
  · simp only [List.length_cons] at shorter
    refine bind_congr_of_ok fun next skipped => ?_
    have later := length_skipGaps skipped
    split
    · rfl
    · rw [elements next (by omega)]
  · rfl

theorem readEntries_congr_of {table : InlineTable} {text : List Char}
    (value : ∀ rest : List Char, rest.length ≤ text.length - 1 →
      readValue first rest = readValue second rest)
    (entries : ∀ table (rest : List Char), rest.length < text.length →
      readEntries first table rest = readEntries second table rest) :
    readEntries (first + 1) table text = readEntries (second + 1) table text := by
  simp only [readEntries]
  refine bind_congr_of_leaves (leaves_readKeyAndEquals text) fun key afterEquals shorter => ?_
  rw [value afterEquals shorter]
  refine bind_congr_of_leaves ((leaves_readValues second).1 afterEquals) fun read rest left => ?_
  refine bind_congr_of_ok fun grown assigned => ?_
  have blanks := length_skipBlanks rest
  split
  · rfl
  · rename_i afterComma parted
    have later := length_skipBlanks afterComma
    simp only [parted, List.length_cons] at blanks
    exact entries grown (skipBlanks afterComma) (by omega)
  · rfl

end Values

/-- An opening bracket takes one step for the value in it and one for its first element, so
two for each character of the text are enough. -/
theorem readValues_congr : ∀ {first second : Nat} {text : List Char},
    (2 * text.length + 1 ≤ first → 2 * text.length + 1 ≤ second →
        readValue first text = readValue second text) ∧
      (2 * text.length + 2 ≤ first → 2 * text.length + 2 ≤ second →
        readElements first text = readElements second text) ∧
      ∀ table, 2 * text.length + 2 ≤ first → 2 * text.length + 2 ≤ second →
        readEntries first table text = readEntries second table text := by
  intro first
  induction first with
  | zero =>
      intro second text
      exact ⟨nofun, nofun, nofun⟩
  | succ first ih =>
      intro second text
      cases second with
      | zero => exact ⟨nofun, nofun, nofun⟩
      | succ second =>
          refine ⟨fun enough other => ?_, fun enough other => ?_, fun table enough other => ?_⟩
          · exact readValue_congr_of
              (fun rest shorter => ih.2.1 (by omega) (by omega))
              fun table rest shorter => ih.2.2 table (by omega) (by omega)
          · exact readElements_congr_of (ih.1 (by omega) (by omega))
              fun rest shorter => ih.2.1 (by omega) (by omega)
          · exact readEntries_congr_of (fun rest shorter => ih.1 (by omega) (by omega))
              fun table rest shorter => ih.2.2 table (by omega) (by omega)

/-! ### Documents -/

theorem bind_lineEnd_congr (bound : Nat) {reading : Except Fault (Taken Document)}
    {next other : Taken Document → List Char → Except Fault Document}
    (leaves : Leaves bound reading)
    (same : ∀ pair ended, ended.length ≤ bound → next pair ended = other pair ended) :
    (reading >>= fun pair => skipComment (skipBlanks pair.2) >>= next pair) =
      reading >>= fun pair => skipComment (skipBlanks pair.2) >>= other pair := by
  refine bind_congr_of_leaves leaves fun grown rest shorter => ?_
  refine bind_congr_of_ok fun ended skipped => ?_
  have blanks := length_skipBlanks rest
  exact same (grown, rest) ended
    (Nat.le_trans (length_skipComment skipped) (Nat.le_trans blanks shorter))

theorem readStatements_congr_of {first second : Nat} {text : List Char}
    (statements : ∀ (document : Document) (rest : List Char), rest.length < text.length →
      readStatements first document rest = readStatements second document rest)
    (document : Document) :
    readStatements (first + 1) document text = readStatements (second + 1) document text := by
  have blanks := length_skipBlanks text
  have ended : Leaves text.length (.ok (document, [])) := .ok (Nat.zero_le _)
  have empty : Leaves text.length (.ok (document, skipBlanks text)) := .ok blanks
  have statement := (leaves_readStatement document (skipBlanks text)).mono blanks
  simp only [readStatements]
  -- the kinds of lines all go on in the same way at their end
  split
  case' h_1 => refine bind_lineEnd_congr text.length ended fun pair rest shorter => ?_
  case' h_2 => refine bind_lineEnd_congr text.length empty fun pair rest shorter => ?_
  case' h_3 => refine bind_lineEnd_congr text.length empty fun pair rest shorter => ?_
  case' h_4 => refine bind_lineEnd_congr text.length statement fun pair rest shorter => ?_
  all_goals
    split
    · rfl
    · exact statements pair.1 _ shorter
    · rfl

theorem readStatements_congr : ∀ {first second : Nat} {text : List Char} (document : Document),
    text.length < first → text.length < second →
      readStatements first document text = readStatements second document text := by
  intro first
  induction first with
  | zero => exact fun document enough => absurd enough (Nat.not_lt_zero _)
  | succ first ih =>
      intro second text document enough other
      cases second with
      | zero => exact absurd other (Nat.not_lt_zero _)
      | succ second =>
          refine readStatements_congr_of (fun grown rest shorter => ?_) document
          exact ih grown (by omega) (by omega)

/-- Each reader is given as much fuel as it can use: with more of it the same is read. So these
readers refuse a text for what it says alone, however long or deep it is; what an interpreter
does not follow is for its recursion limit to say. -/
theorem reads_same_with_more_fuel {fuel : Nat} (text : List Char) :
    (text.length ≤ fuel → ∀ multiline,
        readBasic multiline fuel text = readBasic multiline text.length text) ∧
      (text.length ≤ fuel → readKey fuel text = readKey text.length text) ∧
      (2 * text.length + 2 ≤ fuel →
        readValue fuel text = readValue (2 * text.length + 2) text) ∧
      (text.length + 1 ≤ fuel → ∀ document,
        readStatements fuel document text = readStatements (text.length + 1) document text) := by
  refine ⟨fun enough multiline => ?_, fun enough => ?_, fun enough => ?_, fun enough document => ?_⟩
  · exact readBasic_congr multiline enough (Nat.le_refl _)
  · exact readKey_congr enough (Nat.le_refl _)
  · exact readValues_congr.1 (by omega) (by omega)
  · exact readStatements_congr document enough (Nat.lt_succ_self _)

end Fuel

end ExprLexer.Toml
