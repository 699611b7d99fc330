import ExprLexer.FileTree
import Mathlib.Data.List.Infix

/-! What a walk finds depends on the entries on its way. A walk refused for a name that is
too long is refused however it goes on, and no longer text is accepted than that of a path
which goes on. -/

set_option autoImplicit false

namespace ExprLexer

theorem exists_of_bind_eq_ok {ε α β : Type} {first : Except ε α} {next : α → Except ε β}
    {result : β} (done : first.bind next = .ok result) :
    ∃ middle, first = .ok middle ∧ next middle = .ok result := by
  cases first with
  | error cause => cases done
  | ok middle => exact ⟨middle, rfl, done⟩

/-! ## Paths -/

namespace FilePath

section Prefixes

variable {holds : AbsolutePath → Prop} {path : AbsolutePath}

theorem forall_above_iff :
    (∀ above, above <+: path → holds above) ↔
      (∀ above, above <+: path → above ≠ path → holds above) ∧ holds path := by
  constructor
  · intro all
    exact ⟨fun above inside _ => all above inside, all path (List.prefix_refl path)⟩
  · rintro ⟨higher, here⟩ above inside
    by_cases same : above = path
    · rw [same]
      exact here
    · exact higher above inside same

theorem forall_above_concat_iff {name : String} :
    (∀ above, above <+: path ++ [name] → above ≠ path ++ [name] → holds above) ↔
      ∀ above, above <+: path → holds above := by
  constructor
  · intro higher above inside
    refine higher above (inside.trans (List.prefix_append path [name])) ?_
    rintro rfl
    simpa only [List.length_append, List.length_singleton, Nat.not_succ_le_self] using
      inside.length_le
  · intro all above inside different
    exact all above ((List.prefix_concat_iff.mp inside).resolve_left different)

end Prefixes

/-- A component that leads from a directory to an entry in it. -/
structure IsPlain (piece : String) : Prop where
  ne_empty : piece ≠ ""
  ne_dot : piece ≠ "."
  ne_parent : piece ≠ ".."

theorem enter_of_isPlain {piece : String} (plain : IsPlain piece) (directory : AbsolutePath) :
    enter directory piece = directory ++ [piece] := if_neg plain.ne_parent

theorem resolve_of_isPlain {name : String} (plain : IsPlain name) (whole : '/' ∉ name.toList)
    (directory : AbsolutePath) : resolve directory name = directory ++ [name] := by
  have relative : isAbsolute name = false := by
    refine Bool.eq_false_iff.mpr fun absolute => whole ?_
    exact List.mem_of_mem_head? (eq_of_beq absolute)
  have single : components name = [name] := by
    simp only [components, pieces, List.splitOn_eq_singleton whole, List.map_cons, List.map_nil,
      String.ofList_toList, List.filter_cons, plain.ne_empty, plain.ne_dot, List.filter_nil,
      ne_eq, not_false_eq_true, and_self, decide_true, if_true]
  rw [resolve, relative, single]
  exact enter_of_isPlain plain directory

theorem isPlain_foldl_enter {components : List String}
    (named : ∀ component ∈ components, component ≠ "" ∧ component ≠ ".") :
    ∀ directory : AbsolutePath, (∀ piece ∈ directory, IsPlain piece) →
      ∀ piece ∈ components.foldl enter directory, IsPlain piece := by
  induction components with
  | nil => exact fun directory plain => plain
  | cons component others ih =>
      intro directory plain
      obtain ⟨⟨ne_empty, ne_dot⟩, others_named⟩ := List.forall_mem_cons.mp named
      refine ih others_named (enter directory component) ?_
      intro piece inside
      by_cases parent : component = ".."
      · rw [enter, if_pos parent] at inside
        exact plain piece (List.dropLast_subset directory inside)
      · rw [enter, if_neg parent] at inside
        rcases List.mem_append.mp inside with above | last
        · exact plain piece above
        · obtain rfl := List.mem_singleton.mp last
          exact ⟨ne_empty, ne_dot, parent⟩

/-- Where the working directory has plain components, every path seen from it has. -/
theorem isPlain_resolve {directory : AbsolutePath} (plain : ∀ piece ∈ directory, IsPlain piece)
    (path : String) : ∀ piece ∈ resolve directory path, IsPlain piece := by
  refine isPlain_foldl_enter ?_ _ ?_
  · intro component inside
    simpa only [components, List.mem_filter, decide_eq_true_eq] using (List.mem_filter.mp inside).2
  · split
    · exact fun piece inside => absurd inside List.not_mem_nil
    · exact plain

theorem utf8ByteSize_absoluteText_cons {rest : AbsolutePath} (more : rest ≠ [])
    (piece : String) :
    (absoluteText (piece :: rest)).utf8ByteSize =
      piece.utf8ByteSize + 1 + (absoluteText rest).utf8ByteSize := by
  have slash : "/".utf8ByteSize = 1 := rfl
  simp only [absoluteText, String.intercalate_cons_of_ne_nil more, String.utf8ByteSize_append,
    slash]
  omega

theorem utf8ByteSize_absoluteText_mono {directory below : AbsolutePath}
    (above : directory <+: below) (name : String) :
    (absoluteText (directory ++ [name])).utf8ByteSize ≤
      (absoluteText (below ++ [name])).utf8ByteSize := by
  have more (path : AbsolutePath) : path ++ [name] ≠ [] :=
    List.append_ne_nil_of_right_ne_nil path (List.cons_ne_nil name [])
  obtain ⟨rest, rfl⟩ := above
  induction directory with
  | nil =>
      rw [List.nil_append, List.nil_append]
      induction rest with
      | nil => exact Nat.le_refl _
      | cons piece others ih =>
          rw [List.cons_append, utf8ByteSize_absoluteText_cons (more others)]
          exact ih.trans (Nat.le_add_left _ _)
  | cons piece others ih =>
      rw [List.cons_append, List.cons_append, List.cons_append,
        utf8ByteSize_absoluteText_cons (more others),
        utf8ByteSize_absoluteText_cons (more (others ++ rest))]
      exact Nat.add_le_add_left ih _

end FilePath

/-! ## Walks -/

namespace FileTree

open FilePath (IsPlain)

section Walks

variable {tree : FileTree} {place : AbsolutePath} {front pieces : List String}
  {piece name : String} {entry : FileEntry}

theorem walk_append (tree : FileTree) (front rest : List String) :
    ∀ place, tree.walk place (front ++ rest) =
      (front.foldlM tree.walkInto place).bind fun next => tree.walk next rest := by
  induction front with
  | nil => exact fun place => rfl
  | cons piece others ih =>
      intro place
      rw [List.cons_append, walk, List.foldlM_cons]
      cases tree.walkInto place piece with
      | error cause => rfl
      | ok next => exact ih next

theorem walkInto_of_directory (here : tree.entry? place = some .directory)
    (plain : IsPlain piece) :
    tree.walkInto place piece =
      if longestName < piece.utf8ByteSize then .error .nameTooLong
      else .ok (place ++ [piece]) := by
  have named : ¬(piece = "" ∨ piece = ".") := fun either =>
    either.elim plain.ne_empty plain.ne_dot
  simp only [walkInto, here, if_neg named, FilePath.enter_of_isPlain plain]

theorem directory_of_walkInto {next : AbsolutePath}
    (entered : tree.walkInto place piece = .ok next) : tree.entry? place = some .directory := by
  cases here : tree.entry? place with
  | none => simp only [walkInto, here, reduceCtorEq] at entered
  | some entry =>
      cases entry with
      | file bytes => simp only [walkInto, here, reduceCtorEq] at entered
      | directory => rfl

theorem walk_eq_ok_iff :
    tree.walk place pieces = .ok entry ↔
      ∃ next, pieces.foldlM tree.walkInto place = .ok next ∧ tree.entry? next = some entry := by
  have alone := walk_append tree pieces [] place
  rw [List.append_nil] at alone
  rw [alone]
  cases pieces.foldlM tree.walkInto place with
  | error cause => simp only [Except.bind, reduceCtorEq, false_and, exists_false]
  | ok next =>
      simp only [Except.bind, walk, Except.ok.injEq, exists_eq_left']
      cases tree.entry? next <;> simp

theorem foldlM_concat (tree : FileTree) (front : List String) (name : String)
    (place : AbsolutePath) :
    (front ++ [name]).foldlM tree.walkInto place =
      (front.foldlM tree.walkInto place).bind fun next => tree.walkInto next name := by
  rw [List.foldlM_append]
  cases front.foldlM tree.walkInto place with
  | error cause => rfl
  | ok next =>
      show List.foldlM tree.walkInto next [name] = tree.walkInto next name
      rw [List.foldlM_cons]
      cases tree.walkInto next name <;> rfl

theorem walk_of_walk_concat (found : tree.walk place (front ++ [name]) = .ok entry) :
    tree.walk place front = .ok .directory := by
  obtain ⟨below, reached, -⟩ := walk_eq_ok_iff.mp found
  rw [foldlM_concat] at reached
  obtain ⟨next, through, entered⟩ := exists_of_bind_eq_ok reached
  exact walk_eq_ok_iff.mpr ⟨next, through, directory_of_walkInto entered⟩

/-! ### Refusals -/

/-- A short name is never too long, wherever a walk has come to. -/
theorem walk_singleton_ne_nameTooLong (short : name.utf8ByteSize ≤ longestName)
    (place : AbsolutePath) : tree.walk place [name] ≠ .error .nameTooLong := by
  intro refused
  cases entered : tree.walkInto place name with
  | ok next =>
      rw [walk, entered] at refused
      cases there : tree.entry? next <;> simp [walk, there] at refused
  | error cause =>
      rw [walk, entered] at refused
      obtain rfl := Except.error.inj refused
      unfold walkInto at entered
      split at entered
      · cases entered
      · cases entered
      · split at entered
        · cases entered
        · rw [if_neg (Nat.not_lt.mpr short)] at entered
          cases entered

theorem walk_of_refused (refused : front.foldlM tree.walkInto place = .error .nameTooLong)
    (rest : List String) : tree.walk place (front ++ rest) = .error .nameTooLong := by
  rw [walk_append, refused]
  rfl

/-- A walk that is refused, but not for its last name, is refused before it. -/
theorem refused_of_walk_concat (short : name.utf8ByteSize ≤ longestName)
    (refused : tree.walk place (front ++ [name]) = .error .nameTooLong) :
    front.foldlM tree.walkInto place = .error .nameTooLong := by
  rw [walk_append] at refused
  cases reached : front.foldlM tree.walkInto place with
  | error cause =>
      rw [reached] at refused
      exact congrArg Except.error (Except.error.inj refused)
  | ok next =>
      rw [reached] at refused
      exact absurd refused (walk_singleton_ne_nameTooLong short next)

/-! ### Plain names -/

/-- Over plain names a walk comes to the path that they make. -/
theorem eq_of_foldlM_walkInto (plain : ∀ piece ∈ pieces, IsPlain piece) :
    ∀ place next, pieces.foldlM tree.walkInto place = .ok next → next = place ++ pieces := by
  induction pieces with
  | nil =>
      intro place next reached
      rw [List.append_nil]
      exact (Except.ok.inj reached).symm
  | cons piece others ih =>
      intro place next reached
      obtain ⟨piece_plain, others_plain⟩ := List.forall_mem_cons.mp plain
      rw [List.foldlM_cons] at reached
      obtain ⟨below, entered, reached⟩ := exists_of_bind_eq_ok reached
      rw [walkInto_of_directory (directory_of_walkInto entered) piece_plain] at entered
      split at entered
      · cases entered
      · obtain rfl := Except.ok.inj entered
        rw [ih others_plain _ next reached, List.append_assoc, List.singleton_append]

/-- Over plain names a walk from the root that is not refused finds what the tree has there,
exactly if it goes through directories all the way. -/
theorem walk_root_eq_ok_iff (plain : ∀ piece ∈ pieces, IsPlain piece)
    (allowed : pieces.foldlM tree.walkInto [] ≠ .error .nameTooLong) :
    ∀ entry, tree.walk [] pieces = .ok entry ↔
      (∀ above, above <+: pieces → above ≠ pieces → tree.entry? above = some .directory) ∧
        tree.entry? pieces = some entry := by
  induction pieces using List.reverseRecOn with
  | nil =>
      intro entry
      rw [walk_eq_ok_iff]
      constructor
      · rintro ⟨next, reached, here⟩
        obtain rfl := Except.ok.inj reached
        exact ⟨fun above inside different => absurd (List.prefix_nil.mp inside) different, here⟩
      · rintro ⟨-, here⟩
        exact ⟨[], rfl, here⟩
  | append_singleton directory name ih =>
      obtain ⟨directory_plain, name_plain⟩ := List.forall_mem_append.mp plain
      have allowed_above : directory.foldlM tree.walkInto [] ≠ .error .nameTooLong := by
        intro refused
        rw [foldlM_concat, refused] at allowed
        exact allowed rfl
      have directories := (ih directory_plain allowed_above .directory).trans
        FilePath.forall_above_iff.symm
      intro entry
      rw [FilePath.forall_above_concat_iff, ← directories]
      constructor
      · intro found
        obtain ⟨below, reached, there⟩ := walk_eq_ok_iff.mp found
        obtain rfl : below = directory ++ [name] := eq_of_foldlM_walkInto plain [] below reached
        exact ⟨walk_of_walk_concat found, there⟩
      · rintro ⟨found, there⟩
        obtain ⟨next, reached, here⟩ := walk_eq_ok_iff.mp found
        obtain rfl : next = directory := eq_of_foldlM_walkInto directory_plain [] next reached
        refine walk_eq_ok_iff.mpr ⟨next ++ [name], ?_, there⟩
        rw [foldlM_concat, reached] at allowed ⊢
        have plain_name := name_plain name (List.mem_singleton_self name)
        have step := walkInto_of_directory here plain_name
        simp only [Except.bind, step] at allowed ⊢
        split at allowed
        · exact absurd rfl allowed
        · rename_i short
          rw [if_neg short]

/-! ### Absolute paths -/

variable {path : AbsolutePath}

theorem follow_eq_ok_iff :
    tree.follow path = .ok entry ↔
      (FilePath.absoluteText path).utf8ByteSize ≤ longestPath ∧ tree.walk [] path = .ok entry := by
  unfold follow
  split
  · rename_i long
    simp only [reduceCtorEq, Nat.not_le.mpr long, false_and]
  · rename_i short
    simp only [Nat.not_lt.mp short, true_and]

theorem follow_refused_iff :
    tree.follow path = .error .nameTooLong ↔
      longestPath < (FilePath.absoluteText path).utf8ByteSize ∨
        tree.walk [] path = .error .nameTooLong := by
  unfold follow
  split
  · rename_i long
    simp only [long, true_or]
  · rename_i short
    simp only [short, false_or]

end Walks

end FileTree

end ExprLexer
