import ExprLexer.Proofs.FileTree.Walks
import ExprLexer.Proofs.Settings.Contents

/-! The search for a settings file climbs from its base to the root and ends at the first
directory with an entry of that name. So of all entries that trees may have only the nearest
counts for the settings, unless the system refuses to follow the path of the start. -/

set_option autoImplicit false

namespace ExprLexer.Settings

open FilePath (ancestors IsPlain)

def HasEntry (tree : FileTree) (directory : AbsolutePath) : Prop :=
  ∃ entry, tree.follow (directory ++ [fileName]) = .ok entry

/-- To look for a settings file in a directory is refused. -/
def IsRefusedIn (tree : FileTree) (directory : AbsolutePath) : Prop :=
  tree.follow (directory ++ [fileName]) = .error .nameTooLong

def IsPassed (tree : FileTree) (directory : AbsolutePath) : Prop :=
  ∃ cause, tree.follow (directory ++ [fileName]) = .error cause ∧ cause ≠ .nameTooLong

/-! ## Climbing -/

/-- The loop of the search. It goes on with the parent of a place, and ends at the place that
is its own parent. -/
inductive Climb (tree : FileTree) :
    AbsolutePath → Except SettingsFault AbsolutePath → Prop where
  | here {place : AbsolutePath} :
      HasEntry tree place → Climb tree place (.ok (place ++ [fileName]))
  | refused {place : AbsolutePath} :
      IsRefusedIn tree place → Climb tree place (.error (.path .nameTooLong))
  | atRoot {place : AbsolutePath} :
      IsPassed tree place → place.dropLast = place → Climb tree place (.error .notFound)
  | above {place : AbsolutePath} {outcome : Except SettingsFault AbsolutePath} :
      IsPassed tree place → place.dropLast ≠ place → Climb tree place.dropLast outcome →
      Climb tree place outcome

/-- A directory above a base, or the base, that has an entry; all others that have one lie
above it. -/
structure IsNearest (tree : FileTree) (base directory : AbsolutePath) : Prop where
  above : directory <+: base
  hasEntry : HasEntry tree directory
  nearest : ∀ other, other <+: base → HasEntry tree other → other <+: directory

section Climbing

variable {tree : FileTree} {place base directory : AbsolutePath}
  {others : List AbsolutePath} {outcome : Except SettingsFault AbsolutePath}

theorem looked (tree : FileTree) (place : AbsolutePath) :
    HasEntry tree place ∨ IsRefusedIn tree place ∨ IsPassed tree place := by
  cases found : tree.follow (place ++ [fileName]) with
  | ok entry => exact .inl ⟨entry, found⟩
  | error cause =>
      by_cases tooLong : cause = .nameTooLong
      · rw [tooLong] at found
        exact .inr (.inl found)
      · exact .inr (.inr ⟨cause, found, tooLong⟩)

theorem IsPassed.not_hasEntry (passed : IsPassed tree place) : ¬HasEntry tree place := by
  obtain ⟨cause, missed, -⟩ := passed
  rintro ⟨entry, found⟩
  cases missed.symm.trans found

theorem firstIn_of_hasEntry (has : HasEntry tree place) :
    firstIn tree (place :: others) = .ok (place ++ [fileName]) := by
  obtain ⟨entry, found⟩ := has
  simp only [firstIn, found]

theorem firstIn_of_isRefusedIn (refused : IsRefusedIn tree place) :
    firstIn tree (place :: others) = .error (.path .nameTooLong) := by
  simp only [firstIn, show tree.follow (place ++ [fileName]) = _ from refused]

theorem firstIn_of_isPassed (passed : IsPassed tree place) :
    firstIn tree (place :: others) = firstIn tree others := by
  obtain ⟨cause, missed, allowed⟩ := passed
  cases cause with
  | nameTooLong => exact absurd rfl allowed
  | _ => simp only [firstIn, missed]

theorem ancestors_concat (directory : AbsolutePath) (name : String) :
    ancestors (directory ++ [name]) = (directory ++ [name]) :: ancestors directory := by
  have higher : (List.range (directory.length + 1)).reverse.map (directory ++ [name]).take =
      (List.range (directory.length + 1)).reverse.map directory.take := by
    refine List.map_congr_left fun length inside => ?_
    rw [List.mem_reverse, List.mem_range] at inside
    exact List.take_append_of_le_length (Nat.le_of_lt_succ inside)
  have whole : (directory ++ [name]).take (directory.length + 1) = directory ++ [name] :=
    List.take_of_length_le (by rw [List.length_append, List.length_singleton])
  unfold ancestors
  rw [List.length_append, List.length_singleton, List.range_succ, List.reverse_concat,
    List.map_cons, whole, higher]

theorem eq_nil_of_parent (root : place.dropLast = place) : place = [] := by
  rcases List.eq_nil_or_concat place with rfl | ⟨parent, name, rfl⟩
  · rfl
  · simpa using congrArg List.length root

theorem ancestors_of_parent (below : place.dropLast ≠ place) :
    ancestors place = place :: ancestors place.dropLast := by
  rcases List.eq_nil_or_concat place with rfl | ⟨parent, name, rfl⟩
  · exact absurd rfl below
  · rw [List.concat_eq_append, ancestors_concat, List.dropLast_concat]

theorem exists_ancestors (place : AbsolutePath) : ∃ higher, ancestors place = place :: higher := by
  by_cases root : place.dropLast = place
  · obtain rfl := eq_nil_of_parent root
    exact ⟨[], rfl⟩
  · exact ⟨_, ancestors_of_parent root⟩

theorem climb_firstIn (tree : FileTree) (place : AbsolutePath) :
    Climb tree place (firstIn tree (ancestors place)) := by
  induction place using List.reverseRecOn with
  | nil =>
      show Climb tree [] (firstIn tree [[]])
      obtain has | refused | passed := looked tree []
      · rw [firstIn_of_hasEntry has]
        exact .here has
      · rw [firstIn_of_isRefusedIn refused]
        exact .refused refused
      · rw [firstIn_of_isPassed passed]
        exact .atRoot passed rfl
  | append_singleton directory name ih =>
      rw [ancestors_concat]
      obtain has | refused | passed := looked tree (directory ++ [name])
      · rw [firstIn_of_hasEntry has]
        exact .here has
      · rw [firstIn_of_isRefusedIn refused]
        exact .refused refused
      · rw [firstIn_of_isPassed passed]
        refine .above passed (fun root => ?_) ?_
        · exact absurd (eq_nil_of_parent root) (List.concat_ne_nil name directory)
        · rwa [List.dropLast_concat]

/-- The loop comes to an end, and to one end only: what the search over all directories from
the base to the root finds. -/
theorem climb_iff : Climb tree place outcome ↔ outcome = firstIn tree (ancestors place) := by
  constructor
  · intro climb
    induction climb with
    | @here place has =>
        obtain ⟨higher, same⟩ := exists_ancestors place
        rw [same, firstIn_of_hasEntry has]
    | @refused place refused =>
        obtain ⟨higher, same⟩ := exists_ancestors place
        rw [same, firstIn_of_isRefusedIn refused]
    | atRoot passed root =>
        obtain rfl := eq_nil_of_parent root
        rw [show ancestors [] = [[]] from rfl, firstIn_of_isPassed passed, firstIn]
    | above passed below _ ih => rw [ancestors_of_parent below, firstIn_of_isPassed passed, ih]
  · rintro rfl
    exact climb_firstIn tree place

theorem prefix_iff_of_parent :
    directory <+: place ↔ directory = place ∨ directory <+: place.dropLast := by
  rcases List.eq_nil_or_concat place with rfl | ⟨parent, name, rfl⟩
  · simp only [List.prefix_nil, List.dropLast_nil, or_self]
  · rw [List.concat_eq_append, List.prefix_concat_iff, List.dropLast_concat]

/-- Where the loop ends: at the nearest entry, without one, or where it is refused. -/
theorem Climb.ends (climb : Climb tree place outcome) :
    (∃ directory, IsNearest tree place directory ∧ outcome = .ok (directory ++ [fileName])) ∨
      ((∀ directory, directory <+: place → ¬HasEntry tree directory) ∧
        outcome = .error .notFound) ∨
      ∃ directory, directory <+: place ∧ IsRefusedIn tree directory := by
  induction climb with
  | here has =>
      exact .inl ⟨_, ⟨List.prefix_refl _, has, fun other above _ => above⟩, rfl⟩
  | refused refused => exact .inr (.inr ⟨_, List.prefix_refl _, refused⟩)
  | atRoot passed root =>
      refine .inr (.inl ⟨fun directory above has => ?_, rfl⟩)
      obtain rfl := eq_nil_of_parent root
      obtain rfl := List.prefix_nil.mp above
      exact passed.not_hasEntry has
  | above passed below _ ih =>
      obtain ⟨directory, nearest, same⟩ | ⟨none, same⟩ | ⟨directory, above, refused⟩ := ih
      · refine .inl ⟨directory, ⟨prefix_iff_of_parent.mpr (.inr nearest.above), nearest.hasEntry,
          fun other above has => ?_⟩, same⟩
        rcases prefix_iff_of_parent.mp above with rfl | above
        · exact absurd has passed.not_hasEntry
        · exact nearest.nearest other above has
      · refine .inr (.inl ⟨fun directory above has => ?_, same⟩)
        rcases prefix_iff_of_parent.mp above with rfl | above
        · exact passed.not_hasEntry has
        · exact none directory above has
      · exact .inr (.inr ⟨directory, prefix_iff_of_parent.mpr (.inr above), refused⟩)

end Climbing

/-! ## Starts -/

def startPath (directory : AbsolutePath) (start : Option String) : AbsolutePath :=
  FilePath.resolve directory (start.getD ".")

/-- The search does not come about: the start is no path, or it or the path of a settings
file in its directory is longer than paths may be. -/
inductive Refused (tree : FileTree) (directory : AbsolutePath) (start : Option String) :
    PathFault → Prop where
  | noPath : '\x00' ∈ (start.getD ".").toList → Refused tree directory start .nulInName
  | start :
      '\x00' ∉ (start.getD ".").toList →
      tree.follow (startPath directory start) = .error .nameTooLong →
      Refused tree directory start .nameTooLong
  | base :
      '\x00' ∉ (start.getD ".").toList →
      FileTree.longestPath < (FilePath.absoluteText
        (searchBase tree (startPath directory start) ++ [fileName])).utf8ByteSize →
      Refused tree directory start .nameTooLong

section Starts

variable {tree : FileTree} {directory place found : AbsolutePath} {start : Option String}
  {cause : PathFault}

theorem searchBase_above (tree : FileTree) (path : AbsolutePath) :
    searchBase tree path <+: path := by
  unfold searchBase
  split
  · exact List.dropLast_prefix path
  · exact List.prefix_refl path

theorem find_of_isPath (isPath : '\x00' ∉ (start.getD ".").toList) :
    find tree directory start =
      match tree.follow (startPath directory start) with
      | .error .nameTooLong => .error (.path .nameTooLong)
      | _ => firstIn tree (ancestors (searchBase tree (startPath directory start))) := by
  have unmarked : (start.getD ".").toList.contains '\x00' = false :=
    Bool.eq_false_iff.mpr fun marked => isPath (List.contains_iff_mem.mp marked)
  unfold find
  simp only [unmarked, Bool.false_eq_true, if_false]
  rfl

theorem find_of_started (isPath : '\x00' ∉ (start.getD ".").toList)
    (started : tree.follow (startPath directory start) ≠ .error .nameTooLong) :
    find tree directory start =
      firstIn tree (ancestors (searchBase tree (startPath directory start))) := by
  rw [find_of_isPath isPath]
  split
  · rename_i refused
    exact absurd refused started
  · rfl

theorem find_of_refused (refused : Refused tree directory start cause) :
    find tree directory start = .error (.path cause) := by
  cases refused with
  | noPath marked =>
      have marked := List.contains_iff_mem.mpr marked
      simp only [find, marked, if_true]
  | start isPath refused => rw [find_of_isPath isPath, refused]
  | base isPath long =>
      by_cases refused : tree.follow (startPath directory start) = .error .nameTooLong
      · rw [find_of_isPath isPath, refused]
      · obtain ⟨higher, same⟩ :=
          exists_ancestors (searchBase tree (startPath directory start))
        rw [find_of_started isPath refused, same]
        exact firstIn_of_isRefusedIn (FileTree.follow_refused_iff.mpr (.inl long))

/-- Where the search comes about, it is refused nowhere on its way. -/
theorem not_isRefusedIn (allowed : ∀ cause, ¬Refused tree directory start cause)
    (above : place <+: searchBase tree (startPath directory start)) :
    ¬IsRefusedIn tree place := by
  have isPath : '\x00' ∉ (start.getD ".").toList := fun marked => allowed _ (.noPath marked)
  intro refused
  rcases FileTree.follow_refused_iff.mp refused with long | refused
  · have longer := FilePath.utf8ByteSize_absoluteText_mono above fileName
    exact allowed _ (.base isPath (Nat.lt_of_lt_of_le long longer))
  · -- a name on the way to the base is too long, so the start is refused as well
    obtain ⟨rest, whole⟩ := above.trans (searchBase_above tree (startPath directory start))
    have early := FileTree.refused_of_walk_concat (by decide) refused
    refine allowed _ (.start isPath (FileTree.follow_refused_iff.mpr (.inr ?_)))
    rw [← whole]
    exact FileTree.walk_of_refused early rest

/-- An entry is there if the tree has one in a directory that is reached through
directories. -/
theorem hasEntry_iff (allowed : ∀ cause, ¬Refused tree directory start cause)
    (plain : ∀ piece ∈ directory, IsPlain piece)
    (above : place <+: searchBase tree (startPath directory start)) :
    HasEntry tree place ↔
      (∀ higher, higher <+: place → tree.entry? higher = some .directory) ∧
        ∃ entry, tree.entry? (place ++ [fileName]) = some entry := by
  have unrefused := not_isRefusedIn allowed above
  have short : (FilePath.absoluteText (place ++ [fileName])).utf8ByteSize ≤
      FileTree.longestPath :=
    Nat.le_of_not_lt fun long => unrefused (FileTree.follow_refused_iff.mpr (.inl long))
  have unstopped : (place ++ [fileName]).foldlM tree.walkInto [] ≠ .error .nameTooLong := by
    intro stopped
    have refused := FileTree.walk_of_refused stopped []
    rw [List.append_nil] at refused
    exact unrefused (FileTree.follow_refused_iff.mpr (.inr refused))
  have named : ∀ piece ∈ place ++ [fileName], IsPlain piece := by
    intro piece inside
    rcases List.mem_append.mp inside with inside | last
    · exact FilePath.isPlain_resolve plain _ piece
        ((above.trans (searchBase_above tree _)).subset inside)
    · obtain rfl := List.mem_singleton.mp last
      exact ⟨by decide, by decide, by decide⟩
  have found (entry : FileEntry) :
      tree.follow (place ++ [fileName]) = .ok entry ↔
        (∀ higher, higher <+: place → tree.entry? higher = some .directory) ∧
          tree.entry? (place ++ [fileName]) = some entry := by
    rw [FileTree.follow_eq_ok_iff, FileTree.walk_root_eq_ok_iff named unstopped,
      FilePath.forall_above_concat_iff, and_iff_right short]
  constructor
  · rintro ⟨entry, followed⟩
    obtain ⟨higher, there⟩ := (found entry).mp followed
    exact ⟨higher, entry, there⟩
  · rintro ⟨higher, entry, there⟩
    exact ⟨entry, (found entry).mpr ⟨higher, there⟩⟩

/-! ## The nearest entry -/

theorem IsNearest.unique {base nearest other : AbsolutePath}
    (first : IsNearest tree base nearest) (second : IsNearest tree base other) :
    nearest = other := by
  have above := second.nearest nearest first.above first.hasEntry
  have below := first.nearest other second.above second.hasEntry
  exact above.eq_of_length_le below.length_le

theorem find_ends (allowed : ∀ cause, ¬Refused tree directory start cause) :
    (∃ nearest, IsNearest tree (searchBase tree (startPath directory start)) nearest ∧
        find tree directory start = .ok (nearest ++ [fileName])) ∨
      (∀ above, above <+: searchBase tree (startPath directory start) →
          ¬HasEntry tree above) ∧
        find tree directory start = .error .notFound := by
  have isPath : '\x00' ∉ (start.getD ".").toList := fun marked => allowed _ (.noPath marked)
  rw [find_of_started isPath fun refused => allowed _ (.start isPath refused)]
  obtain found | none | ⟨place, above, refused⟩ := (climb_firstIn tree _).ends
  · exact .inl found
  · exact .inr none
  · exact absurd refused (not_isRefusedIn allowed above)

theorem find_eq_ok_iff (allowed : ∀ cause, ¬Refused tree directory start cause) :
    find tree directory start = .ok found ↔
      ∃ nearest, IsNearest tree (searchBase tree (startPath directory start)) nearest ∧
        found = nearest ++ [fileName] := by
  obtain ⟨nearest, isNearest, same⟩ | ⟨none, same⟩ := find_ends allowed
  · rw [same]
    constructor
    · intro same
      exact ⟨nearest, isNearest, (Except.ok.inj same).symm⟩
    · rintro ⟨other, second, rfl⟩
      rw [isNearest.unique second]
  · rw [same]
    constructor
    · intro same
      cases same
    · rintro ⟨nearest, isNearest, -⟩
      exact absurd isNearest.hasEntry (none nearest isNearest.above)

theorem find_eq_notFound_iff (allowed : ∀ cause, ¬Refused tree directory start cause) :
    find tree directory start = .error .notFound ↔
      ∀ above, above <+: searchBase tree (startPath directory start) →
        ¬HasEntry tree above := by
  obtain ⟨nearest, isNearest, same⟩ | ⟨none, same⟩ := find_ends allowed
  · rw [same]
    constructor
    · intro same
      cases same
    · intro none
      exact absurd isNearest.hasEntry (none nearest isNearest.above)
  · exact ⟨fun _ => none, fun _ => same⟩

/-! ## The settings of the nearest entry -/

theorem resolve_of_refused (refused : Refused tree directory start cause) :
    resolve tree directory start = .error (.path cause) := by
  unfold resolve
  rw [find_of_refused refused]
  cases refused <;> rfl

theorem resolve_of_notFound (none : find tree directory start = .error .notFound) :
    resolve tree directory start = .ok {} := by
  unfold resolve
  rw [none]
  rfl

theorem isAbsence_of_ofEntry {entry : FileEntry} {cause : SettingsFault}
    (failed : ofEntry (.ok entry) = .error cause) : cause.isAbsence = false := by
  cases entry with
  | file bytes => exact isAbsence_of_ofBytes failed
  | directory =>
      obtain rfl := Except.error.inj failed
      rfl

theorem resolve_of_isNearest {nearest : AbsolutePath}
    (allowed : ∀ cause, ¬Refused tree directory start cause)
    (isNearest : IsNearest tree (searchBase tree (startPath directory start)) nearest) :
    resolve tree directory start = ofEntry (tree.follow (nearest ++ [fileName])) := by
  obtain ⟨entry, followed⟩ := isNearest.hasEntry
  have search := (find_eq_ok_iff allowed).mpr ⟨nearest, isNearest, rfl⟩
  simp only [resolve, search, Except.bind, followed]
  cases made : ofEntry (.ok entry) with
  | ok settings => rfl
  | error cause =>
      have present := isAbsence_of_ofEntry made
      simp only [present, Bool.false_eq_true, if_false]

/-! ## Other trees -/

/-- Another tree agrees with a tree on the entry of a directory, and has none below it on the
way to a base. -/
structure Agrees (tree other : FileTree) (base directory : AbsolutePath) : Prop where
  sameEntry : other.follow (directory ++ [fileName]) = tree.follow (directory ++ [fileName])
  noneBelow : ∀ below, directory <+: below → below <+: base → HasEntry other below →
    below = directory

theorem above_searchBase_of_hasEntry {path : AbsolutePath} (above : place <+: path)
    (has : HasEntry tree place) : place <+: searchBase tree path := by
  unfold searchBase
  split
  · rename_i bytes isFile
    rcases prefix_iff_of_parent.mp above with rfl | above
    · obtain ⟨entry, followed⟩ := has
      have isDirectory := FileTree.walk_of_walk_concat (FileTree.follow_eq_ok_iff.mp followed).2
      have isFile := (FileTree.follow_eq_ok_iff.mp isFile).2
      cases isDirectory.symm.trans isFile
    · exact above
  · exact above

theorem IsNearest.of_agrees {other : FileTree} {path nearest : AbsolutePath}
    (isNearest : IsNearest tree (searchBase tree path) nearest)
    (agrees : Agrees tree other (searchBase other path) nearest) :
    IsNearest other (searchBase other path) nearest := by
  have has : HasEntry other nearest := by
    obtain ⟨entry, followed⟩ := isNearest.hasEntry
    exact ⟨entry, agrees.sameEntry.trans followed⟩
  have above := above_searchBase_of_hasEntry (isNearest.above.trans (searchBase_above tree path)) has
  refine ⟨above, has, fun place inside placeHas => ?_⟩
  rcases List.prefix_or_prefix_of_prefix above inside with below | higher
  · rw [agrees.noneBelow place below inside placeHas]
  · exact higher

/-- Unless the system refuses the path of the start, or of a settings file there, the search
is a loop that ends. It finds the settings file nearest to the start, and none exactly if
there is none on the way to the root. The settings are then those of the nearest file alone,
or the defaults: what that file does not say has its default, and trees that agree on the
file and on there being none below it make the same settings. -/
theorem find_nearest_unless_refused (tree : FileTree) (directory : AbsolutePath)
    (start : Option String) :
    let path := startPath directory start
    let base := searchBase tree path
    (∀ cause, Refused tree directory start cause →
        find tree directory start = .error (.path cause) ∧
          resolve tree directory start = .error (.path cause)) ∧
      ((∀ cause, ¬Refused tree directory start cause) →
        (∀ outcome, Climb tree base outcome ↔ outcome = find tree directory start) ∧
          (∀ found, find tree directory start = .ok found ↔
            ∃ nearest, IsNearest tree base nearest ∧ found = nearest ++ [fileName]) ∧
          (find tree directory start = .error .notFound ↔
            ∀ above, above <+: base → ¬HasEntry tree above) ∧
          ((∀ piece ∈ directory, IsPlain piece) → ∀ place, place <+: base →
            (HasEntry tree place ↔
              (∀ higher, higher <+: place → tree.entry? higher = some .directory) ∧
                ∃ entry, tree.entry? (place ++ [fileName]) = some entry)) ∧
          ((∀ above, above <+: base → ¬HasEntry tree above) →
            resolve tree directory start = .ok {}) ∧
          ∀ nearest, IsNearest tree base nearest →
            resolve tree directory start = ofEntry (tree.follow (nearest ++ [fileName])) ∧
              (∀ bytes document settings,
                tree.follow (nearest ++ [fileName]) = .ok (.file bytes) →
                ReadsAs bytes document → resolve tree directory start = .ok settings →
                (Says document "lexer" "legacy_integers" none →
                    settings.legacyIntegers = false) ∧
                  (Says document "output" "color" none → settings.color = true)) ∧
              ∀ other, (∀ cause, ¬Refused other directory start cause) →
                Agrees tree other (searchBase other path) nearest →
                find other directory start = find tree directory start ∧
                  resolve other directory start = resolve tree directory start) := by
  intro path base
  refine ⟨fun cause refused => ⟨find_of_refused refused, resolve_of_refused refused⟩, ?_⟩
  intro allowed
  have isPath : '\x00' ∉ (start.getD ".").toList := fun marked => allowed _ (.noPath marked)
  have search := find_of_started isPath fun refused => allowed _ (.start isPath refused)
  refine ⟨fun outcome => ?_, fun found => find_eq_ok_iff allowed, find_eq_notFound_iff allowed,
    fun plain place => hasEntry_iff allowed plain, fun none => ?_, fun nearest isNearest => ?_⟩
  · rw [search]
    exact climb_iff
  · exact resolve_of_notFound ((find_eq_notFound_iff allowed).mpr none)
  have resolved := resolve_of_isNearest allowed isNearest
  refine ⟨resolved, ?_, ?_⟩
  · intro bytes document settings isFile reads made
    rw [resolved, isFile, ofEntry, ofBytes_of_readsAs reads] at made
    exact settings_of_ofDocument made
  · intro other other_allowed agrees
    have isNearest_other := isNearest.of_agrees agrees
    have search := (find_eq_ok_iff allowed).mpr ⟨nearest, isNearest, rfl⟩
    have search_other := (find_eq_ok_iff other_allowed).mpr ⟨nearest, isNearest_other, rfl⟩
    refine ⟨search_other.trans search.symm, ?_⟩
    rw [resolved, resolve_of_isNearest other_allowed isNearest_other, agrees.sameEntry]

section LongNames

variable {name : String} (plain : IsPlain name) (whole : '/' ∉ name.toList)
  (isPath : '\x00' ∉ name.toList) (long : FileTree.longestName < name.utf8ByteSize)
  (root : tree.entry? [] = some .directory)

include plain long root in
theorem follow_longName (rest : List String) :
    tree.follow ([name] ++ rest) = .error .nameTooLong := by
  have stopped : [name].foldlM tree.walkInto [] = .error .nameTooLong := by
    rw [List.foldlM_cons, FileTree.walkInto_of_directory root plain, if_pos long]
    rfl
  exact FileTree.follow_refused_iff.mpr (.inr (FileTree.walk_of_refused stopped rest))

include plain whole isPath long root in
/-- A start with a name that is too long is refused, whatever settings file there is. -/
theorem find_longName : find tree [] (some name) = .error (.path .nameTooLong) := by
  have path : startPath [] (some name) = [name] := FilePath.resolve_of_isPlain plain whole []
  refine find_of_refused (.start isPath ?_)
  rw [path]
  exact follow_longName plain long root []

end LongNames

/-- The root has the nearest settings file, but the name of the start is too long. -/
theorem find_refused_below_settings_file :
    let tree := FileTree.empty.writeFile ["algot.toml"] "".toUTF8
    let start := String.ofList (List.replicate 300 'a')
    IsNearest tree (searchBase tree (startPath [] (some start))) [] ∧
      find tree [] (some start) = .error (.path .nameTooLong) := by
  intro tree start
  have plain : IsPlain start := ⟨by decide +kernel, by decide +kernel, by decide +kernel⟩
  have spelled : ∀ char ∈ start.toList, char = 'a' := by
    intro char inside
    rw [String.toList_ofList] at inside
    exact List.eq_of_mem_replicate inside
  have whole : '/' ∉ start.toList := fun inside => absurd (spelled _ inside) (by decide)
  have isPath : '\x00' ∉ start.toList := fun inside => absurd (spelled _ inside) (by decide)
  have long : FileTree.longestName < start.utf8ByteSize := by decide +kernel
  refine ⟨⟨List.nil_prefix, ⟨_, rfl⟩, fun other above has => ?_⟩,
    find_longName plain whole isPath long rfl⟩
  have inside := above.trans (searchBase_above tree (startPath [] (some start)))
  rw [startPath, Option.getD_some, FilePath.resolve_of_isPlain plain whole] at inside
  rcases List.prefix_concat_iff.mp inside with rfl | higher
  · obtain ⟨entry, followed⟩ := has
    cases followed.symm.trans (follow_longName plain long rfl [fileName])
  · exact higher

end Starts

end ExprLexer.Settings
