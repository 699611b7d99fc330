import ExprLexer.Renderer
import Mathlib.Data.List.DropRight

/-! What a renderer shows of a file over any run. A text that was added counts from then
on. Without one, the file counts as it was when a render first came as far as its name
and found a text for it, even if that render failed at a later label. -/

set_option autoImplicit false

namespace ExprLexer

namespace Renderer

variable {tree : FileTree} {directory : AbsolutePath} {renderer known : Renderer} {name : String}

/-! ## Texts on disk -/

/-- The text of a name on disk. What is no readable file has the empty text, and a file that
is not UTF-8 has none. -/
def diskText? (tree : FileTree) (directory : AbsolutePath) (name : String) : Option String :=
  match tree.lookup directory (FilePath.tidy name) with
  | .ok (.file bytes) => decodeFileText? bytes
  | _ => some ""

theorem readSource_of_some {content : String}
    (found : diskText? tree directory name = some content) :
    readSource tree directory name = .ok ⟨name, content⟩ := by
  unfold diskText? at found
  unfold readSource
  generalize tree.lookup directory (FilePath.tidy name) = looked at found ⊢
  cases looked with
  | error cause =>
      cases found
      rfl
  | ok entry =>
      cases entry with
      | file bytes =>
          simp only at found ⊢
          rw [found]
      | directory =>
          cases found
          rfl

theorem readSource_of_none (missing : diskText? tree directory name = none) :
    readSource tree directory name = .error ⟨name⟩ := by
  unfold diskText? at missing
  unfold readSource
  generalize tree.lookup directory (FilePath.tidy name) = looked at missing ⊢
  cases looked with
  | error cause => cases missing
  | ok entry =>
      cases entry with
      | file bytes =>
          simp only at missing ⊢
          rw [missing]
      | directory => cases missing

/-! ## What a renderer knows -/

def text? (renderer : Renderer) (name : String) : Option String :=
  (renderer.source? name).map (·.content)

theorem source?_eq (renderer : Renderer) (name : String) :
    renderer.source? name = (renderer.text? name).map fun content => ⟨name, content⟩ := by
  rw [text?]
  cases found : renderer.source? name with
  | none => rfl
  | some source =>
      have same := List.find?_some found
      rw [← eq_of_beq same]
      rfl

theorem source?_addSource_of_ne {source : SourceFile} (other : source.name ≠ name) :
    (renderer.addSource source).source? name = renderer.source? name := by
  have passed : (source.name == name) = false := by simpa using other
  simp only [source?, addSource, List.find?_cons, passed, List.find?_filter]
  congr 1
  funext known
  by_cases named : known.name = name
  · simp [named, Ne.symm other]
  · simp [named]

theorem text?_addSource (renderer : Renderer) (source : SourceFile) (name : String) :
    (renderer.addSource source).text? name =
      if source.name = name then some source.content else renderer.text? name := by
  by_cases same : source.name = name
  · simp [text?, source?, addSource, same]
  · rw [if_neg same, text?, source?_addSource_of_ne same, text?]

theorem consult_eq (tree : FileTree) (directory : AbsolutePath) (renderer : Renderer)
    (name : String) :
    renderer.consult tree directory name =
      if (renderer.text? name).isSome then .ok renderer
      else
        match diskText? tree directory name with
        | some content => .ok (renderer.addSource ⟨name, content⟩)
        | none => .error ⟨name⟩ := by
  rw [consult, source?_eq]
  cases renderer.text? name with
  | some content => rfl
  | none =>
      cases onDisk : diskText? tree directory name with
      | some content => rw [readSource_of_some onDisk]; rfl
      | none => rw [readSource_of_none onDisk]; rfl

/-- The names that labels lead to, in order, up to the first one that is a fault. -/
def foundNames (tree : FileTree) (directory : AbsolutePath) (renderer : Renderer) :
    List Label → List String
  | [] => []
  | label :: labels =>
      match renderer.consult tree directory label.span.file with
      | .ok known => label.span.file :: known.foundNames tree directory labels
      | .error _ => []

theorem mem_of_mem_foundNames {labels : List Label}
    (found : name ∈ renderer.foundNames tree directory labels) :
    name ∈ labels.map (·.span.file) := by
  induction labels generalizing renderer with
  | nil => cases found
  | cons label labels ih =>
      rw [foundNames] at found
      split at found
      · rcases List.mem_cons.mp found with rfl | later
        · exact List.mem_cons_self
        · exact List.mem_cons_of_mem _ (ih later)
      · cases found

/-- Looking labels up makes known what they lead to, as it is on disk, and nothing else. -/
theorem text?_consultAll (tree : FileTree) (directory : AbsolutePath) (renderer : Renderer)
    (labels : List Label) (name : String) :
    (renderer.consultAll tree directory labels).2.text? name =
      (renderer.text? name).or
        (if name ∈ renderer.foundNames tree directory labels then diskText? tree directory name
          else none) := by
  induction labels generalizing renderer with
  | nil => simp [consultAll, foundNames]
  | cons label labels ih =>
      have looked := consult_eq tree directory renderer label.span.file
      cases known : renderer.text? label.span.file with
      | some content =>
          rw [known, Option.isSome_some, if_pos rfl] at looked
          simp only [consultAll, foundNames, looked, ih, List.mem_cons]
          by_cases same : name = label.span.file
          · rw [same, known]
            rfl
          · simp [same]
      | none =>
          rw [known, Option.isSome_none, if_neg Bool.false_ne_true] at looked
          cases onDisk : diskText? tree directory label.span.file with
          | some content =>
              rw [onDisk] at looked
              simp only [consultAll, foundNames, looked, ih, text?_addSource, List.mem_cons]
              by_cases same : label.span.file = name
              · subst same
                simp [known, onDisk]
              · simp [same, Ne.symm same]
          | none =>
              -- The labels end here: nothing behind a fault is looked up.
              rw [onDisk] at looked
              simp [consultAll, foundNames, looked]

theorem palette_consultAll (tree : FileTree) (directory : AbsolutePath) (renderer : Renderer)
    (labels : List Label) :
    (renderer.consultAll tree directory labels).2.palette = renderer.palette := by
  induction labels generalizing renderer with
  | nil => rfl
  | cons label labels ih =>
      have looked := consult_eq tree directory renderer label.span.file
      split at looked
      · simp only [consultAll, looked, ih]
      · split at looked
        · simp only [consultAll, looked, ih]
          rfl
        · simp only [consultAll, looked]

theorem isSome_text?_of_consult {known : Renderer}
    (looked : renderer.consult tree directory name = .ok known) : (known.text? name).isSome := by
  rw [consult_eq] at looked
  split at looked
  next present =>
    cases looked
    exact present
  next =>
    split at looked
    next content _ =>
      cases looked
      simp [text?_addSource]
    next => cases looked

theorem isSome_text?_of_consultAll_none {labels : List Label}
    (faultless : (renderer.consultAll tree directory labels).1 = none) :
    ∀ label ∈ labels,
      ((renderer.consultAll tree directory labels).2.text? label.span.file).isSome := by
  induction labels generalizing renderer with
  | nil => simp
  | cons label labels ih =>
      cases looked : renderer.consult tree directory label.span.file with
      | error cause =>
          simp only [consultAll, looked] at faultless
          cases faultless
      | ok known =>
          simp only [consultAll, looked] at faultless ⊢
          intro other member
          rcases List.mem_cons.mp member with rfl | later
          · rw [text?_consultAll, Option.isSome_or, isSome_text?_of_consult looked, Bool.true_or]
          · exact ih faultless other later

/-- A fault is that of a name which is not known and not UTF-8 on disk, and it stays unknown. -/
theorem unknown_of_consultAll_some {labels : List Label} {cause : UndecodableFile}
    (fault : (renderer.consultAll tree directory labels).1 = some cause) :
    cause.name ∈ labels.map (·.span.file) ∧ diskText? tree directory cause.name = none ∧
      (renderer.consultAll tree directory labels).2.text? cause.name = none := by
  induction labels generalizing renderer with
  | nil => cases fault
  | cons label labels ih =>
      cases looked : renderer.consult tree directory label.span.file with
      | ok known =>
          simp only [consultAll, looked] at fault ⊢
          obtain ⟨member, missing, unknown⟩ := ih fault
          exact ⟨List.mem_cons_of_mem _ member, missing, unknown⟩
      | error other =>
          simp only [consultAll, looked, Option.some.injEq] at fault ⊢
          rw [consult_eq] at looked
          split at looked
          next => cases looked
          next unknown =>
            split at looked
            next => cases looked
            next missing =>
              cases looked
              subst fault
              exact ⟨List.mem_cons_self, missing, by simpa using unknown⟩

end Renderer

/-! ## Runs -/

structure Session where
  renderer : Renderer
  tree : FileTree

/-- What can happen in a session: a source is added, what is on disk changes in any way, or a
diagnostic is rendered. -/
inductive Event where
  | add (source : SourceFile)
  | edit (change : FileTree → FileTree)
  | render (diagnostic : Diagnostic)

namespace Session

variable (directory : AbsolutePath)

def render (session : Session) (diagnostic : Diagnostic) :
    Except UndecodableFile String × Renderer :=
  session.renderer.render session.tree directory diagnostic

def next (session : Session) : Event → Session
  | .add source => { session with renderer := session.renderer.addSource source }
  | .edit change => { session with tree := change session.tree }
  | .render diagnostic => { session with renderer := (session.render directory diagnostic).2 }

def after (session : Session) (events : List Event) : Session :=
  events.foldl (next directory) session

/-- The diagnostics that events render, each with the session in which it happens. -/
def renders (session : Session) : List Event → List (Session × Diagnostic)
  | [] => []
  | event :: events =>
      let later := (session.next directory event).renders events
      match event with
      | .render diagnostic => (session, diagnostic) :: later
      | _ => later

/-- A render comes as far as a name and finds a text for it; a later label may be a fault. -/
def finds (name : String) (session : Session) (diagnostic : Diagnostic) : Bool :=
  name ∈ session.renderer.foundNames session.tree directory diagnostic.labels

/-- A render as a whole is without a fault, and one of its labels has a name. -/
def succeeds (name : String) (session : Session) (diagnostic : Diagnostic) : Bool :=
  (session.render directory diagnostic).1.isOk && name ∈ diagnostic.labels.map (·.span.file)

/-- The first text that a name had on disk at one of the renders that count. -/
def firstText? (name : String) (counts : Session → Diagnostic → Bool)
    (renders : List (Session × Diagnostic)) : Option String :=
  renders.findSome? fun (session, diagnostic) =>
    if counts session diagnostic then Renderer.diskText? session.tree directory name else none

end Session

/-- An event adds a source of a name, or renders a diagnostic with a label of that name. -/
def Event.Concerns (name : String) : Event → Prop
  | .add source => source.name = name
  | .edit _ => False
  | .render diagnostic => name ∈ diagnostic.labels.map (·.span.file)

def lastAdded? (name : String) (events : List Event) : Option String :=
  (events.filterMap fun
    | .add source => if source.name = name then some source.content else none
    | _ => none).getLast?

theorem lastAdded?_add (name : String) (events : List Event) (source : SourceFile) :
    lastAdded? name (events ++ [.add source]) =
      if source.name = name then some source.content else lastAdded? name events := by
  by_cases same : source.name = name
  · simp [lastAdded?, List.filterMap_append, same]
  · simp [lastAdded?, List.filterMap_append, same]

@[simp] theorem lastAdded?_edit (name : String) (events : List Event)
    (change : FileTree → FileTree) :
    lastAdded? name (events ++ [.edit change]) = lastAdded? name events := by
  simp [lastAdded?, List.filterMap_append]

@[simp] theorem lastAdded?_render (name : String) (events : List Event)
    (diagnostic : Diagnostic) :
    lastAdded? name (events ++ [.render diagnostic]) = lastAdded? name events := by
  simp [lastAdded?, List.filterMap_append]

namespace Session

variable {directory : AbsolutePath} {session : Session}

theorem after_concat (events : List Event) (event : Event) :
    session.after directory (events ++ [event]) =
      (session.after directory events).next directory event :=
  List.foldl_concat ..

theorem renders_concat (events : List Event) (event : Event) :
    session.renders directory (events ++ [event]) =
      session.renders directory events ++
        match event with
        | .render diagnostic => [(session.after directory events, diagnostic)]
        | _ => [] := by
  induction events generalizing session with
  | nil => cases event <;> rfl
  | cons first events ih => cases first <;> simp [renders, ih, after]

theorem text?_next_render (session : Session) (diagnostic : Diagnostic) (name : String) :
    (session.next directory (.render diagnostic)).renderer.text? name =
      (session.renderer.text? name).or
        (if session.finds directory name diagnostic then
          Renderer.diskText? session.tree directory name else none) := by
  have looked := Renderer.text?_consultAll session.tree directory session.renderer
    diagnostic.labels name
  simp only [next, render, Renderer.render, finds, decide_eq_true_eq]
  rw [← looked]
  split <;> simp_all

/-- What is known for a name is the text last added under it, or else what it had on disk
when it was first found. -/
theorem text?_after (fresh : ∀ name, session.renderer.text? name = none) (events : List Event)
    (name : String) :
    (session.after directory events).renderer.text? name =
      (lastAdded? name events).or
        (firstText? directory name (finds directory name) (session.renders directory events)) := by
  induction events using List.reverseRecOn with
  | nil => exact fresh name
  | append_singleton events event ih =>
      rw [after_concat, renders_concat]
      cases event with
      | add source =>
          rw [lastAdded?_add, List.append_nil, next, Renderer.text?_addSource, ih]
          split <;> rfl
      | edit change => rw [lastAdded?_edit, List.append_nil, next, ih]
      | render diagnostic =>
          rw [text?_next_render, ih, Option.or_assoc, lastAdded?_render]
          simp [firstText?]

theorem palette_after (session : Session) (events : List Event) :
    (session.after directory events).renderer.palette = session.renderer.palette := by
  induction events using List.reverseRecOn with
  | nil => rfl
  | append_singleton events event ih =>
      rw [after_concat]
      cases event with
      | add source => exact ih
      | edit change => exact ih
      | render diagnostic =>
          rw [next, render, Renderer.render, ← ih]
          have kept := Renderer.palette_consultAll (session.after directory events).tree directory
            (session.after directory events).renderer diagnostic.labels
          split <;> simp_all

theorem render_eq_ok_iff {diagnostic : Diagnostic} {text : String} :
    (session.render directory diagnostic).1 = .ok text ↔
      (∀ label ∈ diagnostic.labels,
          ((session.next directory (.render diagnostic)).renderer.text? label.span.file).isSome) ∧
        text = diagnostic.render session.renderer.palette fun span =>
          ((session.next directory (.render diagnostic)).renderer.text? span.file).bind
            fun content => (⟨span.file, content⟩ : SourceFile).lineAt? span.startLine := by
  have lines (renderer : Renderer) (span : Span) : renderer.lineAt? span =
      (renderer.text? span.file).bind fun content =>
        (⟨span.file, content⟩ : SourceFile).lineAt? span.startLine := by
    rw [Renderer.lineAt?, Renderer.source?_eq, Option.bind_map]
    rfl
  have palette := Renderer.palette_consultAll session.tree directory session.renderer
    diagnostic.labels
  have looked := Renderer.text?_consultAll session.tree directory session.renderer
    diagnostic.labels
  simp only [next, render, Renderer.render]
  cases outcome : session.renderer.consultAll session.tree directory diagnostic.labels with
  | mk fault known =>
      rw [outcome] at palette looked
      cases fault with
      | none =>
          have all := Renderer.isSome_text?_of_consultAll_none (congrArg Prod.fst outcome)
          rw [outcome] at all
          simp only [← lines, ← palette, Except.ok.injEq]
          exact ⟨fun same => ⟨all, same.symm⟩, fun both => both.2.symm⟩
      | some cause =>
          obtain ⟨member, _, unknown⟩ :=
            Renderer.unknown_of_consultAll_some (congrArg Prod.fst outcome)
          obtain ⟨label, listed, named⟩ := List.mem_map.mp member
          rw [outcome] at unknown
          simp only [reduceCtorEq, false_iff, not_and]
          intro all
          have known := all label listed
          rw [named, unknown] at known
          cases known

theorem source?_next_of_not_concerns {event : Event} {name : String}
    (other : ¬event.Concerns name) :
    (session.next directory event).renderer.source? name = session.renderer.source? name := by
  cases event with
  | add source => exact Renderer.source?_addSource_of_ne other
  | edit change => rfl
  | render diagnostic =>
      have passed : session.finds directory name diagnostic = false := by
        rw [finds, decide_eq_false_iff_not]
        exact fun found => other (Renderer.mem_of_mem_foundNames found)
      rw [Renderer.source?_eq, Renderer.source?_eq, text?_next_render, passed]
      simp

/-- A render that fails leaves its cause unknown, so that the name is looked up again. -/
theorem consult_of_render_eq_error {diagnostic : Diagnostic} {cause : UndecodableFile}
    (fault : (session.render directory diagnostic).1 = .error cause) :
    cause.name ∈ diagnostic.labels.map (·.span.file) ∧
      Renderer.diskText? session.tree directory cause.name = none ∧
      (session.next directory (.render diagnostic)).renderer.source? cause.name = none ∧
      ∀ tree, (session.next directory (.render diagnostic)).renderer.consult tree directory
          cause.name =
        match Renderer.diskText? tree directory cause.name with
        | some content =>
            .ok ((session.next directory (.render diagnostic)).renderer.addSource
              ⟨cause.name, content⟩)
        | none => .error cause := by
  simp only [next, render, Renderer.render] at fault ⊢
  cases outcome : session.renderer.consultAll session.tree directory diagnostic.labels with
  | mk found known =>
      rw [outcome] at fault
      cases found with
      | none => cases fault
      | some other =>
          cases fault
          obtain ⟨member, missing, unknown⟩ :=
            Renderer.unknown_of_consultAll_some (congrArg Prod.fst outcome)
          rw [outcome] at unknown
          refine ⟨member, missing, ?_, fun tree => ?_⟩
          · rw [Renderer.source?_eq, unknown]
            rfl
          · rw [Renderer.consult_eq, unknown]
            rfl

end Session

end ExprLexer
