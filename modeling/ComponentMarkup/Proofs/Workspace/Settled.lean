import ComponentMarkup.Proofs.Annotated.Marks
import ComponentMarkup.Proofs.Annotated.Parallel
import ComponentMarkup.Proofs.Workspace.Inserted

/-!
What a run makes of the file at each path. What was declared stays, a file is linked over the
declarations of all files, and once all are linked no flag changes any more.
-/

namespace ComponentMarkup

theorem basis_annotateFile (keepBlanks : Bool) (s : Pass) :
    (annotateFile keepBlanks s).basis = s.basis :=
  (visits_annotateFile keepBlanks s).basis

/-- Files that declare and link the same. -/
structure SourceFile.SameDeclarations (file after : SourceFile) : Prop where
  path : after.path = file.path
  declared : after.declared = file.declared
  componentLinks : after.componentLinks = file.componentLinks

/-- What linking over `files`, whose components are in `t`, makes of a file without a scope. -/
structure SourceFile.Linked (t : ComponentTable) (files : OrderedMap Path SourceFile)
    (file linked : SourceFile) : Prop where
  same : ∃ scope code, linked = { file with scope, code }
  scope : ∀ tag, linked.scope.find? tag = Linking.chosen t (candidates files file) tag

/-- The first pass over a linked file, once no flag changes any more. -/
structure Pass.Begins (t : ComponentTable) (flagged : ComponentId → Bool) (linked : SourceFile)
    (s : Pass) : Prop where
  file : s.file = linked
  agrees : t.Agrees s.components
  flagged : s.components.hasConflict = flagged
  fresh : s.annotations = {}
  wellFormed : s.document.WellFormed

/-- What the first pass makes of a linked file. -/
def SourceFile.Annotated (keepBlanks : Bool) (t : ComponentTable) (flagged : ComponentId → Bool)
    (linked after : SourceFile) : Prop :=
  ∃ s : Pass, s.Begins t flagged linked ∧ after = (annotateFile keepBlanks s).file

theorem SourceFile.Annotated.sameDeclarations {keepBlanks : Bool} {t : ComponentTable}
    {files : OrderedMap Path SourceFile} {flagged : ComponentId → Bool}
    {file linked after : SourceFile} (links : file.Linked t files linked)
    (annotated : linked.Annotated keepBlanks t flagged after) : file.SameDeclarations after := by
  obtain ⟨s, begins, rfl⟩ := annotated
  obtain ⟨scope, code, same⟩ := links.same
  have kept := congrArg Basis.file (basis_annotateFile keepBlanks s)
  have before : s.file = { file with scope, code } := begins.file.trans same
  have path := congrArg SourceFile.path kept
  have declared := congrArg SourceFile.declared kept
  have componentLinks := congrArg SourceFile.componentLinks kept
  change _ = s.file.path at path
  change _ = s.file.declared at declared
  change _ = s.file.componentLinks at componentLinks
  rw [before] at path declared componentLinks
  exact ⟨path, declared, componentLinks⟩

namespace Workspace

/-! ## Conflicts -/

/-- Whether `c` clashes in the scope of the file at a path. -/
def Clashes (w : Workspace) (path : Path) (c : ComponentId) : Prop :=
  ∃ file, w.files.find? path = some file ∧
    Linking.Clashes w.components file.path (candidates w.files file) c

/-- Whether the file at a path links `target`. -/
def Links (w : Workspace) (path target : Path) : Prop :=
  ∃ file, w.files.find? path = some file ∧ ∃ link ∈ file.componentLinks, (link == target) = true

/-- Workspaces of the same declarations. -/
structure SameDeclarations (w w' : Workspace) : Prop where
  components : w.components.Agrees w'.components
  files : ∀ path, Option.Rel SourceFile.SameDeclarations (w.files.find? path)
    (w'.files.find? path)

namespace SameDeclarations
variable {w w' : Workspace} {path : Path}

theorem symm (same : w.SameDeclarations w') : w'.SameDeclarations w where
  components := same.components.symm
  files path := by
    have related := same.files path
    generalize w.files.find? path = found at related
    generalize w'.files.find? path = found' at related
    cases related with
    | none => exact .none
    | some file => exact .some ⟨file.path.symm, file.declared.symm, file.componentLinks.symm⟩

theorem exists_find? (same : w.SameDeclarations w') {file : SourceFile}
    (found : w.files.find? path = some file) :
    ∃ file', w'.files.find? path = some file' ∧ file.SameDeclarations file' := by
  have related := same.files path
  rw [found] at related
  exact OrderedMap.exists_of_rel_some related

theorem candidates {file file' : SourceFile} (same : w.SameDeclarations w')
    (declares : file.SameDeclarations file') :
    candidates w'.files file' = candidates w.files file := by
  have declared (link : Path) : (w'.files.find? link).map SourceFile.declared =
      (w.files.find? link).map SourceFile.declared := by
    have related := same.files link
    generalize w.files.find? link = found at related
    generalize w'.files.find? link = found' at related
    cases related with
    | none => rfl
    | some other => exact congrArg some other.declared
  rw [ComponentMarkup.candidates, declares.declared, declares.componentLinks,
    importedBy_congr declared]
  rfl

theorem clashes (same : w.SameDeclarations w') {c : ComponentId} (clashes : w.Clashes path c) :
    w'.Clashes path c := by
  obtain ⟨file, found, clashes⟩ := clashes
  obtain ⟨file', found', declares⟩ := same.exists_find? found
  refine ⟨file', found', ?_⟩
  rw [same.candidates declares, declares.path]
  exact clashes.congr same.components

theorem links (same : w.SameDeclarations w') {target : Path} (links : w.Links path target) :
    w'.Links path target := by
  obtain ⟨file, found, linked⟩ := links
  obtain ⟨file', found', declares⟩ := same.exists_find? found
  exact ⟨file', found', declares.componentLinks ▸ linked⟩

end SameDeclarations

/-! ## Turns -/

variable {t components : ComponentTable} {entries : List (Path × SourceFile)}

theorem linkEach_spec (files : OrderedMap Path SourceFile) (scripts : OrderedMap Path CodeUnit)
    (fresh : ∀ entry ∈ entries, entry.2.scope = {})
    (agrees : t.Agrees components) :
    OrderedMap.Related (SourceFile.Linked t files) entries
      (linkEach files scripts entries components).1 ∧
    t.Agrees (linkEach files scripts entries components).2 ∧
    ∀ c, (linkEach files scripts entries components).2.hasConflict c = true ↔
      components.hasConflict c = true ∨
        ∃ entry ∈ entries, Linking.Clashes t entry.2.path (candidates files entry.2) c := by
  induction entries generalizing components with
  | nil => exact ⟨.nil, agrees, fun c => by simp [linkEach]⟩
  | cons entry rest ih =>
      obtain ⟨path, file⟩ := entry
      obtain ⟨code, l, linked, registers⟩ := linkFile_eq files scripts components file
      have registered := registers (fresh (path, file) List.mem_cons_self)
      obtain ⟨related, agreesAfter, flagged⟩ := ih
        (fun entry member => fresh entry (List.mem_cons_of_mem _ member))
        (agrees.trans registered.agrees)
      simp only [linkEach, linked]
      refine ⟨.cons ⟨rfl, ⟨l.scope, code, rfl⟩, fun tag => ?_⟩ related, agreesAfter, fun c => ?_⟩
      · exact (registered.scope tag).trans (Linking.chosen_congr agrees _ tag)
      -- The table this file is linked with agrees with `t`, and clashes do not depend on flags.
      · have here : Linking.Clashes components file.path (candidates files file) c ↔
            Linking.Clashes t file.path (candidates files file) c :=
          ⟨.congr agrees.symm, .congr agrees⟩
        rw [flagged, registered.flagged, here, List.exists_mem_cons_iff, or_assoc]

theorem annotateEach_spec {flagged : ComponentId → Bool} (keepBlanks : Bool) (counter : UInt64)
    (holds : ∀ entry ∈ entries, ∃ source : Source, source.document.WellFormed ∧
      entry.2.Holds source)
    (agrees : t.Agrees components) (same : components.hasConflict = flagged) :
    OrderedMap.Related (SourceFile.Annotated keepBlanks t flagged) entries
      (annotateEach keepBlanks entries components counter).1 ∧
    t.Agrees (annotateEach keepBlanks entries components counter).2.1 ∧
    (annotateEach keepBlanks entries components counter).2.1.hasConflict = flagged := by
  induction entries generalizing components counter with
  | nil => exact ⟨.nil, agrees, same⟩
  | cons entry rest ih =>
      obtain ⟨path, file⟩ := entry
      obtain ⟨source, wellFormed, held⟩ := holds (path, file) List.mem_cons_self
      let s : Pass := { file, components, counter }
      have document : s.document = source.document := held.document
      have fresh : s.annotations = {} := held.annotations
      have checked : s.document.WellFormed := document ▸ wellFormed
      have kept := basis_annotateFile keepBlanks s
      have declaration := congrArg Basis.declaration kept
      have flags := congrArg Basis.flagged kept
      obtain ⟨related, after⟩ := ih (annotateFile keepBlanks s).counter
        (fun entry member => holds entry (List.mem_cons_of_mem _ member))
        (agrees.trans fun id => congrFun declaration id) (flags.trans same)
      exact ⟨.cons ⟨rfl, s, ⟨rfl, agrees, same, fresh, checked⟩, rfl⟩ related, after⟩

/-! ## First runs -/

/-- `w` is what linking and then annotating every file of `declared` for the first time leaves. -/
structure Settles (keepBlanks : Bool) (declared w : Workspace) : Prop where
  components : declared.components.Agrees w.components
  flagged : ∀ c, w.components.hasConflict c = true ↔ ∃ path, declared.Clashes path c
  files : ∀ path, Option.Rel (fun file after => ∃ linked,
      file.Linked declared.components declared.files linked ∧
      linked.Annotated keepBlanks declared.components w.components.hasConflict after)
    (declared.files.find? path) (w.files.find? path)

namespace Settles
variable {keepBlanks : Bool} {declared w : Workspace} (settles : Settles keepBlanks declared w)
include settles

theorem sameDeclarations : declared.SameDeclarations w where
  components := settles.components
  files path := OrderedMap.rel_imp (settles.files path)
    fun _ _ ⟨_, links, annotated⟩ => annotated.sameDeclarations links

theorem hasConflict_iff (c : ComponentId) :
    w.components.hasConflict c = true ↔ ∃ path, w.Clashes path c := by
  rw [settles.flagged]
  constructor
  · rintro ⟨path, clashes⟩
    exact ⟨path, settles.sameDeclarations.clashes clashes⟩
  · rintro ⟨path, clashes⟩
    exact ⟨path, settles.sameDeclarations.symm.clashes clashes⟩

end Settles

/-- A first run settles what was declared. -/
theorem settles_run (settings : Settings) (scripts : OrderedMap Path CodeUnit)
    {sources : List Source} (wellFormed : ∀ source ∈ sources, source.document.WellFormed) :
    Settles settings.keepBlanks (({ settings, scripts } : Workspace).declareAll sources).1
      (({ settings, scripts } : Workspace).run sources).1 := by
  have unflagged := hasConflict_declareAll (w := { settings, scripts }) sources fun _ => rfl
  obtain ⟨files, components, declared, distinct, origin, ran⟩ :=
    run_turns settings scripts sources
  have unlinked : ∀ entry ∈ files.entries, entry.2.scope = {} := by
    intro entry member
    obtain ⟨source, -, first, record⟩ := origin entry member
    rw [record]
    rfl
  have held : ∀ entry ∈ (linkEach files scripts files.entries components).1,
      ∃ source : Source, source.document.WellFormed ∧ entry.2.Holds source := by
    refine linkEach_holds
      (P := fun _ file => ∃ source : Source, source.document.WellFormed ∧ file.Holds source)
      ?_ fun entry member => ?_
    · rintro path file scope code ⟨source, checked, holds⟩
      exact ⟨source, checked, holds.document, holds.annotations⟩
    · obtain ⟨source, found, first, record⟩ := origin entry member
      exact ⟨source, wellFormed source (mem_of_source? found),
        record ▸ source.holds_file settings.packageRoot first⟩
  obtain ⟨linked, agrees, flagged⟩ := linkEach_spec files scripts unlinked (.refl components)
  obtain ⟨annotated, agreesAfter, flaggedAfter⟩ :=
    annotateEach_spec settings.keepBlanks 0 held agrees rfl
  rw [declared] at unflagged ⊢
  rw [ran]
  dsimp only at unflagged ⊢
  refine ⟨agreesAfter, fun c => ?_, fun path => ?_⟩
  · rw [flaggedAfter, flagged, unflagged, or_iff_right Bool.false_ne_true]
    exact (OrderedMap.exists_find?_iff distinct fun file =>
      Linking.Clashes components file.path (candidates files file) c).symm
  · rw [flaggedAfter]
    -- Linking and annotating keep the keys, so a path has a file in all three lists or in none.
    have first := linked.find? path
    have second := annotated.find? path
    generalize (OrderedMap.mk (annotateEach _ _ _ _).1).find? path = after at second ⊢
    generalize (OrderedMap.mk (linkEach _ _ _ _).1).find? path = between at first second
    change Option.Rel _ (files.find? path) _ at first
    generalize files.find? path = file at first ⊢
    cases first with
    | none =>
        cases second
        exact .none
    | some first =>
        cases second with
        | some second => exact .some ⟨_, first, second⟩

end Workspace
end ComponentMarkup
