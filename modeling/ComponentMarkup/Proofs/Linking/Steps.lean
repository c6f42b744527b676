import ComponentMarkup.Linking
import ComponentMarkup.Proofs.Component

/-!
The steps of linking a file. Registering a component does nothing, brings its tag into scope or flags
the component that has the tag. Attaching code and looking up a base change one component each, and no
declaration and no flag.
-/

namespace ComponentMarkup
namespace Linking

/-! ## Registering -/

section Registering

/-- A declaration of the file hides what the file imports. -/
def Hides (file : Path) (first second : Component) : Prop :=
  (first.file == file) = true ∧ (second.file == file) = false

instance (file : Path) (first second : Component) : Decidable (Hides file first second) :=
  inferInstanceAs (Decidable (_ ∧ _))

theorem not_hides_iff {file : Path} {first second : Component} :
    ¬ Hides file first second ↔ (first.file == file && !(second.file == file)) = false := by
  simp [Hides]

/-- What is reported about two components of one tag. -/
def clashReports (first second : Component) (isLocal : Bool) : Diagnostics :=
  [⟨clash second.tag isLocal false, first.file, first.position⟩,
    ⟨clash second.tag isLocal true, second.file, second.position⟩]

theorem severity_clashReports (first second : Component) (isLocal : Bool) :
    ∀ d ∈ clashReports first second isLocal, d.severity = .error := by
  cases isLocal <;> simp [clashReports, clash, Diagnostic.severity, Problem.severity]

/-- The ways in which registering the component `id` goes. -/
inductive Registers (file : Path) (l : Linking) (id : ComponentId) : Linking → Prop
  | absent (absent : l.components.get? id = none) : Registers file l id l
  | admitted {second : Component} (present : l.components.get? id = some second)
      (free : l.scope.find? second.tag = none) :
      Registers file l id { l with scope := l.scope.insert second.tag id }
  | settled {second : Component} {existing : ComponentId}
      (present : l.components.get? id = some second)
      (taken : l.scope.find? second.tag = some existing)
      (quiet : ∀ first, l.components.get? existing = some first →
        existing = id ∨ Hides file first second ∨ first.hasConflict = true) :
      Registers file l id l
  | clashes {first second : Component} {existing : ComponentId}
      (present : l.components.get? id = some second)
      (taken : l.scope.find? second.tag = some existing)
      (keeper : l.components.get? existing = some first) (different : id ≠ existing)
      (visible : ¬ Hides file first second) (unflagged : first.hasConflict = false) :
      Registers file l id (l.reportClash file existing first second)

variable {file : Path} {l l' : Linking} {id n : ComponentId} {tag : String} {c : ComponentId}

theorem registers_register (file : Path) (l : Linking) (id : ComponentId) :
    Registers file l id (l.register file id) := by
  unfold register
  cases present : l.components.get? id with
  | none => exact .absent present
  | some second =>
      dsimp only
      cases taken : l.scope.find? second.tag with
      | none => exact .admitted present taken
      | some existing =>
          dsimp only
          cases keeper : l.components.get? existing with
          | none =>
              apply Registers.settled present taken
              intro first there
              cases keeper.symm.trans there
          | some first =>
              dsimp only
              have only (other : Component) (there : l.components.get? existing = some other) :
                  other = first := Option.some.inj (there.symm.trans keeper)
              split
              · next same => exact .settled present taken fun _ _ => .inl same
              · next different =>
                split
                · next hidden =>
                  apply Registers.settled present taken
                  intro other there
                  rw [only other there]
                  simp only [Bool.and_eq_true, Bool.not_eq_true'] at hidden
                  exact .inr (.inl hidden)
                · next visible =>
                  split
                  · next flagged =>
                    apply Registers.settled present taken
                    intro other there
                    rw [only other there]
                    exact .inr (.inr flagged)
                  · next unflagged =>
                    refine .clashes present taken keeper (Ne.symm different) ?_ (by simpa using unflagged)
                    intro hides
                    apply visible
                    simpa [Hides] using hides

/-! ### Reporting a clash -/

section Clash
variable (file l) (existing : ComponentId) (first second : Component)

@[simp] theorem scope_reportClash :
    (l.reportClash file existing first second).scope = l.scope := rfl

@[simp] theorem components_reportClash : (l.reportClash file existing first second).components =
    l.components.update existing fun c => { c with hasConflict := true } := rfl

theorem reports_reportClash : (l.reportClash file existing first second).reports =
    l.reports ++ clashReports first second (second.file == file) := by
  simp [reportClash, report, clashReports]

end Clash

/-! ### What registering keeps -/

namespace Registers
variable (registers : Registers file l id l')
include registers

theorem find?_scope (before : l.scope.find? tag = some c) : l'.scope.find? tag = some c := by
  cases registers with
  | absent _ => exact before
  | admitted present free =>
      rw [OrderedMap.find?_insert_of_ne, before]
      rintro rfl
      cases free.symm.trans before
  | settled _ _ _ => exact before
  | clashes _ _ _ _ _ _ => exact before

theorem find?_scope_or (after : l'.scope.find? tag = some c) :
    l.scope.find? tag = some c ∨
      c = id ∧ ∃ second, l.components.get? id = some second ∧ second.tag = tag := by
  cases registers with
  | absent _ => exact .inl after
  | @admitted second present free =>
      by_cases same : second.tag = tag
      · subst same
        rw [OrderedMap.find?_insert_self] at after
        exact .inr ⟨(Option.some.inj after).symm, second, present, rfl⟩
      · rw [OrderedMap.find?_insert_of_ne _ _ same] at after
        exact .inl after
  | settled _ _ _ => exact .inl after
  | clashes _ _ _ _ _ _ => exact .inl after

theorem agrees : l.components.Agrees l'.components := by
  cases registers with
  | absent _ => exact .refl _
  | admitted _ _ => exact .refl _
  | settled _ _ _ => exact .refl _
  | clashes _ _ _ _ _ _ => exact (ComponentTable.Agrees.refl _).update _ _ fun _ => rfl

end Registers

end Registering

/-! ## Attaching code and looking up bases -/

/-- A component with the unit of its script file, unless it has a unit. -/
def supply (scripts : OrderedMap Path CodeUnit) (c : Component) : Component :=
  { c with code := c.code.or (c.external.bind scripts.find?) }

/-- What a component finds for the tag it extends, which is never itself. -/
def baseIn (scope : Scope) (id : ComponentId) (c : Component) : Option ComponentId :=
  (scope.find? c.extendsTag).filter (· != id)

/-- A component with the base that it finds in a scope. -/
def rebase (scope : Scope) (id : ComponentId) (c : Component) : Component :=
  { c with base := (baseIn scope id c).or c.base }

theorem fst_attach (scripts : OrderedMap Path CodeUnit) (external owner : Path) :
    (attach scripts external owner).1 = scripts.find? external := by
  unfold attach
  split
  · next absent => exact absent.symm
  · next found => exact found.symm

theorem scope_attachCode (scripts : OrderedMap Path CodeUnit) (l : Linking) (id : ComponentId) :
    (l.attachCode scripts id).scope = l.scope := by
  unfold attachCode
  split <;> rfl

theorem components_attachCode (scripts : OrderedMap Path CodeUnit) (l : Linking)
    (id : ComponentId) :
    (l.attachCode scripts id).components = l.components.update id (supply scripts) := by
  unfold attachCode
  split
  · next present =>
    dsimp only
    apply ComponentTable.update_congr
    intro c there
    obtain rfl := Option.some.inj (present.symm.trans there)
    simp [supply, fst_attach]
  · next other =>
    refine (ComponentTable.update_eq_self _ _ ?_).symm
    intro c there
    -- The component has a unit, or no script file that could supply one.
    unfold supply
    obtain ⟨tag, extendsTag, file, element, template, position, base, hasConflict, code,
      external, used⟩ := c
    cases code with
    | some unit => rfl
    | none =>
        cases external with
        | none => rfl
        | some external => exact absurd there (other _ _ _ _ _ _ _ _ _ _)

theorem scope_findBase (l : Linking) (id : ComponentId) : (l.findBase id).scope = l.scope := by
  unfold findBase
  split
  · rfl
  · dsimp only
    split
    · rfl
    · split <;> rfl

theorem components_findBase (l : Linking) (id : ComponentId) :
    (l.findBase id).components = l.components.update id (rebase l.scope id) := by
  unfold findBase
  cases present : l.components.get? id with
  | none =>
      refine (ComponentTable.update_eq_self _ _ ?_).symm
      intro c there
      cases present.symm.trans there
  | some c =>
      dsimp only
      cases found : (l.scope.find? c.extendsTag).filter (· != id) with
      | some base =>
          apply ComponentTable.update_congr
          intro other there
          obtain rfl := Option.some.inj (present.symm.trans there)
          simp [rebase, baseIn, found]
      | none =>
          have same : l.components = l.components.update id (rebase l.scope id) := by
            refine (ComponentTable.update_eq_self _ _ ?_).symm
            intro other there
            obtain rfl := Option.some.inj (present.symm.trans there)
            simp [rebase, baseIn, found]
          dsimp only
          split
          · exact same
          · exact same

section Kept
variable (scripts : OrderedMap Path CodeUnit) (l : Linking) (id : ComponentId)

theorem agrees_attachCode : l.components.Agrees (l.attachCode scripts id).components := by
  rw [components_attachCode]
  exact (ComponentTable.Agrees.refl _).update _ _ fun _ => rfl

theorem agrees_findBase : l.components.Agrees (l.findBase id).components := by
  rw [components_findBase]
  exact (ComponentTable.Agrees.refl _).update _ _ fun _ => rfl

theorem hasConflict_attachCode :
    (l.attachCode scripts id).components.hasConflict = l.components.hasConflict := by
  rw [components_attachCode]
  exact funext fun n => l.components.hasConflict_update id n _ fun _ => rfl

theorem hasConflict_findBase :
    (l.findBase id).components.hasConflict = l.components.hasConflict := by
  rw [components_findBase]
  exact funext fun n => l.components.hasConflict_update id n _ fun _ => rfl

end Kept

/-- The own components of a file, each registered and then supplied. -/
def declareOwn (scripts : OrderedMap Path CodeUnit) (file : Path) (l : Linking) (id : ComponentId) :
    Linking :=
  (l.register file id).attachCode scripts id

end Linking

/-! ## Files -/

/-- The file with the code of its script file, unless it has code. -/
def SourceFile.supplied (scripts : OrderedMap Path CodeUnit) (file : SourceFile) : SourceFile :=
  { file with code := file.code.or (file.external.bind scripts.find?) }

theorem attachFileCode_eq (scripts : OrderedMap Path CodeUnit) (file : SourceFile) :
    (attachFileCode scripts file).1 = file.supplied scripts := by
  unfold attachFileCode SourceFile.supplied
  split
  · next code external => simp [code, external, Linking.fst_attach]
  · next other =>
    have kept : file.code.or (file.external.bind scripts.find?) = file.code := by
      cases code : file.code with
      | some unit => rfl
      | none =>
          cases external : file.external with
          | none => rfl
          | some external => exact absurd external (other _ code)
    rw [kept]

/-- What a file is linked with: the loops over what it declares and imports. -/
def linking (files : OrderedMap Path SourceFile) (scripts : OrderedMap Path CodeUnit)
    (t : ComponentTable) (file : SourceFile) : Linking :=
  let start : Linking :=
    { scope := file.scope, components := t, reports := (attachFileCode scripts file).2 }
  (importedBy files file.componentLinks).foldl (Linking.register file.path)
    (file.declared.foldl (Linking.declareOwn scripts file.path) start)

theorem linkFile_eq_linking (files : OrderedMap Path SourceFile)
    (scripts : OrderedMap Path CodeUnit) (t : ComponentTable) (file : SourceFile) :
    linkFile files scripts t file =
      let based := file.declared.foldl Linking.findBase (linking files scripts t file)
      ({ file.supplied scripts with scope := based.scope }, based.components, based.reports) := by
  have attached := attachFileCode_eq scripts file
  simp only [linkFile, linking, attached]
  rfl

end ComponentMarkup
