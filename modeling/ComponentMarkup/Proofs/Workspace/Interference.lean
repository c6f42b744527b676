import ComponentMarkup.Proofs.Workspace.Settled

/-!
Runs of the same sources with and without one more file. A file that does not link the additional
one has the scope that it had, and what its nodes are bound to differs only where a component of
that scope is flagged in one of the runs.
-/

namespace ComponentMarkup.Workspace

namespace Inserted
variable {path : Path} {first count : Nat} {w w' : Workspace}
  (inserted : Inserted path first count w w')
include inserted

theorem candidates_renumbered {file : SourceFile}
    (apart : ∀ link ∈ file.componentLinks, (link == path) = false) :
    candidates w'.files (file.renumbered (shifted first count)) =
      (candidates w.files file).map (shifted first count) := by
  refine candidates_map rfl rfl fun link member => ?_
  rw [inserted.files link (apart link member), Option.map_map]
  rfl

theorem clashes_iff {other : Path} {c : ComponentId} (different : (other == path) = false)
    (apart : ¬ w.Links other path) :
    w'.Clashes other (shifted first count c) ↔ w.Clashes other c := by
  have scope {file : SourceFile} (found : w.files.find? other = some file) :
      Linking.Clashes w'.components file.path
          (candidates w'.files (file.renumbered (shifted first count))) (shifted first count c) ↔
        Linking.Clashes w.components file.path (candidates w.files file) c := by
    have unlinked : ∀ link ∈ file.componentLinks, (link == path) = false := by
      intro link member
      exact Bool.eq_false_iff.2 fun same => apart ⟨file, found, link, member, same⟩
    rw [inserted.candidates_renumbered unlinked]
    exact Linking.clashes_map inserted.components (shifted_injective first count)
  constructor
  · rintro ⟨file', found', clashes⟩
    rw [inserted.files other different] at found'
    obtain ⟨file, found, rfl⟩ := Option.map_eq_some_iff.1 found'
    exact ⟨file, found, (scope found).1 clashes⟩
  · rintro ⟨file, found, clashes⟩
    refine ⟨_, ?_, (scope found).2 clashes⟩
    rw [inserted.files other different, found, Option.map_some]

theorem links_iff {other : Path} (different : (other == path) = false) :
    w'.Links other path ↔ w.Links other path := by
  constructor
  · rintro ⟨file', found', linked⟩
    rw [inserted.files other different] at found'
    obtain ⟨file, found, rfl⟩ := Option.map_eq_some_iff.1 found'
    exact ⟨file, found, linked⟩
  · rintro ⟨file, found, linked⟩
    refine ⟨file.renumbered (shifted first count), ?_, linked⟩
    rw [inserted.files other different, found, Option.map_some]

theorem renamed {file linked linked' : SourceFile} {flagged flagged' : ComponentId → Bool}
    {s s' : Pass} (apart : ∀ link ∈ file.componentLinks, (link == path) = false)
    (links : file.Linked w.components w.files linked)
    (links' : (file.renumbered (shifted first count)).Linked w'.components w'.files linked')
    (begins : s.Begins w.components flagged linked)
    (begins' : s'.Begins w'.components flagged' linked') :
    s.basis.Renamed (shifted first count) s'.basis ∧ s'.document = s.document := by
  obtain ⟨scope, code, same⟩ := links.same
  obtain ⟨scope', code', same'⟩ := links'.same
  have before := begins.file.trans same
  have before' := begins'.file.trans same'
  refine ⟨⟨fun tag => ?_, ?_, fun id => ?_⟩, ?_⟩
  · change s'.file.scope.find? tag = (s.file.scope.find? tag).map (shifted first count)
    rw [begins.file, begins'.file, links.scope, links'.scope,
      inserted.candidates_renumbered apart, Linking.chosen_map inserted.components]
  · change s'.file.declared = s.file.declared.map (shifted first count)
    rw [before, before']
    rfl
  · change (s'.components.get? (shifted first count id)).map Component.declaration =
      (s.components.get? id).map Component.declaration
    rw [begins'.agrees, inserted.components, begins.agrees]
  · change s'.file.document = s.file.document
    rw [before, before']
    rfl

end Inserted

theorem inserted_declareAll {w : Workspace} (numbered : w.Numbered) (before after : List Source)
    (added : Source) : ∃ first count, Inserted added.path first count
      (w.declareAll (before ++ after)).1 (w.declareAll (before ++ added :: after)).1 := by
  rw [declareAll_append, declareAll_append, declareAll_cons]
  exact ⟨_, _, (Inserted.start (numbered.declareAll before) added).declareAll after⟩

/-! ## Two runs -/

/-- Whether `c` clashes without the additional file, or with it as `c'`, in the scope of that file
or of one that links it. -/
def ClashesNear (w w' : Workspace) (added : Path) (c c' : ComponentId) : Prop :=
  ∃ path, ((path == added) = true ∨ w'.Links path added) ∧
    (w.Clashes path c ∨ w'.Clashes path c')

/-- Unless a component that is meant is flagged on one side only, the bindings agree. -/
theorem map_filter_of_flagged {rename : ComponentId → ComponentId}
    {flagged flagged' : ComponentId → Bool} {meant : Option ComponentId}
    (same : ∀ c ∈ meant, flagged' (rename c) = flagged c) :
    (meant.map rename).filter (fun c => !flagged' c) =
      (meant.filter fun c => !flagged c).map rename := by
  cases meant with
  | none => rfl
  | some c =>
      rw [Option.map_some, Option.filter_some, Option.filter_some, same c rfl]
      cases flagged c <;> rfl

/-- Annotations of one node without the additional file and with it. The node means the same
component of the scope in both, and it is bound to that unless the component is flagged. -/
structure BoundAlike (w w' : Workspace) (added : Path) (rename : ComponentId → ComponentId)
    (scope : Scope) (a a' : AnnotatedNode) : Prop where
  shape : a'.shape = a.shape
  bound : ∃ meant : Option ComponentId, (∀ c ∈ meant, ∃ tag, scope.find? tag = some c) ∧
    a.component? = meant.filter (fun c => !w.components.hasConflict c) ∧
    a'.component? = (meant.map rename).filter (fun c => !w'.components.hasConflict c) ∧
    (a'.component? = a.component?.map rename ∨
      ∃ c ∈ meant, ClashesNear w w' added c (rename c))

namespace Inserted
variable {added : Path} {first count : Nat} {keepBlanks : Bool} {declared declared' w w' : Workspace}
  (inserted : Inserted added first count declared declared')
  (settles : Settles keepBlanks declared w) (settles' : Settles keepBlanks declared' w')
include inserted settles settles'

/-- A component that is flagged in one of the runs only clashes near the additional file. -/
theorem clashesNear {c : ComponentId} (differs : w'.components.hasConflict (shifted first count c) ≠
    w.components.hasConflict c) : ClashesNear w w' added c (shifted first count c) := by
  by_contra nowhere
  have everywhere {path : Path} :
      w'.Clashes path (shifted first count c) ↔ w.Clashes path c := by
    by_cases near : (path == added) = true ∨ w'.Links path added
    · constructor
      · exact fun clashes => absurd ⟨path, near, .inr clashes⟩ nowhere
      · exact fun clashes => absurd ⟨path, near, .inl clashes⟩ nowhere
    · obtain ⟨different, apart⟩ := not_or.1 near
      rw [Bool.not_eq_true] at different
      have unlinked : ¬ declared.Links path added := fun links =>
        apart (settles'.sameDeclarations.links ((inserted.links_iff different).2 links))
      have as_declared := inserted.clashes_iff (c := c) different unlinked
      constructor
      · exact fun clashes => settles.sameDeclarations.clashes
          (as_declared.1 (settles'.sameDeclarations.symm.clashes clashes))
      · exact fun clashes => settles'.sameDeclarations.clashes
          (as_declared.2 (settles.sameDeclarations.symm.clashes clashes))
  refine differs (Bool.eq_iff_iff.2 ?_)
  rw [settles.hasConflict_iff, settles'.hasConflict_iff]
  exact exists_congr fun path => everywhere

theorem boundAlike {path : Path} {file : SourceFile} (found : w.files.find? path = some file)
    (different : (path == added) = false) (apart : ¬ w.Links path added) :
    ∃ file', w'.files.find? path = some file' ∧
      (∀ tag, file'.scope.find? tag = (file.scope.find? tag).map (shifted first count)) ∧
      file'.annotations.nodes.size = file.annotations.nodes.size ∧
      ∀ id a, file.annotations.get? id = some a → ∃ a', file'.annotations.get? id = some a' ∧
        BoundAlike w w' added (shifted first count) file.scope a a' := by
  have related := settles.files path
  rw [found] at related
  obtain ⟨before, foundBefore, linked, links, s, begins, rfl⟩ :=
    OrderedMap.exists_of_rel_some' related
  have unlinked : ∀ link ∈ before.componentLinks, (link == added) = false := by
    intro link member
    refine Bool.eq_false_iff.2 fun same => apart ?_
    exact settles.sameDeclarations.links ⟨before, foundBefore, link, member, same⟩
  have related' := settles'.files path
  rw [inserted.files path different, foundBefore, Option.map_some] at related'
  obtain ⟨_, found', linked', links', s', begins', rfl⟩ :=
    OrderedMap.exists_of_rel_some related'
  obtain ⟨renamed, document⟩ := inserted.renamed unlinked links links' begins begins'
  have alike := alike_annotateFile renamed document begins.fresh begins'.fresh begins.wellFormed
    keepBlanks
  have scope : (annotateFile keepBlanks s).file.scope = s.file.scope :=
    congrArg (fun b : Basis => b.file.scope) alike.basis
  have scope' : (annotateFile keepBlanks s').file.scope = s'.file.scope :=
    congrArg (fun b : Basis => b.file.scope) alike.basis'
  refine ⟨_, found', fun tag => ?_, alike.tree.size, fun id a present => ?_⟩
  · rw [scope, scope']
    exact renamed.scope tag
  · obtain ⟨a', present', same⟩ := alike.tree.exists_get? present
    obtain ⟨meant, seen, bound, bound'⟩ := same.meant
    have flagged : s.basis.flagged = w.components.hasConflict := begins.flagged
    have flagged' : s'.basis.flagged = w'.components.hasConflict := begins'.flagged
    rw [Basis.bound, flagged] at bound
    rw [Basis.bound, flagged'] at bound'
    refine ⟨a', present', same.shape, meant, fun c member => ?_, bound, bound', ?_⟩
    · rw [scope]
      exact seen c member
    · by_cases agree : ∀ c ∈ meant, w'.components.hasConflict (shifted first count c) =
          w.components.hasConflict c
      · rw [bound, bound']
        exact .inl (map_filter_of_flagged agree)
      · obtain ⟨c, differs⟩ := not_forall.1 agree
        obtain ⟨member, differs⟩ := Classical.not_imp.1 differs
        exact .inr ⟨c, member, inserted.clashesNear settles settles' differs⟩

end Inserted

section Runs
variable (settings : Settings) (scripts : OrderedMap Path CodeUnit) (before after : List Source)
  (added : Source)

/-- With one more file, a file that does not link it keeps its scope, and its nodes are bound as
before unless what they mean clashes near the additional file. Flags are clashes in some scope. -/
theorem boundAlike_run (new : ∀ source ∈ before ++ after, (source.path == added.path) = false)
    (wellFormed : ∀ source ∈ before ++ added :: after, source.document.WellFormed) :
    let w := (({ settings, scripts } : Workspace).run (before ++ after)).1
    let w' := (({ settings, scripts } : Workspace).run (before ++ added :: after)).1
    (∀ c, w.components.hasConflict c = true ↔ ∃ path, w.Clashes path c) ∧
    (∀ c, w'.components.hasConflict c = true ↔ ∃ path, w'.Clashes path c) ∧
    ∃ rename : ComponentId → ComponentId, Function.Injective rename ∧
      (∀ id, (w'.components.get? (rename id)).map Component.declaration =
        (w.components.get? id).map Component.declaration) ∧
      ∀ path file, w.files.find? path = some file → ¬ w.Links path added.path →
        ∃ file', w'.files.find? path = some file' ∧
          (∀ tag, file'.scope.find? tag = (file.scope.find? tag).map rename) ∧
          file'.annotations.nodes.size = file.annotations.nodes.size ∧
          ∀ id a, file.annotations.get? id = some a → ∃ a', file'.annotations.get? id = some a' ∧
            BoundAlike w w' added.path rename file.scope a a' := by
  have known : ∀ source ∈ before ++ after, source.document.WellFormed := by
    intro source member
    refine wellFormed source ?_
    rcases List.mem_append.1 member with first | last
    · exact List.mem_append_left _ first
    · exact List.mem_append_right _ (List.mem_cons_of_mem _ last)
  have settles := settles_run settings scripts known
  have settles' := settles_run settings scripts wellFormed
  have empty : ({ settings, scripts } : Workspace).Numbered := fun path file found => by cases found
  obtain ⟨first, count, inserted⟩ := inserted_declareAll empty before after added
  refine ⟨settles.hasConflict_iff, settles'.hasConflict_iff, shifted first count,
    shifted_injective first count, fun id => ?_, fun path file found apart => ?_⟩
  · rw [settles'.components, inserted.components, settles.components]
  · refine inserted.boundAlike settles settles' found (Bool.eq_false_iff.2 fun here => ?_) apart
    -- No file of the first run is at the path of the additional one.
    have absent : (({ settings, scripts } : Workspace).declareAll (before ++ after)).1.files.find?
        path = none := by
      refine find?_declareAll fun source member => ?_
      rw [BEq.congr_right here]
      exact new source member
    obtain ⟨file', found', -⟩ := settles.sameDeclarations.symm.exists_find? found
    rw [absent] at found'
    cases found'

end Runs

/-! ## A clash elsewhere -/

/-- `<element name="x-a"></element><x-a></x-a>` in a body. -/
def declaringUser : Source where
  path := ⟨"f.html"⟩
  document := { nodes := #[
    { data := .document, children := [1] },
    { data := .element "body" {}, parent := some 0, children := [2, 3] },
    { data := .element "element" ⟨[("name", "x-a")]⟩, parent := some 1 },
    { data := .element "x-a" {}, parent := some 1 }] }

/-- `<element name="x-a"></element>` in a body. -/
def declaring : Source where
  path := ⟨"h.html"⟩
  document := { nodes := #[
    { data := .document, children := [1] },
    { data := .element "body" {}, parent := some 0, children := [2] },
    { data := .element "element" ⟨[("name", "x-a")]⟩, parent := some 1 }] }

/-- A head that links both declarations of `x-a`. -/
def importingBoth : Source where
  path := ⟨"g.html"⟩
  document := { nodes := #[
    { data := .document, children := [1, 2] },
    { data := .element "head" {}, parent := some 0, children := [3, 4] },
    { data := .element "body" {}, parent := some 0 },
    { data := .element "link" ⟨[("rel", "components"), ("href", "f.html")]⟩, parent := some 1 },
    { data := .element "link" ⟨[("rel", "components"), ("href", "h.html")]⟩, parent := some 1 }] }

theorem bound_declaringUser :
    let w := (({} : Workspace).run [declaringUser, declaring]).1
    ¬ w.Links ⟨"f.html"⟩ ⟨"g.html"⟩ ∧ ∃ file a, w.files.find? ⟨"f.html"⟩ = some file ∧
      file.annotations.get? 2 = some a ∧ a.component? = some 0 := by
  let w := (({} : Workspace).run [declaringUser, declaring]).1
  have shown : ((w.files.find? ⟨"f.html"⟩).bind fun file => (file.annotations.get? 2).map fun a =>
      (file.componentLinks.isEmpty, a.component?)) = some (true, some 0) := by
    decide +kernel
  obtain ⟨file, found, annotated⟩ := Option.bind_eq_some_iff.1 shown
  obtain ⟨a, present, fields⟩ := Option.map_eq_some_iff.1 annotated
  obtain ⟨unlinked, bound⟩ := Prod.mk.inj fields
  refine ⟨?_, file, a, found, present, bound⟩
  rintro ⟨other, here, link, member, -⟩
  obtain rfl := Option.some.inj (found.symm.trans here)
  rw [List.isEmpty_iff.1 unlinked] at member
  cases member

theorem unbound_declaringUser :
    let w := (({} : Workspace).run [declaringUser, declaring, importingBoth]).1
    ∃ file a, w.files.find? ⟨"f.html"⟩ = some file ∧ file.annotations.get? 2 = some a ∧
      a.component? = none := by
  let w := (({} : Workspace).run [declaringUser, declaring, importingBoth]).1
  have shown : ((w.files.find? ⟨"f.html"⟩).bind fun file => (file.annotations.get? 2).map fun a =>
      a.component?) = some none := by
    decide +kernel
  obtain ⟨file, found, annotated⟩ := Option.bind_eq_some_iff.1 shown
  obtain ⟨a, present, unbound⟩ := Option.map_eq_some_iff.1 annotated
  exact ⟨file, a, found, present, unbound⟩

theorem boundAlike_run_importingBoth :
    let w := (({} : Workspace).run ([declaringUser, declaring] ++ [])).1
    let w' := (({} : Workspace).run ([declaringUser, declaring] ++ importingBoth :: [])).1
    (∀ source ∈ [declaringUser, declaring] ++ [], (source.path == importingBoth.path) = false) ∧
    (∀ source ∈ [declaringUser, declaring] ++ importingBoth :: [], source.document.WellFormed) ∧
    ∃ rename : ComponentId → ComponentId, ∃ file file' a a',
      w.files.find? ⟨"f.html"⟩ = some file ∧ ¬ w.Links ⟨"f.html"⟩ ⟨"g.html"⟩ ∧
      w'.files.find? ⟨"f.html"⟩ = some file' ∧ file.annotations.get? 2 = some a ∧
      file'.annotations.get? 2 = some a' ∧
      BoundAlike w w' ⟨"g.html"⟩ rename file.scope a a' := by
  have new : ∀ source ∈ [declaringUser, declaring] ++ [],
      (source.path == importingBoth.path) = false := by
    decide
  have user : declaringUser.document.Checked fun n => min n 2 := by decide
  have other : declaring.document.Checked fun n => n := by decide
  have both : importingBoth.document.Checked fun n => (n + 1) / 2 := by decide
  have wellFormed : ∀ source ∈ [declaringUser, declaring] ++ importingBoth :: [],
      source.document.WellFormed := by
    simp only [List.cons_append, List.nil_append, List.forall_mem_cons]
    exact ⟨.of_checked user, .of_checked other, .of_checked both, fun _ member => by cases member⟩
  obtain ⟨unlinked, file, a, found, present, -⟩ := bound_declaringUser
  obtain ⟨-, -, rename, -, -, alike⟩ :=
    boundAlike_run {} {} [declaringUser, declaring] [] importingBoth new wellFormed
  obtain ⟨file', found', -, -, nodes⟩ := alike ⟨"f.html"⟩ file found unlinked
  obtain ⟨a', present', bound⟩ := nodes 2 a present
  exact ⟨new, wellFormed, rename, file, file', a, a', found, unlinked, found', present, present',
    bound⟩

/-- The use of `x-a` in `f.html`, which declares it and links nothing, is bound until a file that
imports both declarations is added. -/
theorem not_bound_importingBoth :
    let w := (({} : Workspace).run [declaringUser, declaring]).1
    let w' := (({} : Workspace).run [declaringUser, declaring, importingBoth]).1
    ¬ w.Links ⟨"f.html"⟩ ⟨"g.html"⟩ ∧ ∃ file file' a a',
      w.files.find? ⟨"f.html"⟩ = some file ∧ w'.files.find? ⟨"f.html"⟩ = some file' ∧
      file.annotations.get? 2 = some a ∧ file'.annotations.get? 2 = some a' ∧
      a.component? = some 0 ∧ a'.component? = none := by
  obtain ⟨unlinked, file, a, found, present, bound⟩ := bound_declaringUser
  obtain ⟨file', a', found', present', unbound⟩ := unbound_declaringUser
  exact ⟨unlinked, file, file', a, a', found, found', present, present', bound, unbound⟩

end ComponentMarkup.Workspace
