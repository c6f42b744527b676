import ComponentMarkup.Proofs.Annotated.Roots
import ComponentMarkup.Proofs.Workspace.Scopes
import ComponentMarkup.Proofs.Workspace.Settled

/-!
The roots of the files of a first run.
-/

namespace ComponentMarkup

theorem AnnotatedNode.Labelled.identifier_root_iff {a : AnnotatedNode} (labelled : a.Labelled) :
    a.identifier = some rootIdentifier ↔ a.isRoot = true := by
  rw [Labelled] at labelled
  cases label : a.identifier with
  | none =>
      rw [label] at labelled
      simp [labelled.1]
  | some identifier =>
      rw [label] at labelled
      dsimp only at labelled
      split at labelled
      · obtain ⟨unrooted, -, n, rfl⟩ := labelled
        simp [unrooted, textIdentifier_ne_root]
      · split at labelled
        · next root => simp [root, labelled]
        · next unrooted =>
          obtain ⟨n, rfl⟩ := labelled
          simp [unrooted, elementIdentifier_ne_root]

/-- The file declares a component with `element` whose template is `template`. -/
def SourceFile.DeclaresTemplate (t : ComponentTable) (file : SourceFile)
    (element template : NodeId) : Prop :=
  ∃ id ∈ file.declared, ∃ c, t.get? id = some c ∧ c.element = element ∧ c.template = some template

namespace Workspace

/-! ## The basis of a pass -/

section Begun
variable {t : ComponentTable} {flagged : ComponentId → Bool} {file linked : SourceFile} {s : Pass}
  {files : OrderedMap Path SourceFile} (begins : s.Begins t flagged linked)
  (links : file.Linked t files linked)
include begins links

theorem document_of_begins : s.document = file.document := by
  obtain ⟨scope, code, same⟩ := links.same
  rw [Pass.document, begins.file, same]

theorem declared_of_begins : s.basis.file.declared = file.declared := by
  obtain ⟨scope, code, same⟩ := links.same
  change s.file.declared = _
  rw [begins.file, same]

theorem declaredIn_of_begins {packageRoot : Path}
    (declares : ∀ id ∈ file.declared, ∃ c, t.get? id = some c ∧
      Declaration.Declares (file.reading packageRoot) c) : s.basis.DeclaredIn s.document := by
  intro id declared
  rw [declared_of_begins begins links] at declared
  obtain ⟨c, present, reads⟩ := declares id declared
  rw [document_of_begins begins links]
  refine ⟨c.declaration, ?_, reads.tag, reads.template⟩
  exact (begins.agrees id).trans (by rw [present, Option.map_some])

theorem template_iff_of_begins {components : ComponentTable} (agrees : t.Agrees components)
    {after : SourceFile} (same : after.declared = file.declared) {element template : NodeId} :
    s.basis.Template element template ↔ after.DeclaresTemplate components element template := by
  unfold Basis.Template SourceFile.DeclaresTemplate
  rw [declared_of_begins begins links, same]
  have table := begins.agrees.symm.trans agrees
  constructor
  · rintro ⟨id, declared, _, found, rfl, template⟩
    obtain ⟨c, present, rfl⟩ := Option.map_eq_some_iff.1 found
    obtain ⟨c', present', declaration⟩ := table.exists_get? present
    refine ⟨id, declared, c', present', Component.element_of_declaration declaration, ?_⟩
    exact (Component.template_of_declaration declaration).trans template
  · rintro ⟨id, declared, c, present, rfl, template⟩
    refine ⟨id, declared, c.declaration, ?_, rfl, template⟩
    exact (table id).symm.trans (by rw [present, Option.map_some])

end Begun

/-- After a first run the roots are the bodies and the templates of the declarations of the file, as
far as both are annotated as they are. They alone have the identifier of roots; a node with a
directive has a generated one, whatever it stands for. -/
theorem roots_run (settings : Settings) (scripts : OrderedMap Path CodeUnit)
    (sources : List Source) (wellFormed : ∀ source ∈ sources, source.document.WellFormed) :
    let w := (({ settings, scripts } : Workspace).run sources).1
    ∀ path file, w.files.find? path = some file →
      ∀ id a, file.annotations.get? id = some a →
        (a.isRoot = true ↔ a.isPlain = true ∧
          (file.document.tag? a.source = some "body" ∨
            ∃ n b, file.annotations.get? n = some b ∧ b.isPlain = true ∧
              file.DeclaresTemplate w.components b.source a.source)) ∧
        (a.identifier = some rootIdentifier ↔ a.isRoot = true) ∧
        (a.isStructural = true → a.isRoot = false ∧ a.IsGenerated) := by
  intro w path after found id a present
  have settles := settles_run settings scripts wellFormed
  obtain ⟨-, declares⟩ := unlinked_declareAll settings scripts sources
  generalize (({ settings, scripts } : Workspace).declareAll sources).1 = declared at *
  have related := settles.files path
  rw [found] at related
  obtain ⟨file, before, linked, links, annotated⟩ := OrderedMap.exists_of_rel_some' related
  have same := annotated.sameDeclarations links
  obtain ⟨s, begins, rfl⟩ := annotated
  obtain ⟨entry, first, rfl⟩ := Option.map_eq_some_iff.1 before
  have reads := declares entry (List.mem_of_find?_eq_some first)
  have roots := isRoot_annotateFile settings.keepBlanks begins.fresh begins.wellFormed
    (declaredIn_of_begins begins links reads) present
  have labelled := (labelled_annotateFile settings.keepBlanks begins.fresh present).2
  have closed := closedForm_annotateFile settings.keepBlanks begins.fresh begins.wellFormed present
  refine ⟨?_, labelled.identifier_root_iff, fun structural => ?_⟩
  · rw [roots]
    simp only [template_iff_of_begins begins links settles.components same.declared]
    rfl
  · obtain ⟨unplain, element⟩ := AnnotatedNode.unplain_of_isStructural structural
    have unrooted : a.isRoot = false := by
      rw [← Bool.not_eq_true, roots, unplain]
      simp
    exact ⟨unrooted, (closed.isGenerated element).2 ⟨unrooted, .inr (.inr (.inl structural))⟩⟩

/-- `<body template iterate="x in xs"><p>hi</p></body>`. -/
def repeatedBody : Document where
  nodes := #[
    { data := .document, children := [1] },
    { data := .element "body" ⟨[("template", ""), ("iterate", "x in xs")]⟩, parent := some 0,
      children := [2] },
    { data := .element "p" {}, parent := some 1, children := [3] },
    { data := .text "hi", parent := some 2 }]

theorem roots_run_repeatedBody :
    let w := (({} : Workspace).run [{ path := ⟨"a.html"⟩, document := repeatedBody }]).1
    repeatedBody.WellFormed ∧
      ∀ path file, w.files.find? path = some file →
        ∀ id a, file.annotations.get? id = some a →
          (a.isRoot = true ↔ a.isPlain = true ∧
            (file.document.tag? a.source = some "body" ∨
              ∃ n b, file.annotations.get? n = some b ∧ b.isPlain = true ∧
                file.DeclaresTemplate w.components b.source a.source)) ∧
          (a.identifier = some rootIdentifier ↔ a.isRoot = true) ∧
          (a.isStructural = true → a.isRoot = false ∧ a.IsGenerated) := by
  have checked : repeatedBody.Checked fun n => n := by decide
  have wellFormed := Document.WellFormed.of_checked checked
  refine ⟨wellFormed, roots_run {} {} _ fun source member => ?_⟩
  obtain rfl := List.mem_singleton.1 member
  exact wellFormed

/-- The body of `repeatedBody` is no root, and it has a generated identifier. -/
theorem not_root_repeatedBody :
    repeatedBody.WellFormed ∧ repeatedBody.findElement? "body" = some 1 ∧
      ∃ file a, (({} : Workspace).run
        [{ path := ⟨"a.html"⟩, document := repeatedBody }]).1.files.find? ⟨"a.html"⟩ = some file ∧
      file.annotations.get? 0 = some a ∧ a.source = 1 ∧ a.isRoot = false ∧
      a.identifier ≠ some rootIdentifier ∧ a.IsGenerated := by
  have checked : repeatedBody.Checked fun n => n := by decide
  have body : repeatedBody.findElement? "body" = some 1 := by decide
  let found? := (({} : Workspace).run
    [{ path := ⟨"a.html"⟩, document := repeatedBody }]).1.files.find? ⟨"a.html"⟩
  have annotated : (found?.bind fun file => (file.annotations.get? 0).map fun a =>
      (a.source, a.isRoot, a.identifier)) = some (1, false, some (elementIdentifier 0)) := by
    decide +kernel
  obtain ⟨file, found, annotated⟩ := Option.bind_eq_some_iff.1 annotated
  obtain ⟨a, present, fields⟩ := Option.map_eq_some_iff.1 annotated
  obtain ⟨source, unrooted, identifier⟩ : a.source = 1 ∧ a.isRoot = false ∧
      a.identifier = some (elementIdentifier 0) := by simpa using fields
  refine ⟨.of_checked checked, body, file, a, found, present, source, unrooted, ?_, 0, identifier⟩
  rw [identifier]
  intro same
  exact elementIdentifier_ne_root 0 (Option.some.inj same)

end Workspace
end ComponentMarkup
