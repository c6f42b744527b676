import ComponentMarkup.Proofs.Annotated.File
import ComponentMarkup.Proofs.Annotated.Written
import ComponentMarkup.Proofs.Document.Rework

/-!
The closed form of flags and identifiers: what the annotations of a file say is determined by their
bindings and by the finished tree, in whatever order the pass came by them.
-/

namespace ComponentMarkup

theorem elementIdentifier_ne_root (n : UInt64) : elementIdentifier n ≠ rootIdentifier := by
  intro same
  have read := congrArg identifierNumber? same
  rw [identifierNumber?_elementIdentifier, identifierNumber?_rootIdentifier] at read
  cases read

theorem textIdentifier_ne_root (n : UInt64) : textIdentifier n ≠ rootIdentifier := by
  intro same
  have read := congrArg identifierNumber? same
  rw [identifierNumber?_textIdentifier, identifierNumber?_rootIdentifier] at read
  cases read

namespace AnnotatedNode

/-- Whether the identifier is one of those generated for elements and structural nodes. -/
def IsGenerated (a : AnnotatedNode) : Prop := ∃ n, a.identifier = some (elementIdentifier n)

theorem Labelled.isGenerated_iff {a : AnnotatedNode} (labelled : a.Labelled)
    (element : a.isText = false) : a.IsGenerated ↔ a.isNumbered = true := by
  rw [Labelled] at labelled
  rw [IsGenerated, isNumbered, element]
  cases label : a.identifier with
  | none => simp
  | some identifier =>
      rw [label, element] at labelled
      cases root : a.isRoot with
      | true =>
          have isRoot : identifier = rootIdentifier := by simpa [root] using labelled
          simp [isRoot, (elementIdentifier_ne_root _).symm]
      | false =>
          obtain ⟨n, rfl⟩ : ∃ n, identifier = elementIdentifier n := by simpa [root] using labelled
          simp

end AnnotatedNode

/-- The flags and identifiers of an annotation of `file`, as they follow from the rest of it.
`before` is the document before the pass. -/
structure SourceFile.ClosedForm (before : Document) (file : SourceFile) (id : AnnotatedId)
    (a : AnnotatedNode) : Prop where
  buildsChildren : a.buildsChildren = true ↔
    a.isStructural = true ∨ ∃ child ∈ a.children, file.annotations.isPlaceholder child = true
  hasDataBinding : a.hasDataBinding = true ↔
    a.hasAttributes = true ∨ ∃ child ∈ a.children, file.annotations.isPlaceholder child = true
  hasQuery : a.hasQuery = true ↔ file.annotations.isBuilt id = true ∧
    ∃ n b, file.annotations.get? n = some b ∧ b.isText = false ∧ b.IsGenerated ∧
      file.annotations.nearestBuilt? n = some id
  isGenerated : a.isText = false → (a.IsGenerated ↔ a.isRoot = false ∧
    (a.hasDataBinding = true ∨ a.hasQuery = true ∨ a.isStructural = true ∨
      a.component?.isSome = true ∨ a.hasHandlers = true))
  written : a.isText = false → a.IsGenerated → file.annotations.isBuilt id = false →
    file.document.attribute? a.source "id" = a.identifier
  /-- An `id` below code comes from the input, with the element that it was split off. -/
  unwritten : a.isText = false → file.annotations.isBuilt id = true →
    ∀ v, file.document.attribute? a.source "id" = some v →
      before.attribute? a.source "id" = some v ∨
        ∃ host, before.size ≤ a.source ∧ file.document.parent? a.source = some host ∧
          before.attribute? host "id" = some v

variable {s : Pass}

theorem AnnotatedTree.closed_empty : ({} : AnnotatedTree).Closed where
  above _ _ impossible := nomatch impossible
  below _ _ impossible := nomatch impossible

theorem walkable_of_closed (closed : s.annotations.Closed) (wellFormed : s.document.WellFormed) :
    Pass.Walkable none s.document.bodyForest s where
  valid _ impossible := nomatch impossible
  fits := wellFormed.fits_bodyForest
  closed := closed

theorem walkable_bodyForest (fresh : s.annotations = {}) (wellFormed : s.document.WellFormed) :
    Pass.Walkable none s.document.bodyForest s :=
  walkable_of_closed (fresh ▸ AnnotatedTree.closed_empty) wellFormed

theorem ready_of_none {f : Forest} (s : Pass) : Pass.Ready none f s :=
  fun _ impossible => nomatch impossible

/-- Attributes are bound data, so that the other reasons are all there are for an identifier. -/
theorem AnnotatedNode.needsIdentifier_iff {a : AnnotatedNode}
    (bound : a.hasAttributes = true → a.hasDataBinding = true) :
    a.needsIdentifier = true ↔ a.isRoot = false ∧
      (a.hasDataBinding = true ∨ a.hasQuery = true ∨ a.isStructural = true ∨
        a.component?.isSome = true ∨ a.hasHandlers = true) := by
  rw [AnnotatedNode.needsIdentifier_eq]
  simp only [Bool.and_eq_true, Bool.not_eq_true', Bool.or_eq_true, or_assoc]
  refine and_congr_right fun _ => ⟨?_, ?_⟩
  · rintro (held | held | held | held | held | held)
    · exact .inl held
    · exact .inr (.inl held)
    · exact .inr (.inr (.inl held))
    · exact .inr (.inr (.inr (.inl held)))
    · exact .inl (bound held)
    · exact .inr (.inr (.inr (.inr held)))
  · rintro (held | held | held | held | held)
    · exact .inl held
    · exact .inr (.inl held)
    · exact .inr (.inr (.inl held))
    · exact .inr (.inr (.inr (.inl held)))
    · exact .inr (.inr (.inr (.inr (.inr held))))

/-- In a tree that a pass has made from nothing, a node is looked up when it is the nearest built
one above a node with a generated identifier. -/
theorem Pass.Settles.hasQuery_iff {f : Forest} {t : Pass} (settled : Pass.Settles none f s t)
    (fresh : s.annotations = {})
    (labelled : ∀ n b, t.annotations.get? n = some b → b.Labelled) (id : AnnotatedId) :
    t.annotations.hasQuery id = true ↔ t.annotations.isBuilt id = true ∧
      ∃ n b, t.annotations.get? n = some b ∧ b.isText = false ∧ b.IsGenerated ∧
        t.annotations.nearestBuilt? n = some id := by
  have unset : s.annotations.hasQuery id = false := by
    rw [fresh]
    rfl
  rw [settled.queries id, unset]
  constructor
  · rintro (impossible | ⟨n, -, numbered, nearest⟩)
    · cases impossible
    · obtain ⟨b, present⟩ := AnnotatedTree.get?_isSome (AnnotatedTree.lt_size_of_isNumbered numbered)
      rw [AnnotatedTree.isNumbered_eq present] at numbered
      have element : b.isText = false := by
        simp only [AnnotatedNode.isNumbered, Bool.and_eq_true, Bool.not_eq_true'] at numbered
        exact numbered.2
      have isBuilt : t.annotations.isBuilt id = true := by simpa using List.find?_some nearest
      refine ⟨isBuilt, n, b, present, element, ?_, nearest⟩
      exact ((labelled n b present).isGenerated_iff element).2 numbered
  · rintro ⟨-, n, b, present, element, generated, nearest⟩
    refine .inr ⟨n, ?_, ?_, nearest⟩
    · rw [fresh]
      exact Nat.zero_le n
    · rw [AnnotatedTree.isNumbered_eq present]
      exact ((labelled n b present).isGenerated_iff element).1 generated

theorem closedForm_annotateFile (keepBlanks : Bool) (fresh : s.annotations = {})
    (wellFormed : s.document.WellFormed) {id : AnnotatedId} {a : AnnotatedNode}
    (found : (annotateFile keepBlanks s).annotations.get? id = some a) :
    (annotateFile keepBlanks s).file.ClosedForm s.document id a := by
  have visits := visits_annotateFile keepBlanks s
  have walkable := walkable_bodyForest fresh wellFormed
  have settled := visits.settles walkable (ready_of_none s)
  have written := visits.writes walkable (ready_of_none s)
  have labelled (n : AnnotatedId) (b : AnnotatedNode)
      (found : (annotateFile keepBlanks s).annotations.get? n = some b) : b.Labelled :=
    (labelled_annotateFile keepBlanks fresh found).2
  have isNew : s.annotations.nodes.size ≤ id := by
    rw [fresh]
    exact Nat.zero_le id
  generalize annotateFile keepBlanks s = t at *
  obtain ⟨builds, binding, numbered, -⟩ := settled.flagged id a isNew found
  have generated_iff (element : a.isText = false) := (labelled id a found).isGenerated_iff element
  have holds : t.annotations.holdsPlaceholder id = true ↔
      ∃ child ∈ a.children, t.annotations.isPlaceholder child = true := by
    rw [AnnotatedTree.holdsPlaceholder, AnnotatedTree.children_eq found, List.any_eq_true]
  refine ⟨?_, ?_, ?_, fun element => ?_, fun element generated unbuilt => ?_,
    fun element built v held => ?_⟩
  · rw [builds, Bool.or_eq_true, holds]
    rfl
  · rw [binding, Bool.or_eq_true, holds]
    rfl
  · rw [← AnnotatedTree.hasQuery_eq found]
    exact settled.hasQuery_iff fresh labelled id
  · rw [generated_iff element, numbered element]
    apply AnnotatedNode.needsIdentifier_iff
    intro attributes
    rw [binding, attributes, Bool.true_or]
  · exact ((written id a isNew found element).unbuilt unbuilt).2 ((generated_iff element).1 generated)
  · rcases (written id a isNew found element).built built v held with own | ⟨host, -, inherited⟩
    · exact .inl own
    · exact .inr ⟨host, inherited⟩

end ComponentMarkup
