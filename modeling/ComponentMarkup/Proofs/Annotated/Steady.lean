import ComponentMarkup.Proofs.Annotated.Entry
import ComponentMarkup.Proofs.Annotated.Identify
import ComponentMarkup.Proofs.Component
import ComponentMarkup.Proofs.Document.Skeleton

/-!
Steps of a pass that change neither the shape of the tree of annotations nor the components its
nodes are bound to: reading attributes, giving out identifiers, and reporting.
-/

namespace ComponentMarkup

/-- A kind without its bindings. -/
def AnnotatedKind.bare : AnnotatedKind → AnnotatedKind
  | .element _ => .element {}
  | .structural directive _ content => .structural directive {} content
  | .text binding => .text binding

namespace AnnotatedNode

/-- The place of an annotation in the tree and what it stands for, without what the bindings of its
attributes and the need for an identifier add to it. -/
def shape (a : AnnotatedNode) : AnnotatedNode :=
  { a with
    identifier := none
    hasDataBinding := false
    hasQuery := false
    stripped := []
    kind := a.kind.bare }

/-- The shape of an annotation and the component that it is bound to. -/
def sketch (a : AnnotatedNode) : AnnotatedNode × Option ComponentId := (a.shape, a.component?)

variable {a a' : AnnotatedNode}

theorem sketch_of_outline (same : a'.outline = a.outline) : a'.sketch = a.sketch := by
  have blind (b : AnnotatedNode) : b.outline.sketch = { b with kind := b.kind }.sketch := by
    cases b using AnnotatedNode.byKind <;> rfl
  exact (blind a').symm.trans ((congrArg sketch same).trans (blind a))

section Shape
variable (same : a'.shape = a.shape)
include same

theorem source_of_shape : a'.source = a.source := by
  change a'.shape.source = a.shape.source
  rw [same]

theorem isText_of_shape : a'.isText = a.isText := by
  have blind (b : AnnotatedNode) : b.shape.isText = b.isText := by
    cases b using AnnotatedNode.byKind <;> rfl
  rw [← blind a', same, blind]

end Shape
end AnnotatedNode

/-- What a pass over a file goes by, besides the document. -/
structure Basis where
  /-- The file without what the pass works on. -/
  file : SourceFile
  declaration : ComponentId → Option Component
  flagged : ComponentId → Bool

namespace Basis
variable (b : Basis)

/-- The component that the file declares with a node. -/
def declaredBy (node : NodeId) : Option ComponentId :=
  b.file.declared.find? fun id => (b.declaration id).any (·.element == node)

def isTemplateOf (owner : Option ComponentId) (node : NodeId) : Bool :=
  (owner.bind b.declaration).any (·.template == some node)

/-- The component whose declaration is the nearest one around the nodes below a node. -/
def innerOwner (node : NodeId) (tag : String) (owner : Option ComponentId) : Option ComponentId :=
  if tag = "element" then b.declaredBy node <|> owner else owner

end Basis

namespace Pass

def basis (s : Pass) : Basis where
  file := { s.file with document := .empty, used := [], annotations := {} }
  declaration id := (s.components.get? id).map Component.declaration
  flagged := s.components.hasConflict

variable {s t u : Pass} {id : AnnotatedId} {node : NodeId} {kept kept' : List NodeId}

theorem path_of_basis (same : t.basis = s.basis) : t.file.path = s.file.path :=
  congrArg (fun basis => basis.file.path) same

theorem declaredBy_basis (s : Pass) (node : NodeId) : s.declaredBy node = s.basis.declaredBy node := by
  unfold declaredBy Basis.declaredBy
  apply congrArg (s.file.declared.find? ·)
  funext id
  change _ = ((s.components.get? id).map Component.declaration).any _
  cases s.components.get? id <;> rfl

theorem isTemplateOf_basis (s : Pass) (owner : Option ComponentId) (node : NodeId) :
    s.isTemplateOf owner node = s.basis.isTemplateOf owner node := by
  cases owner with
  | none => rfl
  | some id =>
      change _ = ((s.components.get? id).map Component.declaration).any _
      rw [isTemplateOf, Option.bind_some]
      cases s.components.get? id <;> rfl

theorem innerOwner_basis (s : Pass) (node : NodeId) (tag : String) (owner : Option ComponentId) :
    s.innerOwner node tag owner = s.basis.innerOwner node tag owner := by
  rw [innerOwner, Basis.innerOwner, declaredBy_basis]

theorem basis_mapDocument (s : Pass) (f : Document → Document) :
    (s.mapDocument f).basis = s.basis := rfl

theorem basis_use (s : Pass) (owner : Option ComponentId) (component : ComponentId) :
    (s.use owner component).basis = s.basis := by
  cases owner with
  | none => rfl
  | some owner =>
      have declaration : (s.use (some owner) component).basis.declaration = s.basis.declaration :=
        funext fun n => s.components.map_get?_update owner n _ _ fun _ => rfl
      have flagged : (s.use (some owner) component).basis.flagged = s.basis.flagged :=
        funext fun n => s.components.hasConflict_update owner n _ fun _ => rfl
      simp only [basis] at declaration flagged ⊢
      rw [declaration, flagged]
      rfl

/-! ## Steady steps -/

/-- From `s` to `t` nothing has changed but bindings, identifiers, reports, and attributes of nodes
that are not `kept`. -/
structure Steady (kept : List NodeId) (s t : Pass) : Prop where
  basis : t.basis = s.basis
  skeleton : t.document.skeleton = s.document.skeleton
  data : ∀ n ∈ kept, t.document.data? n = s.document.data? n
  root : t.annotations.root = s.annotations.root
  size : t.annotations.nodes.size = s.annotations.nodes.size
  sketch : ∀ n, (t.annotations.get? n).map AnnotatedNode.sketch =
    (s.annotations.get? n).map AnnotatedNode.sketch

namespace Steady

theorem refl (kept : List NodeId) (s : Pass) : Steady kept s s :=
  ⟨rfl, rfl, fun _ _ => rfl, rfl, rfl, fun _ => rfl⟩

theorem trans (first : Steady kept s t) (second : Steady kept t u) : Steady kept s u where
  basis := second.basis.trans first.basis
  skeleton := second.skeleton.trans first.skeleton
  data n member := (second.data n member).trans (first.data n member)
  root := second.root.trans first.root
  size := second.size.trans first.size
  sketch n := (second.sketch n).trans (first.sketch n)

theorem symm (steady : Steady kept s t) : Steady kept t s where
  basis := steady.basis.symm
  skeleton := steady.skeleton.symm
  data n member := (steady.data n member).symm
  root := steady.root.symm
  size := steady.size.symm
  sketch n := (steady.sketch n).symm

theorem reports (kept : List NodeId) (s : Pass) (reports : Diagnostics) :
    Steady kept s { s with reports } :=
  ⟨rfl, rfl, fun _ _ => rfl, rfl, rfl, fun _ => rfl⟩

theorem use (kept : List NodeId) (s : Pass) (owner : Option ComponentId)
    (component : ComponentId) : Steady kept s (s.use owner component) where
  basis := s.basis_use owner component
  skeleton := by rw [document_use]
  data n _ := by rw [document_use]
  root := by rw [annotations_use]
  size := by rw [annotations_use]
  sketch n := by rw [annotations_use]

theorem update {f : AnnotatedNode → AnnotatedNode} (kept : List NodeId) (s : Pass)
    (id : AnnotatedId) (same : ∀ a, (f a).sketch = a.sketch) : Steady kept s (s.update id f) where
  basis := rfl
  skeleton := rfl
  data _ _ := rfl
  root := rfl
  size := s.annotations.size_update id f
  sketch n := by
    rw [annotations_update, AnnotatedTree.get?_update]
    split
    · rw [Option.map_map]
      exact Option.map_congr fun a _ => same a
    · rfl

theorem mapAttributes (s : Pass) (other : node ∉ kept) (f : Attributes → Attributes) :
    Steady kept s (s.mapDocument (·.mapAttributes node f)) where
  basis := rfl
  skeleton := s.document.skeleton_mapAttributes node f
  data n member := by
    refine Document.data?_congr (s.document.node?_mapAttributes_of_ne f ?_)
    exact fun same => other (same ▸ member)
  root := rfl
  size := rfl
  sketch _ := rfl

theorem exists_get? (steady : Steady kept s t) {a : AnnotatedNode}
    (found : t.annotations.get? id = some a) :
    ∃ b, s.annotations.get? id = some b ∧ a.shape = b.shape ∧ a.component? = b.component? := by
  have same := steady.sketch id
  rw [found, Option.map_some] at same
  obtain ⟨b, before, sketched⟩ := Option.map_eq_some_iff.1 same.symm
  obtain ⟨shape, component⟩ := Prod.mk.inj sketched
  exact ⟨b, before, shape.symm, component.symm⟩

end Steady

theorem Edits.steady (edits : Edits id node s t) (other : node ∉ kept) : Steady kept s t := by
  obtain ⟨g, f, reports, revision, -, rfl⟩ := edits.exists_update
  have revised := Steady.update (f := g) kept s id fun a =>
    AnnotatedNode.sketch_of_outline (revision.outline a)
  exact revised.trans ((Steady.mapAttributes (s.update id g) other f).trans (.reports _ _ reports))

/-- Marking and numbering are steady when the sources of annotations are not kept. -/
theorem steady_identify (s : Pass) (id : AnnotatedId)
    (apart : ∀ n a, s.annotations.get? n = some a → a.source ∉ kept) :
    Steady kept s (s.identify id) := by
  have marked : Steady kept s (s.markQuery id) := by
    rw [markQuery_eq]
    split
    · exact .update kept s _ fun _ => rfl
    · exact .refl kept s
  unfold identify
  split
  · exact .refl kept s
  · next a found =>
    split
    · exact .refl kept s
    · refine marked.trans ?_
      generalize s.markQuery id = marked
      have drawn : Steady kept marked marked.draw.2 :=
        ⟨rfl, rfl, fun _ _ => rfl, rfl, rfl, fun _ => rfl⟩
      refine drawn.trans ?_
      unfold number
      rw [draw]
      dsimp only
      split
      · exact .update kept _ id fun _ => rfl
      · refine (Steady.mapAttributes _ (apart id a found)
          (·.insert "id" (elementIdentifier marked.counter))).trans ?_
        exact .update kept _ id fun _ => rfl

end Pass
end ComponentMarkup
