import ComponentMarkup.Annotated.Walk
import ComponentMarkup.Proofs.Annotated.Node
import ComponentMarkup.Proofs.Document.Changes

/-!
What the single changes of a pass leave in its tree of annotations, its document and its counter.
-/

namespace ComponentMarkup

namespace AnnotatedTree
variable (t : AnnotatedTree)

theorem get?_update (id other : AnnotatedId) (f : AnnotatedNode → AnnotatedNode) :
    (t.update id f).get? other = if id = other then (t.get? other).map f else t.get? other := by
  simp only [get?, update, Array.getElem?_modify]

@[simp] theorem size_update (id : AnnotatedId) (f : AnnotatedNode → AnnotatedNode) :
    (t.update id f).nodes.size = t.nodes.size := by
  simp only [update, Array.size_modify]

@[simp] theorem root_update (id : AnnotatedId) (f : AnnotatedNode → AnnotatedNode) :
    (t.update id f).root = t.root := rfl

theorem get?_update_self {id : AnnotatedId} {a : AnnotatedNode} (f : AnnotatedNode → AnnotatedNode)
    (found : t.get? id = some a) : (t.update id f).get? id = some (f a) := by
  rw [get?_update, if_pos rfl, found, Option.map_some]

theorem get?_update_of_ne {id other : AnnotatedId} (f : AnnotatedNode → AnnotatedNode)
    (different : other ≠ id) : (t.update id f).get? other = t.get? other := by
  rw [get?_update, if_neg (Ne.symm different)]

theorem lt_size_of_get? {t : AnnotatedTree} {id : AnnotatedId} {a : AnnotatedNode}
    (found : t.get? id = some a) : id < t.nodes.size :=
  (Array.getElem?_eq_some_iff.1 found).1

theorem get?_isSome {t : AnnotatedTree} {id : AnnotatedId} (inside : id < t.nodes.size) :
    ∃ a, t.get? id = some a :=
  ⟨_, Array.getElem?_eq_getElem inside⟩

@[simp] theorem fst_add (source : NodeId) (parent : Option AnnotatedId) (kind : AnnotatedKind) :
    (t.add source parent kind).1 = t.nodes.size := by
  cases parent <;> rfl

@[simp] theorem size_add (source : NodeId) (parent : Option AnnotatedId) (kind : AnnotatedKind) :
    (t.add source parent kind).2.nodes.size = t.nodes.size + 1 := by
  cases parent <;> simp [add]

@[simp] theorem root_add (source : NodeId) (parent : Option AnnotatedId) (kind : AnnotatedKind) :
    (t.add source parent kind).2.root =
      t.root.or (if parent = none then some t.nodes.size else none) := by
  cases parent <;> simp [add, update]

theorem get?_add_self (source : NodeId) (parent : Option AnnotatedId) (kind : AnnotatedKind)
    (valid : ∀ q ∈ parent, q < t.nodes.size) :
    (t.add source parent kind).2.get? t.nodes.size = some { source, parent, kind } := by
  cases parent with
  | none => simp [add, get?]
  | some q =>
      have different : q ≠ t.nodes.size := Nat.ne_of_lt (valid q rfl)
      simp only [add, get?, update, Array.getElem?_modify, different, if_false,
        Array.getElem?_push_size]

theorem get?_add_of_lt (source : NodeId) (parent : Option AnnotatedId) (kind : AnnotatedKind)
    {id : AnnotatedId} {a : AnnotatedNode} (found : t.get? id = some a) :
    (t.add source parent kind).2.get? id =
      some (if parent = some id then { a with children := a.children ++ [t.nodes.size] } else a) := by
  have old : id ≠ t.nodes.size := Nat.ne_of_lt (lt_size_of_get? found)
  simp only [get?] at found
  cases parent with
  | none => simp [add, get?, Array.getElem?_push, old, found]
  | some q =>
      simp only [add, get?, update, Array.getElem?_modify, Array.getElem?_push, old, if_false, found,
        Option.some.injEq]
      split <;> rfl

theorem map_add {α : Type} (g : AnnotatedNode → α)
    (blind : ∀ (a : AnnotatedNode) children, g { a with children } = g a) (source : NodeId)
    (parent : Option AnnotatedId) (kind : AnnotatedKind) (id : AnnotatedId) :
    ((t.add source parent kind).2.get? id).map g =
      if id = t.nodes.size then some (g { source, parent, kind }) else (t.get? id).map g := by
  have pushed : ((t.nodes.push { source, parent, kind })[id]?).map g =
      if id = t.nodes.size then some (g { source, parent, kind }) else (t.get? id).map g := by
    rw [Array.getElem?_push]
    split <;> rfl
  rw [← pushed]
  cases parent with
  | none => rfl
  | some parent =>
      simp only [add, get?, update, Array.getElem?_modify]
      split
      · rw [Option.map_map]
        exact Option.map_congr fun a _ => blind a _
      · rfl

/-! ## Questions about a tree -/

def isPlaceholder (id : AnnotatedId) : Bool := (t.get? id).any AnnotatedNode.isPlaceholder

/-- Whether nodes below have to be looked up by query. -/
def hasQuery (id : AnnotatedId) : Bool := (t.get? id).any AnnotatedNode.hasQuery

/-- Whether an element or a structural node has a generated identifier. -/
def isNumbered (id : AnnotatedId) : Bool := (t.get? id).any AnnotatedNode.isNumbered

/-- The node that an element or a structural node stands for. -/
def element? (id : AnnotatedId) : Option NodeId :=
  (t.get? id).bind fun a => if a.isText then none else some a.source

theorem children_eq_map (id : AnnotatedId) :
    t.children id = ((t.get? id).map AnnotatedNode.children).getD [] := by
  rw [children]
  cases t.get? id <;> rfl

theorem buildsChildren_eq_map (id : AnnotatedId) :
    t.buildsChildren id = ((t.get? id).map AnnotatedNode.buildsChildren).getD false := by
  rw [buildsChildren]
  cases t.get? id <;> rfl

section Questions
variable {t u : AnnotatedTree} {id : AnnotatedId} {a : AnnotatedNode} (found : t.get? id = some a)
include found

theorem children_eq : t.children id = a.children := by
  rw [children, found]

theorem parent?_eq : t.parent? id = a.parent := by
  rw [parent?, found, Option.bind_some]

theorem buildsChildren_eq : t.buildsChildren id = a.buildsChildren := by
  rw [buildsChildren, found]

theorem isPlaceholder_eq : t.isPlaceholder id = a.isPlaceholder := by
  rw [isPlaceholder, found, Option.any_some]

theorem hasQuery_eq : t.hasQuery id = a.hasQuery := by
  rw [hasQuery, found, Option.any_some]

theorem isNumbered_eq : t.isNumbered id = a.isNumbered := by
  rw [isNumbered, found, Option.any_some]

theorem element?_eq (element : a.isText = false) : t.element? id = some a.source := by
  rw [element?, found, Option.bind_some, if_neg (element ▸ Bool.false_ne_true)]

theorem element?_of_core {a' : AnnotatedNode} (found' : u.get? id = some a')
    (same : a'.core = a.core) : u.element? id = t.element? id := by
  rw [element?, element?, found, found', Option.bind_some, Option.bind_some,
    AnnotatedNode.isText_of_core same, AnnotatedNode.source_of_core same]

end Questions

theorem lt_size_of_element? {t : AnnotatedTree} {id : AnnotatedId} {node : NodeId}
    (found : t.element? id = some node) : id < t.nodes.size := by
  obtain ⟨a, holds, -⟩ := Option.bind_eq_some_iff.1 found
  exact lt_size_of_get? holds

theorem lt_size_of_isNumbered {t : AnnotatedTree} {id : AnnotatedId}
    (numbered : t.isNumbered id = true) : id < t.nodes.size := by
  cases found : t.get? id with
  | none =>
      rw [isNumbered, found] at numbered
      cases numbered
  | some a => exact lt_size_of_get? found

theorem hasQuery_update {id : AnnotatedId} (f : AnnotatedNode → AnnotatedNode)
    (same : ∀ a, (f a).hasQuery = a.hasQuery) (n : AnnotatedId) :
    (t.update id f).hasQuery n = t.hasQuery n := by
  simp only [hasQuery, get?_update]
  split
  · cases t.get? n with
    | none => rfl
    | some a => exact same a
  · rfl

end AnnotatedTree

namespace Pass
variable (s : Pass) (id : AnnotatedId) (node : NodeId)

/-! ## The tree of annotations -/

@[simp] theorem annotations_mapDocument (f : Document → Document) :
    (s.mapDocument f).annotations = s.annotations := rfl

@[simp] theorem annotations_report (problem : Problem) :
    (s.report problem node).annotations = s.annotations := rfl

@[simp] theorem annotations_update (f : AnnotatedNode → AnnotatedNode) :
    (s.update id f).annotations = s.annotations.update id f := rfl

@[simp] theorem annotations_draw : s.draw.2.annotations = s.annotations := rfl

@[simp] theorem annotations_addText (contents : String) (position : Position) :
    (s.addText contents position).2.annotations = s.annotations := rfl

@[simp] theorem annotations_use (owner : Option ComponentId) (component : ComponentId) :
    (s.use owner component).annotations = s.annotations := by
  cases owner <;> rfl

@[simp] theorem fst_annotate (parent : Option AnnotatedId) (kind : AnnotatedKind) :
    (s.annotate node parent kind).1 = s.annotations.nodes.size :=
  s.annotations.fst_add node parent kind

@[simp] theorem annotations_annotate (parent : Option AnnotatedId) (kind : AnnotatedKind) :
    (s.annotate node parent kind).2.annotations = (s.annotations.add node parent kind).2 := rfl

/-! ## The document -/

@[simp] theorem document_mapDocument (f : Document → Document) :
    (s.mapDocument f).document = f s.document := rfl

@[simp] theorem document_report (problem : Problem) :
    (s.report problem node).document = s.document := rfl

@[simp] theorem document_update (f : AnnotatedNode → AnnotatedNode) :
    (s.update id f).document = s.document := rfl

@[simp] theorem document_draw : s.draw.2.document = s.document := rfl

@[simp] theorem document_addText (contents : String) (position : Position) :
    (s.addText contents position).2.document = (s.document.createText contents position).2 := rfl

@[simp] theorem document_use (owner : Option ComponentId) (component : ComponentId) :
    (s.use owner component).document = s.document := by
  cases owner <;> rfl

@[simp] theorem document_annotate (parent : Option AnnotatedId) (kind : AnnotatedKind) :
    (s.annotate node parent kind).2.document = s.document := rfl

/-! ## The counter -/

@[simp] theorem counter_mapDocument (f : Document → Document) :
    (s.mapDocument f).counter = s.counter := rfl

@[simp] theorem counter_report (problem : Problem) :
    (s.report problem node).counter = s.counter := rfl

@[simp] theorem counter_update (f : AnnotatedNode → AnnotatedNode) :
    (s.update id f).counter = s.counter := rfl

@[simp] theorem counter_draw : s.draw.2.counter = s.counter + 1 := rfl

@[simp] theorem counter_addText (contents : String) (position : Position) :
    (s.addText contents position).2.counter = s.counter := rfl

@[simp] theorem counter_use (owner : Option ComponentId) (component : ComponentId) :
    (s.use owner component).counter = s.counter := by
  cases owner <;> rfl

@[simp] theorem counter_annotate (parent : Option AnnotatedId) (kind : AnnotatedKind) :
    (s.annotate node parent kind).2.counter = s.counter := rfl

/-! ## Reading attributes -/

/-- What reading the attributes of `node` for the annotation `id` is made of. -/
inductive Edits (id : AnnotatedId) (node : NodeId) (s : Pass) : Pass → Prop where
  | refl : Edits id node s s
  | report {t : Pass} (edits : Edits id node s t) (problem : Problem) :
      Edits id node s (t.report problem node)
  | strip {t : Pass} (edits : Edits id node s t) (name : String) : Edits id node s (t.strip id name)
  | bind {t : Pass} (edits : Edits id node s t) (name : String) (binding : Binding.Attribute) :
      Edits id node s (t.bind id name binding)
  | handle {t : Pass} (edits : Edits id node s t) (event : String) (action : Binding.Action) :
      Edits id node s (t.handle id event action)
  | setClass {t : Pass} (edits : Edits id node s t) (value : String) :
      Edits id node s (t.mapDocument (·.setAttribute node "class" value))
  | dropClass {t : Pass} (edits : Edits id node s t) :
      Edits id node s (t.mapDocument (·.removeAttribute node "class"))

namespace Edits
variable {s t : Pass} {id : AnnotatedId} {node : NodeId}

theorem shadow (edits : Edits id node s t) (property : String) :
    Edits id node s (t.shadow id node property) := by
  unfold Pass.shadow
  dsimp only
  split
  · exact (edits.report _).strip _
  · exact edits

theorem install (edits : Edits id node s t) (property expr event : String)
    (action : Binding.Action) :
    Edits id node s (t.install id node property expr event action) :=
  ((edits.shadow property).bind _ _).handle _ _

theorem bindTwoWay (edits : Edits id node s t) (name property value : String) :
    Edits id node s (t.bindTwoWay id node name property value) := by
  unfold Pass.bindTwoWay
  dsimp only
  split
  · exact (edits.install _ _ _ _).strip _
  · split
    · exact edits.report _
    · exact (edits.install _ _ _ _).strip _
  · split
    · exact edits.report _
    · split
      · exact edits.report _
      · exact (edits.install _ _ _ _).strip _
  · exact (edits.bind _ _).strip _
  · exact edits.report _

theorem bindEvent (edits : Edits id node s t) (name value : String) :
    Edits id node s (t.bindEvent id node name value) := by
  unfold Pass.bindEvent
  split
  · exact (edits.handle _ _).strip _
  · exact edits.report _

theorem bindStyle (edits : Edits id node s t) (value : String) :
    Edits id node s (t.bindStyle id value) := by
  unfold Pass.bindStyle
  dsimp only
  split
  · exact edits
  · exact (edits.bind _ _).strip _

theorem bindClass (edits : Edits id node s t) (value : String) :
    Edits id node s (t.bindClass id node value) := by
  unfold Pass.bindClass
  dsimp only
  split
  · exact edits
  · split
    · exact edits.dropClass.bind _ _
    · exact (edits.setClass _).bind _ _

theorem bindGeneric (edits : Edits id node s t) (name value : String) :
    Edits id node s (t.bindGeneric id name value) := by
  unfold Pass.bindGeneric
  dsimp only
  split
  · split
    · exact edits.bind _ _
    · exact edits
  · exact (edits.bind _ _).strip _

theorem bindAttribute (edits : Edits id node s t) (name value : String) :
    Edits id node s (Pass.bindAttribute id node t name value) := by
  unfold Pass.bindAttribute
  split
  · exact edits
  · split
    · exact edits.bindEvent _ _
    · split
      · exact edits.bindTwoWay _ _ _
      · split
        · exact edits.bindStyle _
        · split
          · exact edits.bindClass _
          · exact edits.bindGeneric _ _

theorem bindAttributes (edits : Edits id node s t) :
    Edits id node s (t.bindAttributes id node) := by
  unfold Pass.bindAttributes
  split
  · exact edits
  · next attributes found =>
      clear found
      generalize attributes.entries = entries
      induction entries generalizing t with
      | nil => exact edits
      | cons entry rest ih => exact ih (edits.bindAttribute entry.1 entry.2)

theorem readIndentation (edits : Edits id node s t) (inherited : Bool) :
    Edits id node s (t.readIndentation id node inherited).1 := by
  unfold Pass.readIndentation
  split
  · exact edits
  · dsimp only
    split
    · exact edits.strip _
    · split
      · exact edits.strip _
      · exact (edits.strip _).report _

theorem stripPresent (edits : Edits id node s t) (names : List String) :
    Edits id node s (t.stripPresent id node names) := by
  unfold Pass.stripPresent
  induction names generalizing t with
  | nil => exact edits
  | cons name names ih =>
      rw [List.foldl_cons]
      apply ih
      split
      · exact edits.strip _
      · exact edits

/-- Reading attributes rewrites one annotation and the `class` of one node, and reports. -/
theorem exists_update (edits : Edits id node s t) :
    ∃ g f reports, AnnotatedNode.Revision g ∧ Document.KeepsOthers "class" f ∧
      t = { s with
        file := { s.file with
          document := s.document.mapAttributes node f
          annotations := s.annotations.update id g }
        reports } := by
  induction edits with
  | refl =>
      refine ⟨_, fun attributes => attributes, s.reports, .id, fun _ _ _ => rfl, ?_⟩
      rw [Document.mapAttributes_id, AnnotatedTree.update, modify_id]
      rfl
  | report _ problem ih =>
      obtain ⟨g, f, reports, revision, others, rfl⟩ := ih
      exact ⟨g, f, _, revision, others, rfl⟩
  | strip _ name ih =>
      obtain ⟨g, f, reports, revision, others, rfl⟩ := ih
      refine ⟨_, f, reports, (AnnotatedNode.Revision.strip name).comp revision, others, ?_⟩
      simp only [Pass.strip, Pass.update, AnnotatedTree.update, modify_modify]
  | bind _ name binding ih =>
      obtain ⟨g, f, reports, revision, others, rfl⟩ := ih
      refine ⟨_, f, reports, (AnnotatedNode.Revision.bind name binding).comp revision, others, ?_⟩
      simp only [Pass.bind, Pass.update, AnnotatedTree.update, modify_modify]
  | handle _ event action ih =>
      obtain ⟨g, f, reports, revision, others, rfl⟩ := ih
      refine ⟨_, f, reports, (AnnotatedNode.Revision.handle event action).comp revision, others, ?_⟩
      simp only [Pass.handle, Pass.mapBindings, Pass.update, AnnotatedTree.update, modify_modify]
  | setClass _ value ih =>
      obtain ⟨g, f, reports, revision, others, rfl⟩ := ih
      refine ⟨g, (·.insert "class" value) ∘ f, reports, revision, fun attributes name different => ?_,
        ?_⟩
      · exact ((f attributes).find?_insert_of_ne value (Ne.symm different)).trans
          (others attributes name different)
      · simp only [mapDocument, Document.setAttribute, Document.mapAttributes_mapAttributes]
  | dropClass _ ih =>
      obtain ⟨g, f, reports, revision, others, rfl⟩ := ih
      refine ⟨g, (·.erase "class") ∘ f, reports, revision, fun attributes name different => ?_, ?_⟩
      · exact ((f attributes).find?_erase_of_ne (Ne.symm different)).trans
          (others attributes name different)
      · simp only [mapDocument, Document.removeAttribute, Document.mapAttributes_mapAttributes]

theorem document (edits : Edits id node s t) :
    ∃ f, Document.KeepsOthers "class" f ∧ t.document = s.document.mapAttributes node f := by
  obtain ⟨g, f, reports, -, others, rfl⟩ := edits.exists_update
  exact ⟨f, others, rfl⟩

theorem counter (edits : Edits id node s t) : t.counter = s.counter := by
  obtain ⟨g, f, reports, -, -, rfl⟩ := edits.exists_update
  rfl

theorem size (edits : Edits id node s t) :
    t.annotations.nodes.size = s.annotations.nodes.size := by
  obtain ⟨g, f, reports, -, -, rfl⟩ := edits.exists_update
  exact s.annotations.size_update id g

end Edits
end Pass
end ComponentMarkup
