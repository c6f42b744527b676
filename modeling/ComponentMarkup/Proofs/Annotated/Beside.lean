import ComponentMarkup.Proofs.Annotated.Twin
import ComponentMarkup.Proofs.Document.Carried

/-!
Twin passes that read two nodes of the same data bind the same to an annotation of both, and report
the same.
-/

namespace ComponentMarkup

theorem Document.data?_mapAttributes_congr {d d' : Document} {n n' : NodeId}
    (same : d'.data? n' = d.data? n) (f : Attributes → Attributes) :
    (d'.mapAttributes n' f).data? n' = (d.mapAttributes n f).data? n := by
  simp only [data?, mapAttributes, node?_update, if_true] at same ⊢
  cases found : d.node? n with
  | none =>
      rw [found, Option.map_none, Option.map_eq_none_iff] at same
      rw [same]
  | some old =>
      rw [found, Option.map_some] at same
      obtain ⟨old', found', data⟩ := Option.map_eq_some_iff.1 same
      obtain ⟨_, _, _, _⟩ := old
      obtain ⟨_, _, held, _⟩ := old'
      dsimp only at data
      subst data
      rw [found']
      cases held <;> rfl

namespace Pass

/-- Twins that have come to two nodes with nothing between them that is read. -/
structure Beside (host : Option AnnotatedId) (node node' : NodeId) (s s' : Pass) : Prop
    extends Twin host s s' where
  data : s'.document.data? node' = s.document.data? node
  position : s'.document.position node' = s.document.position node
  boundText : s'.hasBoundText node' = s.hasBoundText node

variable {host : Option AnnotatedId} {node node' : NodeId} {s s' : Pass} {id : AnnotatedId}

namespace Beside

/-! ## Single changes -/

theorem update (beside : Beside host node node' s s') (id : AnnotatedId)
    {f : AnnotatedNode → AnnotatedNode} (blind : AnnotatedNode.Blind f) :
    Beside host node node' (s.update id f) (s'.update id f) :=
  ⟨beside.toTwin.update id blind, beside.data, beside.position, beside.boundText⟩

theorem report (beside : Beside host node node' s s') (problem : Problem) :
    Beside host node node' (s.report problem node) (s'.report problem node') :=
  ⟨beside.toTwin.report problem beside.position, beside.data, beside.position, beside.boundText⟩

theorem reportAll (beside : Beside host node node' s s') (problems : List Problem) :
    Beside host node node' (problems.foldl (fun s problem => s.report problem node) s)
      (problems.foldl (fun s problem => s.report problem node') s') := by
  induction problems generalizing s s' with
  | nil => exact beside
  | cons problem problems ih => exact ih (beside.report problem)

theorem strip (beside : Beside host node node' s s') (id : AnnotatedId) (name : String) :
    Beside host node node' (s.strip id name) (s'.strip id name) :=
  beside.update id (.strip name)

theorem mapBindings (beside : Beside host node node' s s') (id : AnnotatedId)
    (f : Bindings → Bindings) :
    Beside host node node' (s.mapBindings id f) (s'.mapBindings id f) :=
  beside.update id (.mapBindings f)

theorem bind (beside : Beside host node node' s s') (id : AnnotatedId) (name : String)
    (binding : Binding.Attribute) :
    Beside host node node' (s.bind id name binding) (s'.bind id name binding) :=
  beside.update id ⟨fun a _ => by cases a using AnnotatedNode.byKind <;> rfl,
    fun a => by cases a using AnnotatedNode.byKind <;> rfl⟩

theorem handle (beside : Beside host node node' s s') (id : AnnotatedId) (event : String)
    (action : Binding.Action) :
    Beside host node node' (s.handle id event action) (s'.handle id event action) :=
  beside.mapBindings id _

theorem takeOverChildren (beside : Beside host node node' s s') (id : AnnotatedId) :
    Beside host node node' (s.takeOverChildren id) (s'.takeOverChildren id) :=
  ⟨beside.toTwin.takeOverChildren id, beside.data, beside.position, beside.boundText⟩

theorem markRoot (beside : Beside host node node' s s') (id : AnnotatedId) :
    Beside host node node' (s.markRoot id) (s'.markRoot id) :=
  beside.update id ⟨fun _ _ => rfl, fun a => by cases a using AnnotatedNode.byKind <;> rfl⟩

theorem use (beside : Beside host node node' s s') (owner : Option ComponentId)
    (component : ComponentId) :
    Beside host node node' (s.use owner component) (s'.use owner component) := by
  refine ⟨beside.toTwin.use owner component, ?_, ?_, ?_⟩
  · rw [document_use, document_use, beside.data]
  · rw [document_use, document_use, beside.position]
  · rw [hasBoundText, hasBoundText, document_use, document_use]
    exact beside.boundText

theorem mapAttributes (beside : Beside host node node' s s') (f : Attributes → Attributes) :
    Beside host node node' (s.mapDocument (·.mapAttributes node f))
      (s'.mapDocument (·.mapAttributes node' f)) where
  toTwin := beside.toTwin.mapAttributes node node' f f
  data := Document.data?_mapAttributes_congr beside.data f
  position := by
    rw [document_mapDocument, document_mapDocument, Document.position_mapAttributes,
      Document.position_mapAttributes, beside.position]
  boundText := by
    have unread (u : Pass) (n : NodeId) :
        (u.mapDocument (·.mapAttributes n f)).hasBoundText n = u.hasBoundText n := by
      simp only [hasBoundText, document_mapDocument, Document.children_mapAttributes,
        Document.text?_mapAttributes]
    rw [unread, unread, beside.boundText]

theorem annotate (beside : Beside host node node' s s') (parent : Option AnnotatedId)
    (kind : AnnotatedKind) (inside : node < s.document.size) (inside' : node' < s'.document.size) :
    Beside host node node' (s.annotate node parent kind).2 (s'.annotate node' parent kind).2 :=
  ⟨beside.toTwin.annotate parent kind inside inside' fun _ =>
    ⟨Document.tag?_of_data? beside.data, Document.text?_of_data? beside.data⟩,
    beside.data, beside.position, beside.boundText⟩

/-! ## Attributes -/

section Attributes
variable (beside : Beside host node node' s s') (other : host ≠ some id)
include beside other

omit other in
theorem bindEvent (name value : String) :
    Beside host node node' (s.bindEvent id node name value) (s'.bindEvent id node' name value) := by
  unfold Pass.bindEvent
  split
  · exact (beside.handle id _ _).strip id name
  · exact beside.report _

omit other in
theorem bindStyle (value : String) :
    Beside host node node' (s.bindStyle id value) (s'.bindStyle id value) := by
  unfold Pass.bindStyle
  dsimp only
  split
  · exact beside
  · exact (beside.bind id _ _).strip id _

omit other in
theorem bindClass (value : String) :
    Beside host node node' (s.bindClass id node value) (s'.bindClass id node' value) := by
  unfold Pass.bindClass
  dsimp only
  split
  · exact beside
  · split
    · exact (beside.mapAttributes (·.erase "class")).bind id _ _
    · exact (beside.mapAttributes (·.insert "class" _)).bind id _ _

theorem bindGeneric (name value : String) :
    Beside host node node' (s.bindGeneric id name value) (s'.bindGeneric id name value) := by
  unfold Pass.bindGeneric
  rw [beside.toTwin.component?_eq other]
  dsimp only
  split
  · split
    · exact beside.bind id _ _
    · exact beside
  · exact (beside.bind id _ _).strip id _

omit other in
theorem install (property expr event : String) (action : Binding.Action) :
    Beside host node node' (s.install id node property expr event action)
      (s'.install id node' property expr event action) := by
  unfold Pass.install Pass.shadow
  dsimp only
  rw [Document.hasAttribute_of_data? beside.data]
  split
  · exact (((beside.report _).strip id _).bind id _ _).handle id _ _
  · exact (beside.bind id _ _).handle id _ _

theorem bindTwoWay (name property value : String) :
    Beside host node node' (s.bindTwoWay id node name property value)
      (s'.bindTwoWay id node' name property value) := by
  unfold Pass.bindTwoWay
  rw [Document.tag?_of_data? beside.data, Document.attribute?_of_data? beside.data,
    Document.attribute?_of_data? beside.data, beside.toTwin.component?_eq other,
    beside.toTwin.hasBinding_eq other]
  dsimp only
  split
  · exact (beside.install _ _ _ _).strip id name
  · split
    · exact beside.report _
    · exact (beside.install _ _ _ _).strip id name
  · split
    · exact beside.report _
    · split
      · exact beside.report _
      · exact (beside.install _ _ _ _).strip id name
  · exact (beside.bind id _ _).strip id name
  · exact beside.report _

theorem bindAttribute (name value : String) :
    Beside host node node' (Pass.bindAttribute id node s name value)
      (Pass.bindAttribute id node' s' name value) := by
  unfold Pass.bindAttribute
  rw [beside.toTwin.isStripped_eq other]
  split
  · exact beside
  · split
    · exact beside.bindEvent name value
    · split
      · exact beside.bindTwoWay other name _ value
      · split
        · exact beside.bindStyle value
        · split
          · exact beside.bindClass value
          · exact beside.bindGeneric other name value

theorem bindAttributes :
    Beside host node node' (s.bindAttributes id node) (s'.bindAttributes id node') := by
  unfold Pass.bindAttributes
  rw [Document.attributes?_of_data? beside.data]
  split
  · exact beside
  · next attributes found =>
    clear found
    generalize attributes.entries = entries
    induction entries generalizing s s' with
    | nil => exact beside
    | cons entry entries ih => exact ih (beside.bindAttribute other entry.1 entry.2)

end Attributes

section Reading
variable (beside : Beside host node node' s s')
include beside

theorem stripPresent (id : AnnotatedId) (names : List String) :
    Beside host node node' (s.stripPresent id node names) (s'.stripPresent id node' names) := by
  unfold Pass.stripPresent
  induction names generalizing s s' with
  | nil => exact beside
  | cons name names ih =>
      rw [List.foldl_cons, List.foldl_cons, Document.hasAttribute_of_data? beside.data]
      split
      · exact ih (beside.strip id name)
      · exact ih beside

theorem readIndentation (id : AnnotatedId) (inherited : Bool) :
    Beside host node node' (s.readIndentation id node inherited).1
        (s'.readIndentation id node' inherited).1 ∧
      (s'.readIndentation id node' inherited).2 = (s.readIndentation id node inherited).2 := by
  unfold Pass.readIndentation
  rw [Document.attribute?_of_data? beside.data]
  split
  · exact ⟨beside, rfl⟩
  · dsimp only
    split
    · exact ⟨beside.strip id _, rfl⟩
    · split
      · exact ⟨beside.strip id _, rfl⟩
      · exact ⟨(beside.strip id _).report _, rfl⟩

theorem bindComponent (id : AnnotatedId) (tag : String) (owner : Option ComponentId) :
    Beside host node node' (s.bindComponent id node tag owner)
      (s'.bindComponent id node' tag owner) := by
  have name : s'.componentName node' tag = s.componentName node tag := by
    rw [componentName, componentName, beside.toTwin.scope, Document.attribute?_of_data? beside.data]
  unfold Pass.bindComponent
  rw [name, beside.toTwin.scope]
  dsimp only
  split
  · next component _ =>
    rw [beside.toTwin.components.hasConflict]
    split
    · exact beside
    · exact (beside.mapBindings id _).use owner component
  · split
    · exact beside.report _
    · exact beside

end Reading
end Beside
end Pass
end ComponentMarkup
