import ComponentMarkup.Proofs.Annotated.Renumber

/-!
A pass with other numbers, over a table in which the components of other files have been used
otherwise: it goes the same way. What it has written so far is never read again.
-/

namespace ComponentMarkup

/-! ## Tables of components -/

/-- The component with the base and the code that `v` has, which uses what `v` uses unless it is its
own. -/
def Component.lend (c : Component) (own : Bool) (v : Component) : Component :=
  { c with base := v.base, code := v.code, used := if own then c.used else v.used }

namespace ComponentTable

/-- The table `t` with what a pass over a file that declares `declared` does not see as in `u`. -/
def lend (t : ComponentTable) (declared : List ComponentId) (u : ComponentTable) : ComponentTable :=
  ⟨t.components.mapIdx fun id c => c.lend (declared.contains id) ((u.get? id).getD c)⟩

variable {declared : List ComponentId} {u t : ComponentTable}

theorem get?_lend (t : ComponentTable) (declared : List ComponentId) (u : ComponentTable)
    (id : ComponentId) : (t.lend declared u).get? id =
      (t.get? id).map fun c => c.lend (declared.contains id) ((u.get? id).getD c) :=
  Array.getElem?_mapIdx

theorem map_lend {α : Type} (g : Component → α) (blind : ∀ c own v, g (c.lend own v) = g c)
    (id : ComponentId) : ((t.lend declared u).get? id).map g = (t.get? id).map g := by
  rw [get?_lend, Option.map_map]
  exact Option.map_congr fun c _ => blind c _ _

theorem hasConflict_lend (id : ComponentId) :
    (t.lend declared u).hasConflict id = t.hasConflict id := by
  rw [hasConflict_eq_map, hasConflict_eq_map, map_lend _ fun _ _ _ => rfl]

theorem lend_self (t : ComponentTable) (declared : List ComponentId) : t.lend declared t = t := by
  refine ext_get? fun id => ?_
  rw [get?_lend]
  cases t.get? id with
  | none => rfl
  | some c => rw [Option.map_some, Option.getD_some, Component.lend, ite_self]

/-- What is its own goes on being used as before. -/
theorem update_lend {id : ComponentId} (own : id ∈ declared)
    (f : List ComponentId → List ComponentId) :
    (t.lend declared u).update id (fun c => { c with used := f c.used }) =
      (t.update id fun c => { c with used := f c.used }).lend declared u := by
  refine ext_get? fun n => ?_
  rw [get?_update, get?_lend, get?_lend, get?_update]
  split
  · next here =>
    subst here
    have listed : declared.contains id = true := List.contains_iff_mem.2 own
    rw [Option.map_map, Option.map_map, listed]
    refine Option.map_congr fun c _ => ?_
    rw [Function.comp_apply, Function.comp_apply]
    cases u.get? id <;> rfl
  · rfl

end ComponentTable

namespace AnnotatedNode.Renumbers
variable {ρ : UInt64 → UInt64}

theorem mapBindings (f : Bindings → Bindings) : Renumbers ρ (·.mapBindings f) := fun a => by
  cases a using AnnotatedNode.byKind <;> rfl

theorem bind (name : String) (binding : Binding.Attribute) : Renumbers ρ fun a =>
    { a with hasDataBinding := true }.mapBindings fun b =>
      { b with attributes := b.attributes.insert name binding } := fun a => by
  cases a using AnnotatedNode.byKind <;> rfl

theorem markRoot : Renumbers ρ fun a =>
    { a with isRoot := true, identifier := some rootIdentifier } := fun a => by
  simp only [renumber, Option.map_some, renumberIdentifier_root]

theorem withContent (content : Option AnnotatedId) : Renumbers ρ fun a =>
    match a.kind with
    | .structural directive bindings _ => { a with kind := .structural directive bindings content }
    | _ => a := fun a => by
  cases a using AnnotatedNode.byKind <;> rfl

end AnnotatedNode.Renumbers

namespace Pass

/-- The pass with other numbers, which has written its identifiers to the nodes `W` and goes on in a
table of components that is as `u` where the pass does not see it. Its reports name its file. -/
def renumber (ρ : UInt64 → UInt64) (W : NodeId → Bool) (u : ComponentTable) (s : Pass) : Pass where
  file :=
    { s.file with
      document := s.document.renumber ρ W
      annotations := s.annotations.renumber ρ }
  components := s.components.lend s.file.declared u
  counter := ρ s.counter
  reports := s.reports.map fun report => { report with file := s.file.path }

variable {ρ : UInt64 → UInt64} {W : NodeId → Bool} {u : ComponentTable} {s : Pass}
  {id : AnnotatedId} {node : NodeId}

theorem document_renumber : (s.renumber ρ W u).document = s.document.renumber ρ W := rfl

theorem annotations_renumber : (s.renumber ρ W u).annotations = s.annotations.renumber ρ := rfl

theorem skeleton_renumber : (s.renumber ρ W u).document.skeleton = s.document.skeleton :=
  Document.skeleton_renumber

theorem basis_renumber : (s.renumber ρ W u).basis = s.basis := by
  have declaration : (s.renumber ρ W u).basis.declaration = s.basis.declaration :=
    funext fun id => ComponentTable.map_lend _ (fun _ _ _ => rfl) id
  have flagged : (s.renumber ρ W u).basis.flagged = s.basis.flagged :=
    funext ComponentTable.hasConflict_lend
  simp only [basis] at declaration flagged ⊢
  rw [declaration, flagged]
  rfl

theorem isTemplateOf_renumber (owner : Option ComponentId) (node : NodeId) :
    (s.renumber ρ W u).isTemplateOf owner node = s.isTemplateOf owner node := by
  rw [isTemplateOf_basis, isTemplateOf_basis, basis_renumber]

theorem innerOwner_renumber (node : NodeId) (tag : String) (owner : Option ComponentId) :
    (s.renumber ρ W u).innerOwner node tag owner = s.innerOwner node tag owner := by
  rw [innerOwner_basis, innerOwner_basis, basis_renumber]

/-! ## Single changes -/

theorem report_renumber (problem : Problem) (node : NodeId) :
    (s.renumber ρ W u).report problem node = (s.report problem node).renumber ρ W u := by
  unfold report
  rw [Document.position_of_skeleton node (skeleton_renumber (s := s))]
  unfold renumber
  dsimp only
  rw [List.map_append, List.map_singleton]
  rfl

theorem foldl_report_renumber (problems : List Problem) (node : NodeId) :
    problems.foldl (fun s problem => s.report problem node) (s.renumber ρ W u) =
      (problems.foldl (fun s problem => s.report problem node) s).renumber ρ W u := by
  induction problems generalizing s with
  | nil => rfl
  | cons problem problems ih => rw [List.foldl_cons, List.foldl_cons, report_renumber, ih]

theorem update_renumber_of {f g : AnnotatedNode → AnnotatedNode}
    (same : ∀ a, g (a.renumber ρ) = (f a).renumber ρ) (id : AnnotatedId) :
    (s.renumber ρ W u).update id g = (s.update id f).renumber ρ W u := by
  unfold update renumber
  dsimp only
  exact congrArg (fun annotations : AnnotatedTree => Pass.mk { s.file with
    document := s.document.renumber ρ W, annotations } _ _ _)
    (AnnotatedTree.update_renumber_of same id)

theorem update_renumber {f : AnnotatedNode → AnnotatedNode} (renumbers : AnnotatedNode.Renumbers ρ f)
    (id : AnnotatedId) : (s.renumber ρ W u).update id f = (s.update id f).renumber ρ W u :=
  update_renumber_of renumbers id

theorem strip_renumber (id : AnnotatedId) (name : String) :
    (s.renumber ρ W u).strip id name = (s.strip id name).renumber ρ W u :=
  update_renumber (f := (·.strip name)) (fun _ => rfl) id

theorem mapBindings_renumber (id : AnnotatedId) (f : Bindings → Bindings) :
    (s.renumber ρ W u).mapBindings id f = (s.mapBindings id f).renumber ρ W u :=
  update_renumber (.mapBindings f) id

theorem bind_renumber (id : AnnotatedId) (name : String) (binding : Binding.Attribute) :
    (s.renumber ρ W u).bind id name binding = (s.bind id name binding).renumber ρ W u :=
  update_renumber (.bind name binding) id

theorem handle_renumber (id : AnnotatedId) (event : String) (action : Binding.Action) :
    (s.renumber ρ W u).handle id event action = (s.handle id event action).renumber ρ W u :=
  mapBindings_renumber id _

theorem takeOverChildren_renumber (id : AnnotatedId) :
    (s.renumber ρ W u).takeOverChildren id = (s.takeOverChildren id).renumber ρ W u :=
  update_renumber (f := fun a => { a with hasDataBinding := true, buildsChildren := true })
    (fun _ => rfl) id

theorem markRoot_renumber (id : AnnotatedId) :
    (s.renumber ρ W u).markRoot id = (s.markRoot id).renumber ρ W u :=
  update_renumber .markRoot id

theorem annotate_renumber (source : NodeId) (parent : Option AnnotatedId) (kind : AnnotatedKind) :
    (s.renumber ρ W u).annotate source parent kind =
      ((s.annotate source parent kind).1, (s.annotate source parent kind).2.renumber ρ W u) := by
  unfold annotate
  rw [show (s.renumber ρ W u).file.annotations = s.file.annotations.renumber ρ from rfl,
    AnnotatedTree.add_renumber]
  rfl

theorem mapDocument_renumber {W' : NodeId → Bool} {f g : Document → Document}
    (same : f (s.document.renumber ρ W) = (g s.document).renumber ρ W') :
    (s.renumber ρ W u).mapDocument f = (s.mapDocument g).renumber ρ W' u := by
  unfold mapDocument renumber
  dsimp only
  exact congrArg (fun document : Document => Pass.mk { s.file with
    document, annotations := s.annotations.renumber ρ } _ _ _) same

theorem addText_renumber (new : W s.document.size = false) (contents : String)
    (position : Position) : (s.renumber ρ W u).addText contents position =
      ((s.addText contents position).1, (s.addText contents position).2.renumber ρ W u) := by
  have added := Document.add_renumber (ρ := ρ) new (.text contents) position
  unfold addText
  rw [Document.createText, Document.createText,
    show (s.renumber ρ W u).file.document = s.document.renumber ρ W from rfl, added]
  rfl

theorem use_renumber {owner : Option ComponentId} (owned : ∀ o ∈ owner, o ∈ s.file.declared)
    (component : ComponentId) :
    (s.renumber ρ W u).use owner component = (s.use owner component).renumber ρ W u := by
  cases owner with
  | none => rfl
  | some owner =>
      unfold use renumber
      dsimp only
      rw [ComponentTable.update_lend (owned owner rfl) (addNew · component)]
      rfl

/-! ## Looking at annotations and attributes -/

theorem component?_renumber (id : AnnotatedId) :
    (s.renumber ρ W u).component? id = s.component? id :=
  AnnotatedTree.bind_renumber AnnotatedNode.component? (fun _ => rfl) id

theorem isStripped_renumber (id : AnnotatedId) (name : String) :
    (s.renumber ρ W u).isStripped id name = s.isStripped id name := by
  have shown (t : Pass) : t.isStripped id name =
      ((t.annotations.get? id).map fun a => a.stripped.contains name).getD false := by
    rw [isStripped]
    cases t.annotations.get? id <;> rfl
  rw [shown, shown, annotations_renumber, AnnotatedTree.map_renumber _ fun _ => rfl]

theorem hasBinding_renumber (id : AnnotatedId) (name : String) :
    (s.renumber ρ W u).hasBinding id name = s.hasBinding id name := by
  rw [hasBinding, hasBinding, annotations_renumber,
    AnnotatedTree.bind_renumber AnnotatedNode.bindings? fun _ => rfl]

section Off
variable (off : W node = false)
include off

theorem attribute?_renumber (name : String) :
    (s.renumber ρ W u).document.attribute? node name = s.document.attribute? node name :=
  Document.attribute?_congr (Document.data?_renumber_of_off off) name

theorem hasAttribute_renumber (name : String) :
    (s.renumber ρ W u).document.hasAttribute node name = s.document.hasAttribute node name := by
  rw [Document.hasAttribute, Document.hasAttribute, attribute?_renumber off]

/-! ## Attributes -/

omit off in
theorem bindEvent_renumber (id : AnnotatedId) (name value : String) :
    (s.renumber ρ W u).bindEvent id node name value =
      (s.bindEvent id node name value).renumber ρ W u := by
  unfold bindEvent
  split
  · rw [handle_renumber, strip_renumber]
  · exact report_renumber _ node

omit off in
theorem bindStyle_renumber (id : AnnotatedId) (value : String) :
    (s.renumber ρ W u).bindStyle id value = (s.bindStyle id value).renumber ρ W u := by
  unfold bindStyle
  dsimp only
  split
  · rfl
  · rw [bind_renumber, strip_renumber]

theorem bindClass_renumber (id : AnnotatedId) (value : String) :
    (s.renumber ρ W u).bindClass id node value = (s.bindClass id node value).renumber ρ W u := by
  unfold bindClass
  dsimp only
  split
  · rfl
  · rw [← bind_renumber]
    refine congrArg (bind · id "class" _) (mapDocument_renumber ?_)
    split
    · exact Document.mapAttributes_renumber off _
    · exact Document.mapAttributes_renumber off _

omit off in
theorem bindGeneric_renumber (id : AnnotatedId) (name value : String) :
    (s.renumber ρ W u).bindGeneric id name value = (s.bindGeneric id name value).renumber ρ W u := by
  unfold bindGeneric
  dsimp only
  rw [component?_renumber]
  split
  · split
    · exact bind_renumber id name _
    · rfl
  · rw [bind_renumber, strip_renumber]

theorem install_renumber (id : AnnotatedId) (property expr event : String)
    (action : Binding.Action) : (s.renumber ρ W u).install id node property expr event action =
      (s.install id node property expr event action).renumber ρ W u := by
  have shadowed : (s.renumber ρ W u).shadow id node property =
      (s.shadow id node property).renumber ρ W u := by
    unfold shadow
    dsimp only
    rw [hasAttribute_renumber off]
    split
    · rw [report_renumber, strip_renumber]
    · rfl
  rw [install, install, shadowed, bind_renumber, handle_renumber]

theorem bindTwoWay_renumber (id : AnnotatedId) (name property value : String) :
    (s.renumber ρ W u).bindTwoWay id node name property value =
      (s.bindTwoWay id node name property value).renumber ρ W u := by
  unfold bindTwoWay
  rw [Document.tag?_of_skeleton node (skeleton_renumber (s := s)), attribute?_renumber off,
    attribute?_renumber off, component?_renumber]
  dsimp only
  cases TwoWay.choose _ _ property name _ with
  | native event =>
      dsimp only
      rw [install_renumber off, strip_renumber]
  | radioChecked =>
      dsimp only
      rw [hasBinding_renumber]
      split
      · exact report_renumber _ node
      · rw [install_renumber off, strip_renumber]
  | radioValue =>
      cases s.document.attribute? node "value" with
      | none => exact report_renumber _ node
      | some static =>
          dsimp only
          rw [hasBinding_renumber]
          split
          · exact report_renumber _ node
          · rw [install_renumber off, strip_renumber]
  | component =>
      dsimp only
      rw [bind_renumber, strip_renumber]
  | rejected problem => exact report_renumber problem node

theorem bindAttribute_renumber (id : AnnotatedId) (name value : String) :
    bindAttribute id node (s.renumber ρ W u) name value =
      (bindAttribute id node s name value).renumber ρ W u := by
  unfold bindAttribute
  rw [isStripped_renumber]
  split
  · rfl
  · split
    · exact bindEvent_renumber id name value
    · split
      · exact bindTwoWay_renumber off id name _ value
      · split
        · exact bindStyle_renumber id value
        · split
          · exact bindClass_renumber off id value
          · exact bindGeneric_renumber id name value

theorem bindAttributes_renumber (id : AnnotatedId) :
    (s.renumber ρ W u).bindAttributes id node = (s.bindAttributes id node).renumber ρ W u := by
  have held : (s.renumber ρ W u).document.attributes? node = s.document.attributes? node :=
    Document.attributes?_congr (Document.data?_renumber_of_off off)
  unfold bindAttributes
  rw [held]
  cases s.document.attributes? node with
  | none => rfl
  | some attributes =>
      dsimp only
      generalize attributes.entries = entries
      clear held
      induction entries generalizing s with
      | nil => rfl
      | cons entry entries ih =>
          rw [List.foldl_cons, List.foldl_cons, bindAttribute_renumber off, ih]

theorem stripPresent_renumber (id : AnnotatedId) (names : List String) :
    (s.renumber ρ W u).stripPresent id node names =
      (s.stripPresent id node names).renumber ρ W u := by
  unfold stripPresent
  induction names generalizing s with
  | nil => rfl
  | cons name names ih =>
      rw [List.foldl_cons, List.foldl_cons, hasAttribute_renumber off, strip_renumber]
      split
      · exact ih
      · exact ih

theorem readIndentation_renumber (id : AnnotatedId) (inherited : Bool) :
    (s.renumber ρ W u).readIndentation id node inherited =
      ((s.readIndentation id node inherited).1.renumber ρ W u,
        (s.readIndentation id node inherited).2) := by
  unfold readIndentation
  rw [attribute?_renumber off]
  cases s.document.attribute? node "indentation" with
  | none => rfl
  | some value =>
      dsimp only
      rw [strip_renumber]
      split
      · rfl
      · split
        · rfl
        · rw [report_renumber]

/-! ## Components -/

theorem componentName_renumber (tag : String) :
    (s.renumber ρ W u).componentName node tag = s.componentName node tag := by
  rw [componentName, componentName, attribute?_renumber off]
  rfl

theorem bindComponent_renumber {owner : Option ComponentId}
    (owned : ∀ o ∈ owner, o ∈ s.file.declared) (id : AnnotatedId) (tag : String) :
    (s.renumber ρ W u).bindComponent id node tag owner =
      (s.bindComponent id node tag owner).renumber ρ W u := by
  have conflicts (component : ComponentId) :
      (s.renumber ρ W u).components.hasConflict component = s.components.hasConflict component :=
    ComponentTable.hasConflict_lend component
  unfold bindComponent
  rw [componentName_renumber off]
  dsimp only
  rw [show (s.renumber ρ W u).file.scope = s.file.scope from rfl]
  split
  · rw [conflicts]
    split
    · rfl
    · rw [mapBindings_renumber]
      exact use_renumber (s := s.mapBindings id _) owned _
  · split
    · exact report_renumber _ node
    · rfl

end Off
end Pass
end ComponentMarkup
