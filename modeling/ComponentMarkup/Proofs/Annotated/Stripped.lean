import ComponentMarkup.Proofs.Annotated.Changes
import ComponentMarkup.Binding.Scan

/-!
When reading the attributes of an element strips its `id`: an `id` that holds a binding is replaced
by that binding, and nothing else strips it.
-/

namespace ComponentMarkup

/-- Whether an `id` of the node holds a complete binding. -/
def Document.bindsId (d : Document) (node : NodeId) : Bool :=
  match d.attributes? node with
  | some attributes =>
      attributes.entries.any fun (name, value) => name == "id" && Binding.hasBinding value
  | none => false

/-- The properties that are bound natively are among the known ones. -/
theorem TwoWay.mem_known_of_native {tag type property name event : String} {isComponent : Bool}
    (native : choose tag type property name isComponent = .native event) :
    property ∈ knownProperties := by
  unfold choose at native
  grind [knownProperties]

theorem TwoWay.eq_checked_of_radioChecked {tag type property name : String} {isComponent : Bool}
    (chosen : choose tag type property name isComponent = .radioChecked) :
    property = "checked" := by
  unfold choose at chosen
  split at chosen
  · next checked => simp_all
  · split at chosen
    · cases chosen
    · split at chosen
      · cases chosen
      · split at chosen
        · cases chosen
        · split at chosen
          · cases chosen
          · split at chosen <;> cases chosen

namespace Pass
variable (s : Pass) (id : AnnotatedId) (node : NodeId)

theorem isStripped_update (f : AnnotatedNode → AnnotatedNode)
    (same : ∀ a, (f a).stripped = a.stripped) (other : AnnotatedId) (name : String) :
    (s.update id f).isStripped other name = s.isStripped other name := by
  simp only [isStripped, annotations_update, AnnotatedTree.get?_update]
  by_cases here : id = other
  · rw [if_pos here]
    cases s.annotations.get? other with
    | none => rfl
    | some a => simp only [Option.map_some, same]
  · rw [if_neg here]

@[simp] theorem isStripped_report (problem : Problem) (name : String) :
    (s.report problem node).isStripped id name = s.isStripped id name := rfl

@[simp] theorem isStripped_mapDocument (f : Document → Document) (name : String) :
    (s.mapDocument f).isStripped id name = s.isStripped id name := rfl

@[simp] theorem isStripped_mapBindings (f : Bindings → Bindings) (name : String) :
    (s.mapBindings id f).isStripped id name = s.isStripped id name := by
  refine s.isStripped_update id _ (fun a => ?_) id name
  cases a using AnnotatedNode.byKind <;> rfl

@[simp] theorem isStripped_bind (bound : String) (binding : Binding.Attribute) (name : String) :
    (s.bind id bound binding).isStripped id name = s.isStripped id name := by
  refine s.isStripped_update id _ (fun a => ?_) id name
  cases a using AnnotatedNode.byKind <;> rfl

@[simp] theorem isStripped_handle (event : String) (action : Binding.Action) (name : String) :
    (s.handle id event action).isStripped id name = s.isStripped id name :=
  s.isStripped_mapBindings id _ name

@[simp] theorem isStripped_markRoot (other : AnnotatedId) (name : String) :
    (s.markRoot id).isStripped other name = s.isStripped other name := by
  rw [markRoot, isStripped_update]
  exact fun _ => rfl

@[simp] theorem isStripped_takeOverChildren (other : AnnotatedId) (name : String) :
    (s.takeOverChildren id).isStripped other name = s.isStripped other name := by
  rw [takeOverChildren, isStripped_update]
  exact fun _ => rfl

theorem isStripped_strip_of_ne {name other : String} (different : name ≠ other) :
    (s.strip id name).isStripped id other = s.isStripped id other := by
  simp only [isStripped, strip, annotations_update, AnnotatedTree.get?_update, if_true]
  cases s.annotations.get? id with
  | none => rfl
  | some a =>
      simp only [Option.map_some, AnnotatedNode.strip, addNew]
      split
      · rfl
      · rw [List.contains_eq_mem, List.contains_eq_mem]
        simp [Ne.symm different]

theorem isStripped_strip_self {a : AnnotatedNode} (found : s.annotations.get? id = some a)
    (name : String) : (s.strip id name).isStripped id name = true := by
  simp only [isStripped, strip, annotations_update, s.annotations.get?_update_self _ found,
    AnnotatedNode.strip, addNew]
  split
  · next listed => exact listed
  · simp

/-! ## Single attributes -/

variable {name other : String}

theorem isStripped_shadow {property : String} (different : Text.lowered property ≠ other) :
    (s.shadow id node property).isStripped id other = s.isStripped id other := by
  unfold shadow
  dsimp only
  split
  · rw [isStripped_strip_of_ne _ _ different, isStripped_report]
  · rfl

theorem isStripped_install {property : String} (expr event : String) (action : Binding.Action)
    (different : Text.lowered property ≠ other) :
    (s.install id node property expr event action).isStripped id other = s.isStripped id other := by
  simp only [install, isStripped_handle, isStripped_bind, isStripped_shadow _ _ _ different]

section Other
variable (different : name ≠ other)
  (unknown : ∀ property ∈ knownProperties, Text.lowered property ≠ other)
include different unknown

theorem isStripped_bindTwoWay (property value : String) :
    (s.bindTwoWay id node name property value).isStripped id other = s.isStripped id other := by
  have checked := unknown "checked" (by decide)
  unfold bindTwoWay
  dsimp only
  split
  · next event chosen =>
    rw [isStripped_strip_of_ne _ _ different,
      isStripped_install _ _ _ _ _ _ (unknown _ (TwoWay.mem_known_of_native chosen))]
  · next chosen =>
    split
    · rfl
    · rw [isStripped_strip_of_ne _ _ different,
        isStripped_install _ _ _ _ _ _ (TwoWay.eq_checked_of_radioChecked chosen ▸ checked)]
  · split
    · rfl
    · split
      · rfl
      · rw [isStripped_strip_of_ne _ _ different, isStripped_install _ _ _ _ _ _ checked]
  · rw [isStripped_strip_of_ne _ _ different, isStripped_bind]
  · rfl

/-- Reading an attribute strips nothing but that attribute and those of native properties. -/
theorem isStripped_bindAttribute_of_ne (value : String) :
    (bindAttribute id node s name value).isStripped id other = s.isStripped id other := by
  unfold bindAttribute
  split
  · rfl
  · split
    · unfold bindEvent
      split
      · rw [isStripped_strip_of_ne _ _ different, isStripped_handle]
      · rfl
    · split
      · exact s.isStripped_bindTwoWay id node different unknown _ value
      · split
        · next isStyle =>
          subst isStyle
          unfold bindStyle
          dsimp only
          split
          · rfl
          · rw [isStripped_strip_of_ne _ _ different, isStripped_bind]
        · split
          · unfold bindClass
            dsimp only
            split
            · rfl
            · rw [isStripped_bind, isStripped_mapDocument]
          · unfold bindGeneric
            dsimp only
            split
            · split
              · rw [isStripped_bind]
              · rfl
            · rw [isStripped_strip_of_ne _ _ different, isStripped_bind]

end Other

theorem isStripped_bindAttribute_id {a : AnnotatedNode} (found : s.annotations.get? id = some a)
    (value : String) :
    (bindAttribute id node s "id" value).isStripped id "id" =
      (s.isStripped id "id" || Binding.hasBinding value) := by
  have directive : directiveNames.contains "id" = false := by decide
  have event : Text.startsWith "id" "on" = false := by decide
  have twoWay : Text.after? "bind-" "id" = none := by decide
  unfold bindAttribute
  rw [directive, Bool.false_or, event, twoWay]
  by_cases already : s.isStripped id "id" = true
  · rw [if_pos already, already, Bool.true_or]
  · have fresh : s.isStripped id "id" = false := Bool.eq_false_iff.2 already
    rw [if_neg already, fresh, Bool.false_or]
    simp only [Bool.false_eq_true, if_false, String.reduceEq]
    unfold bindGeneric
    dsimp only
    rw [Binding.isEmpty_bound_scan]
    cases bound : Binding.hasBinding value with
    | false =>
        simp only [Bool.not_false, if_true]
        split
        · rw [isStripped_bind, fresh]
        · exact fresh
    | true =>
        simp only [Bool.not_true, Bool.false_eq_true, if_false]
        refine isStripped_strip_self _ _ (a := ?_) ?_ _
        · exact { a with hasDataBinding := true }.mapBindings fun b =>
            { b with
              attributes := b.attributes.insert "id" (.ofSegments (Binding.scan value) .plain) }
        · exact s.annotations.get?_update_self _ found

/-! ## All attributes -/

/-- Reading all attributes strips `id` exactly when one of that name is bound. -/
theorem isStripped_bindAttributes {a : AnnotatedNode} (found : s.annotations.get? id = some a) :
    (s.bindAttributes id node).isStripped id "id" =
      (s.isStripped id "id" || s.document.bindsId node) := by
  unfold bindAttributes Document.bindsId
  cases s.document.attributes? node with
  | none => rw [Bool.or_false]
  | some attributes =>
      simp only
      generalize attributes.entries = entries
      induction entries generalizing s a with
      | nil => rw [List.foldl_nil, List.any_nil, Bool.or_false]
      | cons entry rest ih =>
          obtain ⟨name, value⟩ := entry
          have edits : Edits id node s (bindAttribute id node s name value) :=
            Edits.refl.bindAttribute name value
          obtain ⟨b, stillFound⟩ := AnnotatedTree.get?_isSome
            (edits.size ▸ AnnotatedTree.lt_size_of_get? found)
          rw [List.foldl_cons, List.any_cons, ih _ stillFound, ← Bool.or_assoc]
          congr 1
          by_cases same : name = "id"
          · subst same
            simpa using s.isStripped_bindAttribute_id id node found value
          · rw [s.isStripped_bindAttribute_of_ne id node same (by decide) value,
              beq_eq_false_iff_ne.2 same, Bool.false_and, Bool.or_false]

theorem isStripped_stripPresent {names : List String} (different : "id" ∉ names) :
    (s.stripPresent id node names).isStripped id "id" = s.isStripped id "id" := by
  unfold stripPresent
  induction names generalizing s with
  | nil => rfl
  | cons name names ih =>
      rw [List.foldl_cons, ih _ (List.not_mem_of_not_mem_cons different)]
      split
      · exact isStripped_strip_of_ne _ _ fun same => different (same ▸ List.mem_cons_self)
      · rfl

theorem isStripped_readIndentation (inherited : Bool) :
    (s.readIndentation id node inherited).1.isStripped id "id" = s.isStripped id "id" := by
  unfold readIndentation
  split
  · rfl
  · dsimp only
    split
    · exact isStripped_strip_of_ne _ _ (by decide)
    · split
      · exact isStripped_strip_of_ne _ _ (by decide)
      · rw [isStripped_report]
        exact isStripped_strip_of_ne _ _ (by decide)

end Pass
end ComponentMarkup
