import ComponentMarkup.Proofs.Annotated.Changes

/-!
Giving a node its number: the number goes to the node, the mark to the nearest node above it that
generated code builds, and the written `id` to its source unless it is built itself.
-/

namespace ComponentMarkup

/-! ## Ancestors -/

namespace AnnotatedTree

/-- The nearest node above that generated code builds. -/
def nearestBuilt? (t : AnnotatedTree) (id : AnnotatedId) : Option AnnotatedId :=
  (t.ancestors id).find? t.isBuilt

variable {t u : AnnotatedTree} {id other : AnnotatedId}

theorem lt_of_mem_ancestors (member : other ∈ t.ancestors id) : other < id := by
  induction id using Nat.strongRecOn with
  | ind id ih =>
      rw [ancestors] at member
      split at member
      · cases member
      · next parent _ =>
        split at member
        · next below =>
          rcases List.mem_cons.1 member with rfl | further
          · exact below
          · exact Nat.lt_trans (ih parent below further) below
        · cases member

theorem lt_of_nearestBuilt? (found : t.nearestBuilt? id = some other) : other < id :=
  lt_of_mem_ancestors (List.mem_of_find?_eq_some found)

theorem ancestors_congr (same : ∀ n ≤ id, u.parent? n = t.parent? n) :
    u.ancestors id = t.ancestors id := by
  induction id using Nat.strongRecOn with
  | ind id ih =>
      rw [ancestors, ancestors, same id (Nat.le_refl id)]
      split
      · rfl
      · next parent _ =>
        split
        · next below =>
          rw [ih parent below fun n inside => same n (Nat.le_trans inside (Nat.le_of_lt below))]
        · rfl

theorem parent?_update (f : AnnotatedNode → AnnotatedNode) (same : ∀ a, (f a).parent = a.parent)
    (n : AnnotatedId) : (t.update id f).parent? n = t.parent? n := by
  simp only [parent?, get?_update]
  split
  · cases t.get? n with
    | none => rfl
    | some a => exact same a
  · rfl

theorem buildsChildren_update (f : AnnotatedNode → AnnotatedNode)
    (same : ∀ a, (f a).buildsChildren = a.buildsChildren) (n : AnnotatedId) :
    (t.update id f).buildsChildren n = t.buildsChildren n := by
  simp only [buildsChildren, get?_update]
  by_cases here : id = n
  · rw [if_pos here]
    cases t.get? n with
    | none => rfl
    | some a => exact same a
  · rw [if_neg here]

theorem isBuilt_update (f : AnnotatedNode → AnnotatedNode) (parent : ∀ a, (f a).parent = a.parent)
    (builds : ∀ a, (f a).buildsChildren = a.buildsChildren) (n : AnnotatedId) :
    (t.update id f).isBuilt n = t.isBuilt n := by
  simp only [isBuilt, parent?_update f parent, buildsChildren_update f builds]

end AnnotatedTree

/-! ## Marking and numbering -/

namespace Pass
variable (s : Pass) (id : AnnotatedId)

theorem markQuery_eq : s.markQuery id =
    match s.annotations.nearestBuilt? id with
    | some ancestor => s.update ancestor fun a => { a with hasQuery := true }
    | none => s := rfl

@[simp] theorem document_markQuery : (s.markQuery id).document = s.document := by
  rw [markQuery_eq]
  split <;> rfl

@[simp] theorem counter_markQuery : (s.markQuery id).counter = s.counter := by
  rw [markQuery_eq]
  split <;> rfl

@[simp] theorem size_markQuery :
    (s.markQuery id).annotations.nodes.size = s.annotations.nodes.size := by
  rw [markQuery_eq]
  split
  · exact s.annotations.size_update _ _
  · rfl

@[simp] theorem root_markQuery : (s.markQuery id).annotations.root = s.annotations.root := by
  rw [markQuery_eq]
  split <;> rfl

theorem get?_markQuery (n : AnnotatedId) : (s.markQuery id).annotations.get? n =
    (s.annotations.get? n).map fun a =>
      { a with hasQuery := a.hasQuery || s.annotations.nearestBuilt? id == some n } := by
  rw [markQuery_eq]
  cases s.annotations.nearestBuilt? id with
  | none => simp
  | some ancestor =>
      simp only [annotations_update, AnnotatedTree.get?_update]
      by_cases same : ancestor = n
      · subst same
        simp
      · rw [if_neg same]
        cases s.annotations.get? n with
        | none => rfl
        | some a =>
            have unmarked : (ancestor == n) = false := beq_eq_false_iff_ne.2 same
            simp [unmarked]

theorem isBuilt_markQuery (n : AnnotatedId) :
    (s.markQuery id).annotations.isBuilt n = s.annotations.isBuilt n := by
  rw [markQuery_eq]
  split
  · rw [annotations_update, AnnotatedTree.isBuilt_update] <;> exact fun _ => rfl
  · rfl

variable (source : NodeId)

theorem annotations_number : (s.number id source).annotations =
    s.annotations.update id fun a => { a with identifier := some (elementIdentifier s.counter) } := by
  unfold number
  rw [draw]
  dsimp only
  split <;> rfl

@[simp] theorem counter_number : (s.number id source).counter = s.counter + 1 := by
  unfold number
  rw [draw]
  dsimp only
  split <;> rfl

theorem document_number : (s.number id source).document =
    if s.annotations.isBuilt id then s.document
    else s.document.setAttribute source "id" (elementIdentifier s.counter) := by
  unfold number
  rw [draw]
  dsimp only
  change Pass.document (if s.annotations.isBuilt id = true then _ else _) = _
  split <;> rfl

/-! ## Identifying -/

variable {s id} {a : AnnotatedNode}

theorem identify_eq_self (found : s.annotations.get? id = some a)
    (settled : (a.identifier.isSome || !a.needsIdentifier) = true) : s.identify id = s := by
  unfold identify
  rw [found]
  exact if_pos settled

theorem identify_eq (found : s.annotations.get? id = some a) (fresh : a.identifier = none)
    (needed : a.needsIdentifier = true) :
    s.identify id = (s.markQuery id).number id a.source := by
  unfold identify
  rw [found]
  refine if_neg ?_
  rw [fresh, needed]
  exact Bool.false_ne_true

theorem get?_identify (found : s.annotations.get? id = some a) (fresh : a.identifier = none)
    (needed : a.needsIdentifier = true) (n : AnnotatedId) :
    (s.identify id).annotations.get? n = (s.annotations.get? n).map fun b =>
      { b with
        hasQuery := b.hasQuery || s.annotations.nearestBuilt? id == some n
        identifier := if id = n then some (elementIdentifier s.counter) else b.identifier } := by
  rw [identify_eq found fresh needed, annotations_number, AnnotatedTree.get?_update, counter_markQuery]
  split
  · rw [get?_markQuery, Option.map_map]
    rfl
  · rw [get?_markQuery]

theorem identify_cases (found : s.annotations.get? id = some a) :
    (a.identifier.isSome || !a.needsIdentifier) = true ∧ s.identify id = s ∨
      a.identifier = none ∧ a.needsIdentifier = true := by
  cases settled : a.identifier.isSome || !a.needsIdentifier with
  | true => exact .inl ⟨rfl, identify_eq_self found settled⟩
  | false =>
      rw [Bool.or_eq_false_iff, Bool.not_eq_false'] at settled
      exact .inr ⟨Option.isSome_eq_false_iff.1 settled.1 |> Option.isNone_iff_eq_none.1, settled.2⟩

/-- What sees neither identifiers nor queries sees no numbering. -/
theorem apply_get?_identify {α : Type} (g : Option AnnotatedNode → α)
    (blind : ∀ (a : AnnotatedNode) query identifier,
      g (some { a with hasQuery := query, identifier }) = g (some a))
    (s : Pass) (id n : AnnotatedId) :
    g ((s.identify id).annotations.get? n) = g (s.annotations.get? n) := by
  cases found : s.annotations.get? id with
  | none =>
      have same : s.identify id = s := by rw [identify, found]
      rw [same]
  | some a =>
      rcases identify_cases found with ⟨-, same⟩ | ⟨fresh, needed⟩
      · rw [same]
      · rw [get?_identify found fresh needed]
        cases s.annotations.get? n with
        | none => rfl
        | some b => exact blind b _ _

theorem get?_of_identify {n : AnnotatedId} {b : AnnotatedNode}
    (after : (s.identify id).annotations.get? n = some b) :
    ∃ a query identifier, s.annotations.get? n = some a ∧
      b = { a with hasQuery := query, identifier } ∧ (n ≠ id → identifier = a.identifier) := by
  cases found : s.annotations.get? id with
  | none =>
      have same : s.identify id = s := by rw [identify, found]
      rw [same] at after
      exact ⟨b, b.hasQuery, b.identifier, after, rfl, fun _ => rfl⟩
  | some a =>
      rcases identify_cases found with ⟨-, same⟩ | ⟨fresh, needed⟩
      · rw [same] at after
        exact ⟨b, b.hasQuery, b.identifier, after, rfl, fun _ => rfl⟩
      · rw [get?_identify found fresh needed] at after
        obtain ⟨c, before, rfl⟩ := Option.map_eq_some_iff.1 after
        exact ⟨c, _, _, before, rfl, fun other => if_neg (Ne.symm other)⟩

section Blind
variable (s : Pass) (id n : AnnotatedId)

@[simp] theorem parent?_identify :
    (s.identify id).annotations.parent? n = s.annotations.parent? n :=
  apply_get?_identify (·.bind AnnotatedNode.parent) (fun _ _ _ => rfl) s id n

@[simp] theorem children_identify :
    (s.identify id).annotations.children n = s.annotations.children n := by
  rw [AnnotatedTree.children_eq_map, AnnotatedTree.children_eq_map]
  exact apply_get?_identify (fun found => (found.map AnnotatedNode.children).getD [])
    (fun _ _ _ => rfl) s id n

@[simp] theorem buildsChildren_identify :
    (s.identify id).annotations.buildsChildren n = s.annotations.buildsChildren n := by
  rw [AnnotatedTree.buildsChildren_eq_map, AnnotatedTree.buildsChildren_eq_map]
  exact apply_get?_identify (fun found => (found.map AnnotatedNode.buildsChildren).getD false)
    (fun _ _ _ => rfl) s id n

@[simp] theorem isPlaceholder_identify :
    (s.identify id).annotations.isPlaceholder n = s.annotations.isPlaceholder n :=
  apply_get?_identify (·.any AnnotatedNode.isPlaceholder) (fun _ _ _ => rfl) s id n

@[simp] theorem element?_identify :
    (s.identify id).annotations.element? n = s.annotations.element? n :=
  apply_get?_identify (·.bind fun a => if a.isText then none else some a.source)
    (fun _ _ _ => rfl) s id n

@[simp] theorem isBuilt_identify :
    (s.identify id).annotations.isBuilt n = s.annotations.isBuilt n := by
  simp only [AnnotatedTree.isBuilt, parent?_identify, buildsChildren_identify]

end Blind

@[simp] theorem nearestBuilt?_identify (s : Pass) (id n : AnnotatedId) :
    (s.identify id).annotations.nearestBuilt? n = s.annotations.nearestBuilt? n := by
  have same : (s.identify id).annotations.ancestors n = s.annotations.ancestors n :=
    AnnotatedTree.ancestors_congr fun m _ => s.parent?_identify id m
  rw [AnnotatedTree.nearestBuilt?, AnnotatedTree.nearestBuilt?, same,
    funext (s.isBuilt_identify id)]

theorem hasQuery_identify (found : s.annotations.get? id = some a) (fresh : a.identifier = none)
    (needed : a.needsIdentifier = true) (n : AnnotatedId) :
    (s.identify id).annotations.hasQuery n = true ↔
      s.annotations.hasQuery n = true ∨ s.annotations.nearestBuilt? id = some n := by
  rw [AnnotatedTree.hasQuery, AnnotatedTree.hasQuery, get?_identify found fresh needed]
  cases holds : s.annotations.get? n with
  | none =>
      -- What is marked is above `id`, and so in the tree.
      have unmarked : s.annotations.nearestBuilt? id ≠ some n := fun marked => by
        have inside := Nat.lt_trans (AnnotatedTree.lt_of_nearestBuilt? marked)
          (AnnotatedTree.lt_size_of_get? found)
        obtain ⟨b, present⟩ := AnnotatedTree.get?_isSome inside
        rw [holds] at present
        cases present
      simp [unmarked]
  | some b => simp

theorem isNumbered_identify (found : s.annotations.get? id = some a) (fresh : a.identifier = none)
    (needed : a.needsIdentifier = true) (element : a.isText = false) (n : AnnotatedId) :
    (s.identify id).annotations.isNumbered n = true ↔
      s.annotations.isNumbered n = true ∨ n = id := by
  have root : a.isRoot = false := by
    rw [AnnotatedNode.needsIdentifier_eq, Bool.and_eq_true, Bool.not_eq_true'] at needed
    exact needed.1
  rw [AnnotatedTree.isNumbered, AnnotatedTree.isNumbered, get?_identify found fresh needed]
  by_cases same : id = n
  · subst same
    rw [found, Option.map_some, Option.any_some, if_pos rfl]
    simp only [or_true, iff_true]
    change (true && !a.isRoot && !a.isText) = true
    rw [root, element]
    rfl
  · have different : n ≠ id := Ne.symm same
    simp only [if_neg same, different, or_false]
    cases s.annotations.get? n <;> rfl

@[simp] theorem size_identify (s : Pass) (id : AnnotatedId) :
    (s.identify id).annotations.nodes.size = s.annotations.nodes.size := by
  unfold identify
  split
  · rfl
  · split
    · rfl
    · rw [annotations_number, AnnotatedTree.size_update, size_markQuery]

@[simp] theorem root_identify (s : Pass) (id : AnnotatedId) :
    (s.identify id).annotations.root = s.annotations.root := by
  unfold identify
  split
  · rfl
  · split
    · rfl
    · rw [annotations_number, AnnotatedTree.root_update, root_markQuery]

end Pass
end ComponentMarkup
