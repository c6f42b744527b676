import ComponentMarkup.Proofs.Annotated.Entry

/-!
What a text turns into: nothing, one annotation for its own node, or a row of new nodes with at
least one placeholder.
-/

namespace ComponentMarkup

/-- A text: nothing is below it and no flag is set. -/
structure AnnotatedNode.IsShown (a : AnnotatedNode) : Prop where
  isText : a.isText = true
  stripped : a.stripped = []
  children : a.children = []
  hasDataBinding : a.hasDataBinding = false
  buildsChildren : a.buildsChildren = false
  hasQuery : a.hasQuery = false

namespace Pass

/-- Literals and placeholders that are added behind the children of `parent`. -/
inductive Pieces (parent : AnnotatedId) (s : Pass) : Pass → Prop
  | refl : Pieces parent s s
  | literal {t : Pass} (pieces : Pieces parent s t) (contents : String) (position : Position) :
      Pieces parent s ((t.addText contents position).2.annotate t.document.size (some parent)
        (.text none)).2
  | placeholder {t : Pass} (pieces : Pieces parent s t) (position : Position)
      (expr : Binding.Expr) : Pieces parent s (t.addPlaceholder parent position expr)

variable {s t u : Pass} {parent : AnnotatedId} {keepBlanks : Bool} {position : Position}

theorem Pieces.trans (first : Pieces parent s t) (second : Pieces parent t u) :
    Pieces parent s u := by
  induction second with
  | refl => exact first
  | literal _ contents position ih => exact ih.literal contents position
  | placeholder _ position expr ih => exact ih.placeholder position expr

theorem pieces_addLiteral (s : Pass) (text : String) :
    Pieces parent s (s.addLiteral parent keepBlanks position text) := by
  unfold addLiteral
  dsimp only
  split
  · exact .refl
  · exact Pieces.refl.literal _ _

theorem pieces_addAll (s : Pass) (bound : List (String × Binding.Expr)) :
    Pieces parent s (bound.foldl (fun s (text, expr) =>
      (s.addLiteral parent keepBlanks position text).addPlaceholder parent position expr) s) := by
  induction bound generalizing s with
  | nil => exact .refl
  | cons segment bound ih =>
      exact ((pieces_addLiteral s segment.1).placeholder position segment.2).trans (ih _)

/-- A text that holds a binding is cut into pieces. -/
theorem pieces_splitText (s : Pass) {segments : Binding.Segments}
    (bound : segments.bound.isEmpty = false) : ∃ m expr, Pieces parent s m ∧
      Pieces parent (m.addPlaceholder parent position expr)
        (s.splitText parent keepBlanks position segments) := by
  obtain ⟨all, tail⟩ := segments
  cases all with
  | nil => cases bound
  | cons segment all =>
      exact ⟨_, segment.2, pieces_addLiteral s segment.1,
        (pieces_addAll _ all).trans (pieces_addLiteral _ tail)⟩

variable {around : Surroundings} {text : String}

theorem visitText_of_none (s : Pass) (node : NodeId) (top : around.parent = none) :
    s.visitText around node text = s := by
  rw [visitText, top]

theorem visitText_of_unbound (s : Pass) (node : NodeId) (under : around.parent = some parent)
    (unbound : Binding.hasBinding text = false) :
    ∃ m, (m = s ∨ ∃ shown, m = s.mapDocument (·.setText node shown)) ∧
      (s.visitText around node text = m ∨
        s.visitText around node text = (m.annotate node (some parent) (.text none)).2) := by
  have whole : s.visitText around node text = s.showText node parent around.keepBlanks text := by
    rw [visitText, under]
    exact if_pos ((Binding.isEmpty_bound_scan text).trans (by rw [unbound]; rfl))
  rw [whole, showText]
  refine ⟨if (shownText around.keepBlanks text == text) = true then s
    else s.mapDocument (·.setText node (shownText around.keepBlanks text)), ?_, ?_⟩
  · split
    · exact .inl rfl
    · exact .inr ⟨_, rfl⟩
  · split
    · exact .inl rfl
    · exact .inr rfl

theorem visitText_of_bound (s : Pass) (node : NodeId) (under : around.parent = some parent)
    (bound : Binding.hasBinding text = true) :
    ∃ m position expr, Pieces parent (s.takeOverChildren parent) m ∧
      Pieces parent (m.addPlaceholder parent position expr) (s.visitText around node text) := by
  have found : (Binding.scan text).bound.isEmpty = false := by
    rw [Binding.isEmpty_bound_scan, bound]
    rfl
  have whole : s.visitText around node text = (s.takeOverChildren parent).splitText parent
      around.keepBlanks (s.document.position node) (Binding.scan text) := by
    rw [visitText, under]
    exact if_neg (by rw [found]; exact Bool.false_ne_true)
  obtain ⟨m, expr, first, second⟩ :=
    pieces_splitText (s.takeOverChildren parent) found
  exact ⟨m, _, expr, first, whole ▸ second⟩

/-! ## Placeholders -/

section Placeholder
variable (s parent position) (expr : Binding.Expr)

theorem annotations_addPlaceholder : (s.addPlaceholder parent position expr).annotations =
    (s.annotations.add s.document.size (some parent) (.text (some expr))).2.update
      s.annotations.nodes.size fun a => { a with identifier := some (textIdentifier s.counter) } :=
  rfl

@[simp] theorem document_addPlaceholder : (s.addPlaceholder parent position expr).document =
    (s.document.createText "" position).2 := rfl

@[simp] theorem counter_addPlaceholder :
    (s.addPlaceholder parent position expr).counter = s.counter + 1 := rfl

end Placeholder

theorem Pieces.size_le (pieces : Pieces parent s t) :
    s.annotations.nodes.size ≤ t.annotations.nodes.size := by
  induction pieces with
  | refl => exact Nat.le_refl _
  | literal _ contents position ih =>
      rw [annotations_annotate, AnnotatedTree.size_add]
      exact Nat.le_succ_of_le ih
  | placeholder _ position expr ih =>
      rw [annotations_addPlaceholder, AnnotatedTree.size_update, AnnotatedTree.size_add]
      exact Nat.le_succ_of_le ih

theorem size_visitText (s : Pass) (around : Surroundings) (node : NodeId) (text : String) :
    s.annotations.nodes.size ≤ (s.visitText around node text).annotations.nodes.size := by
  cases under : around.parent with
  | none => exact Nat.le_of_eq (by rw [visitText_of_none s node under])
  | some parent =>
      cases bound : Binding.hasBinding text with
      | true =>
          obtain ⟨m, position, expr, first, second⟩ := visitText_of_bound s node under bound
          have taken := first.size_le
          have placed := (Pieces.refl.placeholder position expr : Pieces parent m _).size_le
          rw [takeOverChildren, annotations_update, AnnotatedTree.size_update] at taken
          exact Nat.le_trans taken (Nat.le_trans placed second.size_le)
      | false =>
          obtain ⟨m, same, shown⟩ := visitText_of_unbound s node under bound
          have kept : m.annotations = s.annotations := by
            rcases same with rfl | ⟨_, rfl⟩ <;> rfl
          rcases shown with shown | shown
          · exact Nat.le_of_eq (by rw [shown, kept])
          · rw [shown, annotations_annotate, AnnotatedTree.size_add, kept]
            exact Nat.le_succ _

/-! ## What a text changes -/

/-- `t` is `s` with texts below the annotation `parent`, where `node` may hold another text. -/
structure Shows (node : NodeId) (s t : Pass) : Prop where
  size : s.document.size ≤ t.document.size
  document : ∀ n < s.document.size, n ≠ node → t.document.node? n = s.document.node? n
  children : ∀ n < s.document.size, t.document.children n = s.document.children n
  tags : ∀ n < s.document.size, t.document.tag? n = s.document.tag? n
  grows : s.annotations.nodes.size ≤ t.annotations.nodes.size
  new : ∀ id a, s.annotations.nodes.size ≤ id → t.annotations.get? id = some a → a.IsShown
  hasQuery : ∀ id, t.annotations.hasQuery id = s.annotations.hasQuery id

namespace Shows
variable {node : NodeId}

theorem refl (node : NodeId) (s : Pass) : Shows node s s where
  size := Nat.le_refl _
  document _ _ _ := rfl
  children _ _ := rfl
  tags _ _ := rfl
  grows := Nat.le_refl _
  new _ _ isNew found := absurd (AnnotatedTree.lt_size_of_get? found) (Nat.not_lt_of_ge isNew)
  hasQuery _ := rfl

theorem setText (node : NodeId) (s : Pass) (contents : String) :
    Shows node s (s.mapDocument (·.setText node contents)) where
  size := Nat.le_of_eq (s.document.size_setText node contents).symm
  document _ _ other := s.document.node?_setText_of_ne contents other
  children n _ := s.document.children_setText node n contents
  tags n _ := s.document.tag?_setText node n contents
  grows := Nat.le_refl _
  new _ _ isNew found := absurd (AnnotatedTree.lt_size_of_get? found) (Nat.not_lt_of_ge isNew)
  hasQuery _ := rfl

theorem takeOverChildren (node : NodeId) (s : Pass) (id : AnnotatedId) :
    Shows node s (s.takeOverChildren id) where
  size := Nat.le_refl _
  document _ _ _ := rfl
  children _ _ := rfl
  tags _ _ := rfl
  grows := Nat.le_of_eq (s.annotations.size_update id _).symm
  new n a isNew found := by
    have bounded := AnnotatedTree.lt_size_of_get? found
    rw [Pass.takeOverChildren, annotations_update, AnnotatedTree.size_update] at bounded
    exact absurd bounded (Nat.not_lt_of_ge isNew)
  hasQuery n := by
    rw [Pass.takeOverChildren, annotations_update, AnnotatedTree.hasQuery_update]
    exact fun _ => rfl

theorem step (shows : Shows node s t) {id : AnnotatedId}
    (opened : t.annotations.Opened (some parent) id AnnotatedNode.IsShown u.annotations)
    (size : t.document.size ≤ u.document.size)
    (same : ∀ n < t.document.size, u.document.node? n = t.document.node? n)
    (old : parent < s.annotations.nodes.size) : Shows node s u where
  size := Nat.le_trans shows.size size
  document n inside other :=
    (same n (Nat.lt_of_lt_of_le inside shows.size)).trans (shows.document n inside other)
  children n inside :=
    (Document.children_congr (same n (Nat.lt_of_lt_of_le inside shows.size))).trans
      (shows.children n inside)
  tags n inside :=
    (Document.tag?_congr (Document.data?_congr (same n (Nat.lt_of_lt_of_le inside shows.size)))).trans
      (shows.tags n inside)
  grows := by
    rw [opened.size]
    exact Nat.le_succ_of_le shows.grows
  new n b isNew found := by
    -- An older node is changed at most by getting a child, which only `parent` does.
    by_cases isLast : n = id
    · subst isLast
      obtain ⟨a, here, holds⟩ := opened.here
      obtain rfl := Option.some.inj (here.symm.trans found)
      exact holds
    · have below : n < t.annotations.nodes.size := by
        have bounded := AnnotatedTree.lt_size_of_get? found
        rw [opened.size] at bounded
        exact Nat.lt_of_le_of_ne (Nat.le_of_lt_succ bounded) (opened.fresh ▸ isLast)
      obtain ⟨a, before⟩ := AnnotatedTree.get?_isSome below
      have notParent : some parent ≠ some n := fun isParent =>
        Nat.not_lt_of_ge isNew (Option.some.inj isParent ▸ old)
      obtain ⟨a', after, core, children, binding, builds, query⟩ := opened.elsewhere n a before
      obtain rfl := Option.some.inj (after.symm.trans found)
      have shown := shows.new n a isNew before
      rw [if_neg notParent] at children
      exact ⟨(AnnotatedNode.isText_of_core core).trans shown.isText,
        (AnnotatedNode.stripped_of_core core).trans shown.stripped, children.trans shown.children,
        binding.trans shown.hasDataBinding, builds.trans shown.buildsChildren,
        query.trans shown.hasQuery⟩
  hasQuery n := (opened.hasQuery_eq (fun _ shown => shown.hasQuery) n).trans (shows.hasQuery n)

theorem annotate (shows : Shows node s t) (source : NodeId)
    (old : parent < s.annotations.nodes.size) :
    Shows node s (t.annotate source (some parent) (.text none)).2 := by
  refine shows.step (.add ?_ ⟨rfl, rfl, rfl, rfl, rfl, rfl⟩) (Nat.le_refl _) (fun _ _ => rfl) old
  exact fun q isParent => Option.some.inj isParent ▸ Nat.lt_of_lt_of_le old shows.grows

theorem addText (shows : Shows node s t) (contents : String) (position : Position) :
    Shows node s (t.addText contents position).2 where
  size := Nat.le_trans shows.size
    (Nat.le_trans (Nat.le_succ _) (Nat.le_of_eq (t.document.size_add _ _).symm))
  document n inside other :=
    (t.document.node?_add_of_lt _ _ (Nat.lt_of_lt_of_le inside shows.size)).trans
      (shows.document n inside other)
  children n inside :=
    (t.document.children_add n _ _).trans (shows.children n inside)
  tags n inside :=
    (Document.tag?_congr (Document.data?_congr (t.document.node?_add_of_lt _ _
      (Nat.lt_of_lt_of_le inside shows.size)))).trans (shows.tags n inside)
  grows := shows.grows
  new := shows.new
  hasQuery := shows.hasQuery

theorem pieces (shows : Shows node s t) (pieces : Pieces parent t u)
    (old : parent < s.annotations.nodes.size) : Shows node s u := by
  induction pieces with
  | refl => exact shows
  | literal _ contents position ih => exact (ih.addText contents position).annotate _ old
  | @placeholder m _ position expr ih =>
      have opened : m.annotations.Opened (some parent) m.annotations.nodes.size
          AnnotatedNode.IsShown (m.addPlaceholder parent position expr).annotations := by
        rw [annotations_addPlaceholder]
        refine (AnnotatedTree.Opened.add (P := AnnotatedNode.IsShown) ?_
          ⟨rfl, rfl, rfl, rfl, rfl, rfl⟩).update _ fun a shown => ?_
        · exact fun q isParent => Option.some.inj isParent ▸ Nat.lt_of_lt_of_le old ih.grows
        · exact ⟨shown.isText, shown.stripped, shown.children, shown.hasDataBinding,
            shown.buildsChildren, shown.hasQuery⟩
      exact (ih.addText "" position).step opened (Nat.le_refl _) (fun _ _ => rfl) old

end Shows

theorem shows_visitText (s : Pass) (around : Surroundings) (node : NodeId) (text : String)
    (valid : ∀ q ∈ around.parent, q < s.annotations.nodes.size) :
    Shows node s (s.visitText around node text) := by
  cases under : around.parent with
  | none =>
      rw [visitText_of_none s node under]
      exact .refl node s
  | some parent =>
      have old : parent < s.annotations.nodes.size := valid parent under
      cases bound : Binding.hasBinding text with
      | true =>
          obtain ⟨m, position, expr, first, second⟩ := visitText_of_bound s node under bound
          have taken := Shows.takeOverChildren node s parent
          exact ((taken.pieces first old).pieces (Pieces.refl.placeholder position expr) old).pieces
            second old
      | false =>
          obtain ⟨m, same, shown⟩ := visitText_of_unbound s node under bound
          have kept : Shows node s m := by
            rcases same with rfl | ⟨contents, rfl⟩
            · exact .refl node _
            · exact .setText node s contents
          rcases shown with shown | shown
          · rw [shown]
            exact kept
          · rw [shown]
            exact kept.annotate node old

end Pass
end ComponentMarkup
