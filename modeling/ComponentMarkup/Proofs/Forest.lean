import ComponentMarkup.Annotated.Tree

/-!
Forests of numbered nodes: the orders in which they are read, and the forest that a table of
children unfolds to.
-/

namespace ComponentMarkup.Forest

/-! ## Orders -/

/-- The trees of one forest, then those of another. -/
def append : Forest → Forest → Forest
  | .nil, g => g
  | .cons node below rest, g => .cons node below (rest.append g)

/-- Nodes with nothing below them. -/
def leaves (ids : List NodeId) : Forest := ids.foldr (fun id rest => .cons id .nil rest) .nil

/-- Every node behind those below it, and those behind its earlier siblings. -/
def postorder : Forest → List NodeId
  | .nil => []
  | .cons node below rest => below.postorder ++ node :: rest.postorder

/-- The number of nodes on a longest way down. -/
def depth : Forest → Nat
  | .nil => 0
  | .cons _ below rest => max (below.depth + 1) rest.depth

@[simp] theorem tops_append (f g : Forest) : (f.append g).tops = f.tops ++ g.tops := by
  induction f with
  | nil => rfl
  | cons node below rest _ ih => simp [append, tops, ih]

@[simp] theorem preorder_append (f g : Forest) :
    (f.append g).preorder = f.preorder ++ g.preorder := by
  induction f with
  | nil => rfl
  | cons node below rest _ ih => simp [append, preorder, ih]

@[simp] theorem postorder_append (f g : Forest) :
    (f.append g).postorder = f.postorder ++ g.postorder := by
  induction f with
  | nil => rfl
  | cons node below rest _ ih => simp [append, postorder, ih]

@[simp] theorem tops_leaves (ids : List NodeId) : (leaves ids).tops = ids := by
  induction ids with
  | nil => rfl
  | cons id ids ih =>
      change id :: (leaves ids).tops = id :: ids
      rw [ih]

@[simp] theorem preorder_leaves (ids : List NodeId) : (leaves ids).preorder = ids := by
  induction ids with
  | nil => rfl
  | cons id ids ih =>
      change id :: (leaves ids).preorder = id :: ids
      rw [ih]

theorem postorder_perm_preorder (f : Forest) : f.postorder.Perm f.preorder := by
  induction f with
  | nil => exact .nil
  | cons node below rest ihBelow ihRest =>
      simp only [postorder, preorder]
      exact List.perm_middle.trans ((ihBelow.append ihRest).cons node)

theorem mem_preorder_of_mem_tops {f : Forest} {node : NodeId} (member : node ∈ f.tops) :
    node ∈ f.preorder := by
  induction f with
  | nil => cases member
  | cons first below rest _ ih =>
      simp only [tops, List.mem_cons] at member
      rcases member with rfl | member
      · exact List.mem_cons_self
      · exact List.mem_cons_of_mem _ (List.mem_append_right _ (ih member))

theorem depth_le_length_preorder (f : Forest) : f.depth ≤ f.preorder.length := by
  induction f with
  | nil => exact Nat.le_refl 0
  | cons node below rest ihBelow ihRest =>
      simp only [depth, preorder, List.length_cons, List.length_append]
      omega

theorem depth_le_of_nodup {f : Forest} {bound : Nat} (distinct : f.preorder.Nodup)
    (bounded : ∀ node ∈ f.preorder, node < bound) : f.depth ≤ bound := by
  have fits : f.preorder.length ≤ (List.range bound).length :=
    distinct.length_le_of_subset fun node member => List.mem_range.2 (bounded node member)
  rw [List.length_range] at fits
  exact Nat.le_trans f.depth_le_length_preorder fits

/-! ## Unfolding a table of children -/

/-- The nodes `ids` with what `children` puts below them, down to a number of levels. -/
def unfold (children : NodeId → List NodeId) : Nat → List NodeId → Forest
  | 0, _ => .nil
  | levels + 1, ids =>
      ids.foldr (fun id rest => .cons id (unfold children levels (children id)) rest) .nil

theorem forestTo_eq_unfold (d : Document) (levels : Nat) (ids : List NodeId) :
    d.forestTo levels ids = unfold d.children levels ids := by
  induction levels generalizing ids with
  | zero => rfl
  | succ levels ih => simp only [Document.forestTo, unfold, ih]

theorem annotatedForestTo_eq_unfold (t : AnnotatedTree) (levels : Nat) (ids : List AnnotatedId) :
    t.forestTo levels ids = unfold t.children levels ids := by
  induction levels generalizing ids with
  | zero => rfl
  | succ levels ih => simp only [AnnotatedTree.forestTo, unfold, ih]

/-- Below each node stand exactly its children. -/
def Follows (children : NodeId → List NodeId) : Forest → Prop
  | .nil => True
  | .cons node below rest =>
      below.tops = children node ∧ below.Follows children ∧ rest.Follows children

theorem tops_unfold_succ (children : NodeId → List NodeId) (levels : Nat) (ids : List NodeId) :
    (unfold children (levels + 1) ids).tops = ids := by
  simp only [unfold]
  induction ids with
  | nil => rfl
  | cons id ids ih => rw [List.foldr_cons, tops, ih]

/-- A forest that follows the children is what they unfold to. -/
theorem unfold_eq_of_follows {children : NodeId → List NodeId} {levels : Nat} {f : Forest}
    (follows : f.Follows children) (enough : f.depth ≤ levels) :
    unfold children levels f.tops = f := by
  induction levels generalizing f with
  | zero =>
      cases f with
      | nil => rfl
      | cons node below rest => simp [depth] at enough
  | succ levels ih =>
      induction f with
      | nil => rfl
      | cons node below rest _ ihRest =>
          obtain ⟨tops_eq, followsBelow, followsRest⟩ := follows
          simp only [depth] at enough
          have restEq := ihRest followsRest (by omega)
          simp only [unfold] at restEq
          simp only [unfold, tops, List.foldr_cons, restEq, ← tops_eq,
            ih followsBelow (by omega)]

/-- Levels that are not used up cut nothing off. -/
theorem follows_unfold {children : NodeId → List NodeId} {levels : Nat} {ids : List NodeId}
    (spare : (unfold children levels ids).depth < levels) :
    (unfold children levels ids).Follows children := by
  induction levels generalizing ids with
  | zero => exact absurd spare (Nat.not_lt_zero _)
  | succ levels ih =>
      simp only [unfold] at spare ⊢
      induction ids with
      | nil => trivial
      | cons id ids ihIds =>
          simp only [List.foldr_cons, depth] at spare ⊢
          have spareBelow : (unfold children levels (children id)).depth < levels := by omega
          refine ⟨?_, ih spareBelow, ihIds (by omega)⟩
          cases levels with
          | zero => exact absurd spareBelow (Nat.not_lt_zero _)
          | succ levels => exact tops_unfold_succ children levels _

/-- Where children have larger numbers than their parents, nothing that is unfolded has a smaller one
than what it starts from. -/
theorem le_of_mem_unfold {children : NodeId → List NodeId} {levels bound : Nat} {ids : List NodeId}
    (ordered : ∀ parent, ∀ child ∈ children parent, parent < child)
    (starts : ∀ id ∈ ids, bound ≤ id) : ∀ n ∈ (unfold children levels ids).preorder, bound ≤ n := by
  induction levels generalizing ids with
  | zero => exact fun n impossible => absurd impossible List.not_mem_nil
  | succ levels ih =>
      simp only [unfold]
      induction ids with
      | nil => exact fun n impossible => absurd impossible List.not_mem_nil
      | cons id ids ihIds =>
          have here := starts id List.mem_cons_self
          intro n member
          simp only [List.foldr_cons, preorder, List.mem_cons, List.mem_append] at member
          rcases member with rfl | below | later
          · exact here
          · exact ih (fun child isChild => Nat.le_trans here (Nat.le_of_lt (ordered id child isChild)))
              n below
          · exact ihIds (fun other member => starts other (List.mem_cons_of_mem _ member)) n later

/-! ## Forests that follow the children -/

section Follows
variable {children children' : NodeId → List NodeId} {f g below rest : Forest}
  {node n child : NodeId}

theorem follows_leaves {ids : List NodeId} (childless : ∀ id ∈ ids, children id = []) :
    (leaves ids).Follows children := by
  induction ids with
  | nil => trivial
  | cons id ids ih =>
      exact ⟨(childless id List.mem_cons_self).symm, trivial,
        ih fun other member => childless other (List.mem_cons_of_mem _ member)⟩

theorem eq_of_follows (first : f.Follows children) (second : g.Follows children)
    (tops : f.tops = g.tops) : f = g := by
  have left := unfold_eq_of_follows first (Nat.le_max_left f.depth g.depth)
  have right := unfold_eq_of_follows second (Nat.le_max_right f.depth g.depth)
  rw [tops] at left
  exact left.symm.trans right

theorem Follows.append (left : f.Follows children) (right : g.Follows children) :
    (f.append g).Follows children := by
  induction f with
  | nil => exact right
  | cons node below rest _ ih => exact ⟨left.1, left.2.1, ih left.2.2⟩

theorem Follows.left (follows : (f.append g).Follows children) : f.Follows children := by
  induction f with
  | nil => trivial
  | cons node below rest _ ih => exact ⟨follows.1, follows.2.1, ih follows.2.2⟩

theorem Follows.right (follows : (f.append g).Follows children) : g.Follows children := by
  induction f with
  | nil => exact follows
  | cons node below rest _ ih => exact ih follows.2.2

theorem Follows.congr (follows : f.Follows children)
    (same : ∀ node ∈ f.preorder, children' node = children node) : f.Follows children' := by
  induction f with
  | nil => trivial
  | cons node below rest ihBelow ihRest =>
      obtain ⟨tops_eq, followsBelow, followsRest⟩ := follows
      simp only [preorder, List.mem_cons, List.mem_append] at same
      exact ⟨tops_eq.trans (same node (.inl rfl)).symm,
        ihBelow followsBelow fun other member => same other (.inr (.inl member)),
        ihRest followsRest fun other member => same other (.inr (.inr member))⟩

theorem Follows.mem_of_mem_children (follows : f.Follows children) (member : n ∈ f.preorder)
    (isChild : child ∈ children n) : child ∈ f.preorder := by
  induction f with
  | nil => cases member
  | cons node below rest ihBelow ihRest =>
      obtain ⟨tops, followsBelow, followsRest⟩ := follows
      simp only [preorder, List.mem_cons, List.mem_append] at member ⊢
      rcases member with rfl | member | member
      · rw [← tops] at isChild
        exact .inr (.inl (mem_preorder_of_mem_tops isChild))
      · exact .inr (.inl (ihBelow followsBelow member))
      · exact .inr (.inr (ihRest followsRest member))

theorem Follows.top_or_child (follows : f.Follows children) (member : n ∈ f.preorder) :
    n ∈ f.tops ∨ ∃ q ∈ f.preorder, n ∈ children q := by
  induction f with
  | nil => cases member
  | cons node below rest ihBelow ihRest =>
      obtain ⟨tops, followsBelow, followsRest⟩ := follows
      simp only [Forest.tops, preorder, List.mem_cons, List.mem_append] at member ⊢
      rcases member with rfl | member | member
      · exact .inl (.inl rfl)
      · right
        rcases ihBelow followsBelow member with top | ⟨q, inBelow, child⟩
        · exact ⟨node, .inl rfl, tops ▸ top⟩
        · exact ⟨q, .inr (.inl inBelow), child⟩
      · rcases ihRest followsRest member with top | ⟨q, inRest, child⟩
        · exact .inl (.inr top)
        · exact .inr ⟨q, .inr (.inr inRest), child⟩

theorem mem_preorder_tree : n ∈ (cons node below .nil).preorder ↔ n = node ∨ n ∈ below.preorder := by
  rw [preorder, preorder, List.append_nil, List.mem_cons]

theorem mem_preorder_of_tree (member : n ∈ (cons node below .nil).preorder) :
    n ∈ (cons node below rest).preorder := by
  rw [mem_preorder_tree] at member
  rw [preorder, List.mem_cons, List.mem_append]
  exact member.imp_right .inl

section Tree
variable (follows : (cons node below rest).Follows children)
include follows

theorem Follows.child_mem_below (member : n ∈ (cons node below .nil).preorder)
    (isChild : child ∈ children n) : child ∈ below.preorder := by
  rcases mem_preorder_tree.1 member with rfl | member
  · rw [← follows.1] at isChild
    exact mem_preorder_of_mem_tops isChild
  · exact follows.2.1.mem_of_mem_children member isChild

theorem Follows.exists_parent (member : n ∈ below.preorder) :
    ∃ q ∈ (cons node below .nil).preorder, n ∈ children q := by
  rcases follows.2.1.top_or_child member with top | ⟨q, inBelow, isChild⟩
  · exact ⟨node, mem_preorder_tree.2 (.inl rfl), follows.1 ▸ top⟩
  · exact ⟨q, mem_preorder_tree.2 (.inr inBelow), isChild⟩

end Tree
end Follows

end ComponentMarkup.Forest
