import ComponentMarkup.Proofs.Forest
import Mathlib.Data.List.Nodup

/-!
Documents whose nodes form finite trees, and the forests below their nodes.
-/

namespace ComponentMarkup.Document

/-- Parents and children agree, no node is a child twice, and every node is one level below its
parent, so that no chain of parents comes back to where it started. -/
structure WellFormed (d : Document) : Prop where
  linked : ∀ parent child, child ∈ d.children parent ↔ d.parent? child = some parent
  distinct : ∀ parent, (d.children parent).Nodup
  leveled : ∃ level : NodeId → Nat,
    ∀ child parent, d.parent? child = some parent → level child = level parent + 1

/-- What has to be checked, of finitely many nodes, for a document to be well-formed. -/
def Checked (d : Document) (level : NodeId → Nat) : Prop :=
  ∀ n < d.size,
    (∀ child ∈ d.children n, d.parent? child = some n) ∧ (d.children n).Nodup ∧
      ∀ parent ∈ d.parent? n, n ∈ d.children parent ∧ level n = level parent + 1

instance (d : Document) (level : NodeId → Nat) : Decidable (d.Checked level) := by
  unfold Checked
  infer_instance

theorem children_eq_nil {d : Document} {n : NodeId} (outside : d.size ≤ n) : d.children n = [] := by
  simp only [children, node?, Array.getElem?_eq_none outside]

theorem parent?_eq_none {d : Document} {n : NodeId} (outside : d.size ≤ n) :
    d.parent? n = none := by
  simp only [parent?, node?, Array.getElem?_eq_none outside, Option.bind_none]

theorem lt_size_of_parent? {d : Document} {child parent : NodeId}
    (above : d.parent? child = some parent) : child < d.size := by
  by_contra outside
  rw [parent?_eq_none (Nat.le_of_not_lt outside)] at above
  cases above

theorem lt_size_of_mem_children {d : Document} {child parent : NodeId}
    (member : child ∈ d.children parent) : parent < d.size := by
  by_contra outside
  rw [children_eq_nil (Nat.le_of_not_lt outside)] at member
  cases member

theorem WellFormed.of_checked {d : Document} {level : NodeId → Nat} (checked : d.Checked level) :
    d.WellFormed := by
  refine ⟨fun parent child => ⟨?_, ?_⟩, fun parent => ?_, level, ?_⟩
  · intro member
    exact (checked parent (lt_size_of_mem_children member)).1 child member
  · intro above
    exact ((checked child (lt_size_of_parent? above)).2.2 parent above).1
  · by_cases inside : parent < d.size
    · exact (checked parent inside).2.1
    · rw [children_eq_nil (Nat.le_of_not_lt inside)]
      exact List.nodup_nil
  · intro child parent above
    exact ((checked child (lt_size_of_parent? above)).2.2 parent above).2

/-! ## Forests of well-formed documents -/

/-- The node reached by going up a number of times. -/
def above (d : Document) : Nat → NodeId → Option NodeId
  | 0, n => some n
  | steps + 1, n => (d.above steps n).bind d.parent?

theorem above_succ_eq_none {d : Document} {n : NodeId} (top : d.parent? n = none) (steps : Nat) :
    d.above (steps + 1) n = none := by
  induction steps with
  | zero => exact top
  | succ steps ih => rw [above, ih, Option.bind_none]

variable {d : Document} {level : NodeId → Nat}

section Levels
variable (linked : ∀ parent child, child ∈ d.children parent ↔ d.parent? child = some parent)
  (leveled : ∀ child parent, d.parent? child = some parent → level child = level parent + 1)
include linked leveled

theorem level_of_mem_children {child parent : NodeId} (member : child ∈ d.children parent) :
    level child = level parent + 1 :=
  leveled child parent ((linked parent child).1 member)

/-- A node of an unfolding lies below one of the nodes it starts from, as many steps as the levels
are apart. -/
theorem above_of_mem_unfold {levels base : Nat} {ids : List NodeId}
    (based : ∀ id ∈ ids, level id = base) {n : NodeId}
    (member : n ∈ (Forest.unfold d.children levels ids).preorder) :
    ∃ steps, level n = base + steps ∧ ∃ id ∈ ids, d.above steps n = some id := by
  induction levels generalizing base ids with
  | zero => cases member
  | succ levels ih =>
      simp only [Forest.unfold] at member
      induction ids with
      | nil => cases member
      | cons id ids ihIds =>
          simp only [List.foldr_cons, Forest.preorder, List.mem_cons, List.mem_append] at member
          rcases member with rfl | below | later
          · exact ⟨0, based n List.mem_cons_self, n, List.mem_cons_self, rfl⟩
          · have deeper : ∀ child ∈ d.children id, level child = base + 1 := by
              intro child member
              rw [level_of_mem_children linked leveled member, based id List.mem_cons_self]
            obtain ⟨steps, level_eq, child, member, reached⟩ := ih deeper below
            refine ⟨steps + 1, by omega, id, List.mem_cons_self, ?_⟩
            rw [above, reached, Option.bind_some, (linked id child).1 member]
          · obtain ⟨steps, level_eq, other, member, reached⟩ :=
              ihIds (fun other member => based other (List.mem_cons_of_mem _ member)) later
            exact ⟨steps, level_eq, other, List.mem_cons_of_mem _ member, reached⟩

theorem nodup_unfold (distinct : ∀ parent, (d.children parent).Nodup) {levels base : Nat}
    {ids : List NodeId} (nodup : ids.Nodup) (based : ∀ id ∈ ids, level id = base) :
    (Forest.unfold d.children levels ids).preorder.Nodup := by
  induction levels generalizing base ids with
  | zero => exact List.nodup_nil
  | succ levels ih =>
      have start : Forest.unfold d.children (levels + 1) ids = ids.foldr
          (fun id rest => .cons id (Forest.unfold d.children levels (d.children id)) rest) .nil :=
        rfl
      rw [start]
      induction ids with
      | nil => exact List.nodup_nil
      | cons id ids ihIds =>
          obtain ⟨fresh, nodupRest⟩ := List.nodup_cons.1 nodup
          have basedRest : ∀ other ∈ ids, level other = base := fun other member =>
            based other (List.mem_cons_of_mem _ member)
          have deeper : ∀ child ∈ d.children id, level child = base + 1 := by
            intro child member
            rw [level_of_mem_children linked leveled member, based id List.mem_cons_self]
          have ofRest {n : NodeId} (member : n ∈ (Forest.unfold d.children (levels + 1) ids).preorder) :=
            above_of_mem_unfold linked leveled basedRest member
          have ofBelow {n : NodeId}
              (member : n ∈ (Forest.unfold d.children levels (d.children id)).preorder) :=
            above_of_mem_unfold linked leveled deeper member
          rw [List.foldr_cons, Forest.preorder, List.nodup_cons, List.nodup_append]
          refine ⟨?_, ih (distinct id) deeper, ihIds nodupRest basedRest rfl, ?_⟩
          · rw [List.mem_append]
            rintro (below | later)
            · obtain ⟨steps, level_eq, -⟩ := ofBelow below
              have := based id List.mem_cons_self
              omega
            · obtain ⟨steps, level_eq, other, member, reached⟩ := ofRest later
              have : steps = 0 := by
                have := based id List.mem_cons_self
                omega
              subst this
              exact fresh (Option.some.inj reached ▸ member)
          · -- A node below both would reach `id` and another start in the same number of steps.
            intro n below m later same
            subst same
            obtain ⟨steps, level_eq, child, childMember, reachedChild⟩ := ofBelow below
            obtain ⟨steps', level_eq', other, member, reached⟩ := ofRest later
            have : steps' = steps + 1 := by omega
            subst this
            rw [above, reachedChild, Option.bind_some, (linked id child).1 childMember] at reached
            exact fresh (Option.some.inj reached ▸ member)

end Levels

/-- The forest from a node of a well-formed document has all that is below the node, once. -/
theorem WellFormed.forest_spec (wellFormed : d.WellFormed) {id : NodeId} (inside : id < d.size) :
    (d.forest id).tops = [id] ∧ (d.forest id).Follows d.children ∧ (d.forest id).preorder.Nodup ∧
      ∀ n ∈ (d.forest id).preorder, n < d.size := by
  obtain ⟨level, leveled⟩ := wellFormed.leveled
  have based : ∀ n ∈ [id], level n = level id := by simp
  have whole {levels : Nat} :
      (Forest.unfold d.children levels [id]).preorder.Nodup ∧
        ∀ n ∈ (Forest.unfold d.children levels [id]).preorder, n < d.size := by
    refine ⟨nodup_unfold wellFormed.linked leveled wellFormed.distinct (List.nodup_singleton id)
      based, fun n member => ?_⟩
    obtain ⟨steps, -, other, isId, reached⟩ :=
      above_of_mem_unfold wellFormed.linked leveled based member
    cases steps with
    | zero => rw [Option.some.inj reached, List.mem_singleton.1 isId]; exact inside
    | succ steps =>
        by_contra outside
        rw [above_succ_eq_none (parent?_eq_none (Nat.le_of_not_lt outside))] at reached
        cases reached
  have follows : (Forest.unfold d.children (d.size + 1) [id]).Follows d.children :=
    Forest.follows_unfold (Nat.lt_succ_of_le (Forest.depth_le_of_nodup whole.1 whole.2))
  have tops : (Forest.unfold d.children (d.size + 1) [id]).tops = [id] :=
    Forest.tops_unfold_succ _ _ _
  have same : d.forest id = Forest.unfold d.children (d.size + 1) [id] := by
    have := Forest.unfold_eq_of_follows follows (Forest.depth_le_of_nodup whole.1 whole.2)
    rw [tops] at this
    rw [forest, Forest.forestTo_eq_unfold, this]
  rw [same]
  exact ⟨tops, follows, whole.1, whole.2⟩

end ComponentMarkup.Document
