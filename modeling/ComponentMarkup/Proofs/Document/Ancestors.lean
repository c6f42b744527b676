import ComponentMarkup.Proofs.Document.Rework

/-!
The nodes above a node of a document, and the nodes of a document in order.
-/

namespace ComponentMarkup.Document

/-- The nodes above a node, up to a number of levels and below the root. -/
def ancestorsTo (d : Document) : Nat → NodeId → List NodeId
  | 0, _ => []
  | levels + 1, n =>
      match d.parent? n with
      | none => []
      | some parent => if parent = root then [] else parent :: d.ancestorsTo levels parent

/-- The nodes above a node, nearest first, without the root. No chain of parents in a tree is longer
than the document has nodes. -/
def ancestors (d : Document) (n : NodeId) : List NodeId := d.ancestorsTo d.size n

/-- Whether a node stands below an element with the tag. -/
def isWithin (d : Document) (n : NodeId) (tag : String) : Bool :=
  (d.ancestors n).any (d.isElement · tag)

/-- The nodes of a document in order, so far as only elements stand between them and the root. -/
def inOrder (d : Document) : List NodeId := d.reached (d.below root)

variable {d : Document} {f : Forest} {n a parent : NodeId}

/-! ## Lines -/

/-- The nodes of the list are those above `n`, each the parent of the one before it, up to one below
the root or without a parent. -/
def IsLine (d : Document) (n : NodeId) : List NodeId → Prop
  | [] => ∀ p ∈ d.parent? n, p = root
  | parent :: above => d.parent? n = some parent ∧ parent ≠ root ∧ d.IsLine parent above

namespace IsLine
variable {above above' : List NodeId}

theorem eq (line : d.IsLine n above) (line' : d.IsLine n above') : above = above' := by
  induction above generalizing n above' with
  | nil =>
      cases above' with
      | nil => rfl
      | cons parent above' => exact absurd (line parent line'.1) line'.2.1
  | cons parent above ih =>
      cases above' with
      | nil => exact absurd (line' parent line.1) line.2.1
      | cons parent' above' =>
          obtain rfl := Option.some.inj (line.1.symm.trans line'.1)
          rw [ih line.2.2 line'.2.2]

theorem of_mem {before : List NodeId} (line : d.IsLine n (before ++ a :: above)) :
    d.IsLine a above := by
  induction before generalizing n with
  | nil => exact line.2.2
  | cons parent before ih => exact ih line.2.2

/-- A line that comes back to where it started would go on for ever. -/
theorem nodup (line : d.IsLine n above) : (n :: above).Nodup := by
  induction above generalizing n with
  | nil => exact List.pairwise_singleton _ _
  | cons parent above ih =>
      refine List.nodup_cons.2 ⟨fun member => ?_, ih line.2.2⟩
      obtain ⟨before, after, split⟩ := List.append_of_mem member
      rw [split] at line
      have same := congrArg List.length (line.eq line.of_mem)
      rw [List.length_append, List.length_cons] at same
      omega

theorem lt_size (line : d.IsLine n above) : ∀ a ∈ (n :: above).dropLast, a < d.size := by
  induction above generalizing n with
  | nil => exact fun a impossible => nomatch impossible
  | cons parent above ih =>
      intro a member
      rw [List.dropLast_cons_cons, List.mem_cons] at member
      rcases member with rfl | member
      · exact lt_size_of_parent? line.1
      · exact ih line.2.2 a member

theorem ancestorsTo_eq (line : d.IsLine n above) {levels : Nat} (enough : above.length ≤ levels) :
    d.ancestorsTo levels n = above := by
  induction above generalizing n levels with
  | nil =>
      cases levels with
      | zero => rfl
      | succ levels =>
          rw [ancestorsTo]
          cases isParent : d.parent? n with
          | none => rfl
          | some parent => exact if_pos (line parent isParent)
  | cons parent above ih =>
      obtain ⟨levels, rfl⟩ := Nat.exists_eq_add_of_le' enough
      rw [List.length_cons, ← Nat.add_assoc, ancestorsTo, line.1]
      dsimp only
      rw [if_neg line.2.1, ih line.2.2 (Nat.le_add_left _ _)]

theorem ancestors_eq (line : d.IsLine n above) : d.ancestors n = above := by
  -- All but the last of the nodes have a parent, so they are different nodes of the document.
  have distinct := line.nodup.sublist (List.dropLast_sublist _)
  have fits := distinct.length_le_of_subset fun a member => List.mem_range.2 (line.lt_size a member)
  rw [List.length_dropLast, List.length_cons, List.length_range] at fits
  exact line.ancestorsTo_eq fits

end IsLine

theorem ancestors_of_top (top : d.parent? n = some root) : d.ancestors n = [] := by
  have line : d.IsLine n [] := fun p isParent => Option.some.inj (isParent.symm.trans top)
  exact line.ancestors_eq

theorem WellFormed.isLine_ancestors (wellFormed : d.WellFormed) (n : NodeId) :
    d.IsLine n (d.ancestors n) := by
  suffices line : ∃ above, d.IsLine n above by
    obtain ⟨above, line⟩ := line
    exact line.ancestors_eq.symm ▸ line
  obtain ⟨level, leveled⟩ := wellFormed.leveled
  generalize height : level n = h
  induction h generalizing n with
  | zero =>
      refine ⟨[], fun p isParent => ?_⟩
      have := leveled n p isParent
      omega
  | succ h ih =>
      cases isParent : d.parent? n with
      | none =>
          refine ⟨[], fun p impossible => ?_⟩
          rw [isParent] at impossible
          cases impossible
      | some parent =>
          by_cases top : parent = root
          · refine ⟨[], fun p other => ?_⟩
            exact (Option.some.inj (other.symm.trans isParent)).trans top
          · obtain ⟨above, line⟩ := ih parent (by have := leveled n parent isParent; omega)
            exact ⟨parent :: above, isParent, top, line⟩

theorem WellFormed.ancestors_of_parent? (wellFormed : d.WellFormed)
    (above : d.parent? n = some parent) (inner : parent ≠ root) :
    d.ancestors n = parent :: d.ancestors parent := by
  have line : d.IsLine n (parent :: d.ancestors parent) :=
    ⟨above, inner, wellFormed.isLine_ancestors parent⟩
  exact line.ancestors_eq

/-! ## Ancestors in a forest -/

section Follows
variable (wellFormed : d.WellFormed)
include wellFormed

theorem WellFormed.ancestors_of_mem_children (isChild : n ∈ d.children parent)
    (inner : parent ≠ root) : d.ancestors n = parent :: d.ancestors parent :=
  wellFormed.ancestors_of_parent? ((wellFormed.linked parent n).1 isChild) inner

/-- What is above the tops of a forest is above all its nodes. -/
theorem WellFormed.mem_ancestors_of_mem_preorder (follows : f.Follows d.children)
    (inner : root ∉ f.preorder) (tops : ∀ n ∈ f.tops, a ∈ d.ancestors n) (member : n ∈ f.preorder) :
    a ∈ d.ancestors n := by
  induction f with
  | nil => cases member
  | cons node below rest ihBelow ihRest =>
      obtain ⟨isBelow, followsBelow, followsRest⟩ := follows
      simp only [Forest.preorder, List.mem_cons, List.mem_append, not_or] at member inner
      simp only [Forest.tops, List.mem_cons, forall_eq_or_imp] at tops
      rcases member with rfl | member | member
      · exact tops.1
      · refine ihBelow followsBelow inner.2.1 (fun child isTop => ?_) member
        rw [wellFormed.ancestors_of_mem_children (isBelow ▸ isTop) (Ne.symm inner.1)]
        exact List.mem_cons_of_mem _ tops.1
      · exact ihRest followsRest inner.2.2 tops.2 member

/-! ## The nodes of a document -/

/-- What is below the root of a document follows its children and comes back to no node. -/
theorem WellFormed.below_root_spec :
    (d.below root).tops = d.children root ∧ (d.below root).Follows d.children ∧
      (d.below root).preorder.Nodup ∧ root ∉ (d.below root).preorder := by
  by_cases inside : root < d.size
  · have fits := wellFormed.fits_forest inside
    rw [wellFormed.forest_eq_cons inside] at fits
    obtain ⟨tops, follows, -⟩ := fits.follows
    have distinct := fits.distinct
    rw [Forest.preorder, List.nodup_cons, List.mem_append, not_or, Forest.preorder,
      List.append_nil] at distinct
    exact ⟨tops, follows, distinct.2, distinct.1.1⟩
  · have empty : d.below root = .nil := by
      rw [below, Nat.eq_zero_of_not_pos inside]
      rfl
    rw [empty, children_eq_nil (Nat.le_of_not_lt inside)]
    exact ⟨rfl, trivial, List.nodup_nil, List.not_mem_nil⟩

end Follows

theorem sublist_reached (d : Document) (f : Forest) : (d.reached f).Sublist f.preorder := by
  induction f with
  | nil => exact .refl []
  | cons node below rest ihBelow ihRest =>
      rw [reached, Forest.preorder]
      refine .cons_cons node (.append ?_ ihRest)
      split
      · exact ihBelow
      · exact List.nil_sublist _

theorem WellFormed.nodup_inOrder (wellFormed : d.WellFormed) : d.inOrder.Nodup :=
  (sublist_reached d _).nodup wellFormed.below_root_spec.2.2.1

theorem mem_reached_of_mem_tops (isTop : n ∈ f.tops) : n ∈ d.reached f := by
  induction f with
  | nil => cases isTop
  | cons node below rest _ ih =>
      rw [reached]
      rcases List.mem_cons.1 isTop with rfl | isTop
      · exact List.mem_cons_self
      · exact List.mem_cons_of_mem _ (List.mem_append_right _ (ih isTop))

theorem mem_reached_of_mem_children (follows : f.Follows d.children) (member : parent ∈ d.reached f)
    (element : (d.tag? parent).isSome = true) (isChild : n ∈ d.children parent) :
    n ∈ d.reached f := by
  induction f with
  | nil => cases member
  | cons node below rest ihBelow ihRest =>
      obtain ⟨isBelow, followsBelow, followsRest⟩ := follows
      rw [reached, List.mem_cons, List.mem_append] at member ⊢
      rcases member with rfl | member | member
      · rw [if_pos element]
        exact .inr (.inl (mem_reached_of_mem_tops (isBelow ▸ isChild)))
      · split at member
        · next inside =>
          rw [if_pos inside]
          exact .inr (.inl (ihBelow followsBelow member))
        · cases member
      · exact .inr (.inr (ihRest followsRest member))

theorem above_succ_of_parent? (isParent : d.parent? n = some parent) (steps : Nat) :
    d.above (steps + 1) n = d.above steps parent := by
  induction steps with
  | zero => exact isParent
  | succ steps ih =>
      rw [above, ih]
      rfl

/-- Somewhere above a node is the root, and only elements are between them. -/
def HangsOnElements (d : Document) (n : NodeId) : Prop :=
  (∃ steps, d.above (steps + 1) n = some root) ∧ ∀ a ∈ d.ancestors n, (d.tag? a).isSome = true

theorem WellFormed.hangsOnElements_of_mem_reached (wellFormed : d.WellFormed)
    (follows : f.Follows d.children) (inner : root ∉ f.preorder)
    (tops : ∀ n ∈ f.tops, d.HangsOnElements n) (member : n ∈ d.reached f) :
    d.HangsOnElements n := by
  induction f with
  | nil => cases member
  | cons node below rest ihBelow ihRest =>
      obtain ⟨isBelow, followsBelow, followsRest⟩ := follows
      simp only [Forest.preorder, List.mem_cons, List.mem_append, not_or] at inner
      simp only [Forest.tops, List.mem_cons, forall_eq_or_imp] at tops
      rw [reached, List.mem_cons, List.mem_append] at member
      rcases member with rfl | member | member
      · exact tops.1
      · split at member
        · next element =>
          refine ihBelow followsBelow inner.2.1 (fun child isTop => ?_) member
          rw [isBelow] at isTop
          obtain ⟨⟨steps, reaches⟩, elements⟩ := tops.1
          refine ⟨⟨steps + 1, ?_⟩, ?_⟩
          · rw [above_succ_of_parent? ((wellFormed.linked _ _).1 isTop), reaches]
          · rw [wellFormed.ancestors_of_mem_children isTop (Ne.symm inner.1)]
            exact List.forall_mem_cons.2 ⟨element, elements⟩
        · cases member
      · exact ihRest followsRest inner.2.2 tops.2 member

theorem WellFormed.mem_inOrder_of_above (wellFormed : d.WellFormed) {steps : Nat}
    (reaches : d.above (steps + 1) n = some root)
    (elements : ∀ a ∈ d.ancestors n, (d.tag? a).isSome = true) : n ∈ d.inOrder := by
  obtain ⟨tops, follows, -, -⟩ := wellFormed.below_root_spec
  induction steps generalizing n with
  | zero =>
      have isChild : n ∈ d.children root := (wellFormed.linked root n).2 reaches
      exact mem_reached_of_mem_tops (tops ▸ isChild)
  | succ steps ih =>
      cases isParent : d.parent? n with
      | none =>
          rw [above_succ_eq_none isParent] at reaches
          cases reaches
      | some parent =>
          have isChild := (wellFormed.linked parent n).2 isParent
          by_cases atRoot : parent = root
          · exact mem_reached_of_mem_tops (tops ▸ atRoot ▸ isChild)
          · rw [above_succ_of_parent? isParent] at reaches
            rw [wellFormed.ancestors_of_parent? isParent atRoot] at elements
            obtain ⟨element, elements⟩ := List.forall_mem_cons.1 elements
            exact mem_reached_of_mem_children follows (ih reaches elements) element isChild

theorem WellFormed.mem_inOrder_iff (wellFormed : d.WellFormed) :
    n ∈ d.inOrder ↔ d.HangsOnElements n := by
  obtain ⟨tops, follows, -, inner⟩ := wellFormed.below_root_spec
  constructor
  · intro member
    refine wellFormed.hangsOnElements_of_mem_reached follows inner (fun top isTop => ?_) member
    have isParent := (wellFormed.linked root top).1 (tops ▸ isTop)
    refine ⟨⟨0, isParent⟩, ?_⟩
    rw [ancestors_of_top isParent]
    exact fun a impossible => nomatch impossible
  · rintro ⟨⟨steps, reaches⟩, elements⟩
    exact wellFormed.mem_inOrder_of_above reaches elements

theorem WellFormed.hangsOnElements_of_mem_ancestors (wellFormed : d.WellFormed)
    (hangs : d.HangsOnElements n) (member : a ∈ d.ancestors n) : d.HangsOnElements a := by
  generalize line : d.ancestors n = above at member
  induction above generalizing n with
  | nil => cases member
  | cons parent above ih =>
      obtain ⟨isParent, inner, isLine⟩ := line ▸ wellFormed.isLine_ancestors n
      obtain ⟨⟨steps, reaches⟩, elements⟩ := hangs
      rw [above_succ_of_parent? isParent] at reaches
      have ancestors : d.ancestors parent = above := isLine.ancestors_eq
      have higher : d.HangsOnElements parent := by
        constructor
        · cases steps with
          | zero => exact absurd (Option.some.inj reaches) inner
          | succ steps => exact ⟨steps, reaches⟩
        · rw [line] at elements
          rw [ancestors]
          exact (List.forall_mem_cons.1 elements).2
      rcases List.mem_cons.1 member with rfl | member
      · exact higher
      · exact ih higher ancestors member

end ComponentMarkup.Document
