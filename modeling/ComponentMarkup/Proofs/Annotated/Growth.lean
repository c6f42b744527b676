import ComponentMarkup.Proofs.Annotated.Visit
import ComponentMarkup.Proofs.Forest

/-!
How the tree of annotations grows: a walk hangs a forest of new annotations below the one it
started from, numbers them in the order in which they are made, and leaves of the older ones all
that lasts.
-/

namespace ComponentMarkup

namespace AnnotatedTree

/-- The numbers up to `b` and those from there on. -/
theorem range'_sub_append {a b c : Nat} (first : a ≤ b) (second : b ≤ c) :
    List.range' a (b - a) ++ List.range' b (c - b) = List.range' a (c - a) := by
  obtain ⟨j, rfl⟩ := Nat.exists_eq_add_of_le first
  obtain ⟨k, rfl⟩ := Nat.exists_eq_add_of_le second
  rw [Nat.add_sub_cancel_left, Nat.add_sub_cancel_left, Nat.add_assoc, Nat.add_sub_cancel_left,
    List.range'_append_1]

/-- A node and all above it. -/
def line (t : AnnotatedTree) : Option AnnotatedId → List AnnotatedId
  | none => []
  | some id => id :: t.ancestors id

/-- `a'` is `a` with the children `tops` behind the others, and with what they bring along. -/
structure Extends (u : AnnotatedTree) (tops : List AnnotatedId) (a a' : AnnotatedNode) : Prop where
  core : a'.core = a.core
  children : a'.children = a.children ++ tops
  hasDataBinding : a'.hasDataBinding = (a.hasDataBinding || tops.any u.isPlaceholder)
  buildsChildren : a'.buildsChildren = (a.buildsChildren || tops.any u.isPlaceholder)

/-- `u` is `t` with the forest `F` of new annotations below `parent`. -/
structure Grows (parent : Option AnnotatedId) (F : Forest) (t u : AnnotatedTree) : Prop where
  size : t.nodes.size ≤ u.nodes.size
  numbered : F.preorder = List.range' t.nodes.size (u.nodes.size - t.nodes.size)
  root : u.root = t.root.or (if parent = none then F.tops.head? else none)
  follows : F.Follows u.children
  above : ∀ id q, t.nodes.size ≤ id → u.parent? id = some q → q < id
  old : ∀ id a, t.get? id = some a → ∃ a', u.get? id = some a' ∧
    u.Extends (if parent = some id then F.tops else []) a a' ∧
    (id ∉ t.line parent → a'.hasQuery = a.hasQuery)

variable {s t u : AnnotatedTree} {parent : Option AnnotatedId} {F G : Forest} {id : AnnotatedId}

namespace Extends

theorem refl (u : AnnotatedTree) (a : AnnotatedNode) : u.Extends [] a a :=
  ⟨rfl, (List.append_nil _).symm, (Bool.or_false _).symm, (Bool.or_false _).symm⟩

theorem trans {tops tops' : List AnnotatedId} {a a' a'' : AnnotatedNode}
    (first : t.Extends tops a a') (second : u.Extends tops' a' a'')
    (same : ∀ top ∈ tops, u.isPlaceholder top = t.isPlaceholder top) :
    u.Extends (tops ++ tops') a a'' := by
  have any : tops.any u.isPlaceholder = tops.any t.isPlaceholder := any_congr_mem same
  refine ⟨second.core.trans first.core, ?_, ?_, ?_⟩
  · rw [second.children, first.children, List.append_assoc]
  · rw [second.hasDataBinding, first.hasDataBinding, List.any_append, any, Bool.or_assoc]
  · rw [second.buildsChildren, first.buildsChildren, List.any_append, any, Bool.or_assoc]

end Extends

theorem line_update (f : AnnotatedNode → AnnotatedNode) (same : ∀ a, (f a).parent = a.parent)
    (below : Option AnnotatedId) : (t.update id f).line below = t.line below := by
  cases below with
  | none => rfl
  | some q => rw [line, line, ancestors_congr fun n _ => parent?_update f same n]

theorem Opened.line_self {P : AnnotatedNode → Prop} (opened : Opened parent id P s t)
    (under : ∀ a, P a → a.parent = parent) (valid : ∀ q ∈ parent, q < s.nodes.size) :
    t.line (some id) = id :: s.line parent := by
  obtain ⟨a, found, holds⟩ := opened.here
  rw [line, ancestors, parent?_eq found, under a holds]
  cases parent with
  | none => rfl
  | some q =>
      have below : q < id := by
        rw [opened.fresh]
        exact valid q rfl
      have same : t.ancestors q = s.ancestors q := by
        apply ancestors_congr
        intro n above
        obtain ⟨b, old⟩ := get?_isSome (Nat.lt_of_le_of_lt above (valid q rfl))
        obtain ⟨b', old', core, -⟩ := opened.elsewhere n b old
        rw [parent?_eq old, parent?_eq old', AnnotatedNode.parent_of_core core]
      dsimp only
      rw [if_pos below, same, line]

namespace Grows

theorem core (grows : Grows parent F t u) {a : AnnotatedNode} (found : t.get? id = some a) :
    ∃ a', u.get? id = some a' ∧ a'.core = a.core := by
  obtain ⟨a', found', extended, -⟩ := grows.old id a found
  exact ⟨a', found', extended.core⟩

theorem get?_old (grows : Grows parent F t u) {a' : AnnotatedNode} (inside : id < t.nodes.size)
    (found' : u.get? id = some a') : ∃ a, t.get? id = some a ∧ a'.core = a.core := by
  obtain ⟨a, found⟩ := get?_isSome inside
  obtain ⟨b, foundB, core⟩ := grows.core found
  obtain rfl := Option.some.inj (foundB.symm.trans found')
  exact ⟨a, found, core⟩

theorem parent?_old (grows : Grows parent F t u) (inside : id < t.nodes.size) :
    u.parent? id = t.parent? id := by
  obtain ⟨a, found⟩ := get?_isSome inside
  obtain ⟨a', found', core⟩ := grows.core found
  rw [parent?_eq found, parent?_eq found', AnnotatedNode.parent_of_core core]

theorem isPlaceholder_old (grows : Grows parent F t u) (inside : id < t.nodes.size) :
    u.isPlaceholder id = t.isPlaceholder id := by
  obtain ⟨a, found⟩ := get?_isSome inside
  obtain ⟨a', found', core⟩ := grows.core found
  rw [isPlaceholder_eq found, isPlaceholder_eq found', AnnotatedNode.isPlaceholder_of_core core]

theorem children_old (grows : Grows parent F t u) (inside : id < t.nodes.size)
    (other : parent ≠ some id) : u.children id = t.children id := by
  obtain ⟨a, found⟩ := get?_isSome inside
  obtain ⟨a', found', extended, -⟩ := grows.old id a found
  rw [children_eq found, children_eq found', extended.children, if_neg other, List.append_nil]

theorem line_old (grows : Grows parent F t u) {below : Option AnnotatedId}
    (valid : ∀ q ∈ below, q < t.nodes.size) : u.line below = t.line below := by
  cases below with
  | none => rfl
  | some q =>
      have inside : q < t.nodes.size := valid q rfl
      rw [line, line, ancestors_congr fun n above =>
        grows.parent?_old (Nat.lt_of_le_of_lt above inside)]

theorem mem_preorder (grows : Grows parent F t u) :
    id ∈ F.preorder ↔ t.nodes.size ≤ id ∧ id < u.nodes.size := by
  rw [grows.numbered, List.mem_range'_1, Nat.add_sub_cancel' grows.size]

theorem lt_of_mem_tops (grows : Grows parent F t u) (top : id ∈ F.tops) : id < u.nodes.size :=
  (grows.mem_preorder.1 (Forest.mem_preorder_of_mem_tops top)).2

theorem nil (parent : Option AnnotatedId) (t : AnnotatedTree) : Grows parent .nil t t where
  size := Nat.le_refl _
  numbered := by rw [Nat.sub_self]; rfl
  root := by
    have : (if parent = none then Forest.nil.tops.head? else none) = none := by split <;> rfl
    rw [this, Option.or_none]
  follows := trivial
  above id q isNew under := by
    obtain ⟨a, found, -⟩ := Option.bind_eq_some_iff.1 under
    exact absurd (lt_size_of_get? found) (Nat.not_lt_of_ge isNew)
  old id a found := by
    refine ⟨a, found, ?_, fun _ => rfl⟩
    have : (if parent = some id then Forest.nil.tops else []) = [] := by split <;> rfl
    rw [this]
    exact .refl t a

theorem trans (first : Grows parent F s t) (second : Grows parent G t u)
    (valid : ∀ q ∈ parent, q < s.nodes.size) : Grows parent (F.append G) s u where
  size := Nat.le_trans first.size second.size
  numbered := by
    rw [Forest.preorder_append, first.numbered, second.numbered,
      range'_sub_append first.size second.size]
  root := by
    rw [second.root, first.root, Option.or_assoc, Forest.tops_append]
    split
    · rw [List.head?_append]
    · rfl
  follows := by
    refine .append (first.follows.congr fun n member => ?_) second.follows
    obtain ⟨isNew, inside⟩ := first.mem_preorder.1 member
    refine second.children_old inside fun isParent => ?_
    exact Nat.lt_irrefl n (Nat.lt_of_lt_of_le (valid n isParent) isNew)
  above n q isNew under := by
    rcases Nat.lt_or_ge n t.nodes.size with inside | outside
    · exact first.above n q isNew ((second.parent?_old inside).symm.trans under)
    · exact second.above n q outside under
  old id a found := by
    obtain ⟨a', found', extended', query'⟩ := first.old id a found
    obtain ⟨a'', found'', extended'', query''⟩ := second.old id a' found'
    refine ⟨a'', found'', ?_, fun outside => ?_⟩
    · have whole := extended'.trans extended'' fun top member => by
        split at member
        · exact second.isPlaceholder_old (first.lt_of_mem_tops member)
        · cases member
      rw [Forest.tops_append]
      split at whole
      · next isParent => rwa [if_pos isParent]
      · next other => rwa [if_neg other]
    · rw [query'' ((first.line_old valid) ▸ outside), query' outside]

/-- A new node with what grows below it is itself such growth. A placeholder needs a parent that
builds its children already. -/
theorem nest {P : AnnotatedNode → Prop} (opened : Opened parent id P s t)
    (leaf : ∀ a, P a → a.parent = parent ∧ a.children = []) (inside : Grows (some id) F t u)
    (ready : ∀ a, P a → a.isPlaceholder = true → ∀ q ∈ parent, ∀ b, s.get? q = some b →
      b.hasDataBinding = true ∧ b.buildsChildren = true)
    (valid : ∀ q ∈ parent, q < s.nodes.size) : Grows parent (.cons id F .nil) s u where
  size := by
    have := opened.size
    have := inside.size
    omega
  numbered := by
    obtain ⟨k, last⟩ := Nat.exists_eq_add_of_le inside.size
    rw [Forest.preorder, Forest.preorder, List.append_nil, inside.numbered, last, opened.size,
      Nat.add_sub_cancel_left, opened.fresh, Nat.add_assoc, Nat.add_sub_cancel_left, Nat.add_comm 1 k,
      List.range'_succ]
  root := by
    rw [inside.root, if_neg (Option.some_ne_none id), Option.or_none, opened.root]
    rfl
  follows := by
    obtain ⟨a, found, holds⟩ := opened.here
    obtain ⟨a', found', extended, -⟩ := inside.old id a found
    refine ⟨?_, inside.follows, trivial⟩
    rw [children_eq found', extended.children, (leaf a holds).2, if_pos rfl, List.nil_append]
  above n q isNew under := by
    rcases Nat.lt_or_ge n t.nodes.size with older | later
    · obtain rfl : n = id := by
        rw [opened.size] at older
        exact (Nat.le_antisymm (Nat.le_of_lt_succ older) isNew).trans opened.fresh.symm
      obtain ⟨a, found, holds⟩ := opened.here
      rw [inside.parent?_old older, parent?_eq found, (leaf a holds).1] at under
      rw [opened.fresh]
      exact valid q under
    · exact inside.above n q later under
  old other b found := by
    obtain ⟨b', found', core', children', binding', builds', query'⟩ :=
      opened.elsewhere other b found
    obtain ⟨b'', found'', extended, query''⟩ := inside.old other b' found'
    have different : id ≠ other := by
      rw [opened.fresh]
      exact Nat.ne_of_gt (lt_size_of_get? found)
    rw [if_neg fun same => different (Option.some.inj same)] at extended
    obtain ⟨a, here, holds⟩ := opened.here
    obtain ⟨a', here', core⟩ := inside.core here
    have absorbed : (if parent = some other then [id] else []).any u.isPlaceholder = true →
        b.hasDataBinding = true ∧ b.buildsChildren = true := by
      intro bound
      split at bound
      · next isParent =>
        rw [List.any_cons, List.any_nil, Bool.or_false, isPlaceholder_eq here',
          AnnotatedNode.isPlaceholder_of_core core] at bound
        exact ready a holds bound other isParent b found
      · cases bound
    refine ⟨b'', found'', ⟨extended.core.trans core', ?_, ?_, ?_⟩, fun outside => ?_⟩
    · rw [extended.children, List.append_nil, children']
      split
      · rfl
      · rw [List.append_nil]
    · rw [extended.hasDataBinding, binding', List.any_nil, Bool.or_false]
      exact (Bool.or_eq_left_iff_imp.2 fun bound => (absorbed bound).1).symm
    · rw [extended.buildsChildren, builds', List.any_nil, Bool.or_false]
      exact (Bool.or_eq_left_iff_imp.2 fun bound => (absorbed bound).2).symm
    · rw [query'' ?_, query']
      rw [opened.line_self (fun a holds => (leaf a holds).1) valid, List.mem_cons]
      rintro (same | above)
      · exact different same.symm
      · exact outside above

/-- A node that takes over its children before placeholders grow below it has done no more than
these bring along. -/
theorem of_takeOver {p : AnnotatedId} (grows : Grows (some p) F
      (s.update p fun a => { a with hasDataBinding := true, buildsChildren := true }) u)
    (bound : F.tops.any u.isPlaceholder = true) : Grows (some p) F s u where
  size := by simpa using grows.size
  numbered := by simpa using grows.numbered
  root := grows.root
  follows := grows.follows
  above n q isNew := grows.above n q (Nat.le_trans (Nat.le_of_eq (s.size_update p _)) isNew)
  old id a found := by
    have line : (s.update p fun a =>
        { a with hasDataBinding := true, buildsChildren := true }).line (some p) = s.line (some p) := by
      rw [line_update]
      exact fun _ => rfl
    by_cases same : p = id
    · subst same
      obtain ⟨a', found', extended, query⟩ := grows.old p _ (s.get?_update_self _ found)
      refine ⟨a', found', ⟨extended.core, extended.children, ?_, ?_⟩, fun outside => ?_⟩
      · rw [extended.hasDataBinding, if_pos rfl, bound, Bool.or_true, Bool.or_true]
      · rw [extended.buildsChildren, if_pos rfl, bound, Bool.or_true, Bool.or_true]
      · exact query (line ▸ outside)
    · obtain ⟨a', found', extended, query⟩ :=
        grows.old id a ((s.get?_update_of_ne _ (Ne.symm same)).trans found)
      exact ⟨a', found', extended, fun outside => query (line ▸ outside)⟩

/-- Numbering the node on top marks at most a node above it. -/
theorem identify {p : Pass} (grows : Grows parent (.cons id F .nil) s p.annotations)
    (under : p.annotations.parent? id = parent) (valid : ∀ q ∈ parent, q < s.nodes.size) :
    Grows parent (.cons id F .nil) s (p.identify id).annotations := by
  obtain ⟨isNew, inside⟩ := grows.mem_preorder.1 List.mem_cons_self
  obtain ⟨a, found⟩ := get?_isSome inside
  rcases Pass.identify_cases found with ⟨-, same⟩ | ⟨fresh, needed⟩
  · rwa [same]
  · have get := Pass.get?_identify found fresh needed
    refine ⟨?_, ?_, ?_, ?_, fun n q isNew under => ?_, fun other b old => ?_⟩
    · rw [Pass.size_identify]
      exact grows.size
    · rw [Pass.size_identify]
      exact grows.numbered
    · rw [Pass.root_identify]
      exact grows.root
    · exact grows.follows.congr fun n _ => p.children_identify id n
    · rw [Pass.parent?_identify] at under
      exact grows.above n q isNew under
    · obtain ⟨b', old', extended, query⟩ := grows.old other b old
      have different : id ≠ other := fun same =>
        Nat.not_lt_of_ge isNew (same ▸ lt_size_of_get? old)
      refine ⟨_, (get other).trans (congrArg _ old'), ?_, fun outside => ?_⟩
      · have any (tops : List AnnotatedId) :
            tops.any (p.identify id).annotations.isPlaceholder =
              tops.any p.annotations.isPlaceholder := by
          rw [funext (p.isPlaceholder_identify id)]
        refine ⟨?_, extended.children, ?_, ?_⟩
        · rw [← extended.core, AnnotatedNode.core, AnnotatedNode.core]
          simp only [if_neg different]
        · rw [any]
          exact extended.hasDataBinding
        · rw [any]
          exact extended.buildsChildren
      -- The node that is marked is above `id`, so off the line of `parent` none is.
      · have unmarked : p.annotations.nearestBuilt? id ≠ some other := by
          intro marked
          have above := List.mem_of_find?_eq_some marked
          rw [ancestors, under] at above
          cases parent with
          | none => cases above
          | some q =>
              dsimp only at above
              rw [if_pos (Nat.lt_of_lt_of_le (valid q rfl) isNew)] at above
              have line := grows.line_old valid
              rw [AnnotatedTree.line] at line
              exact outside (line ▸ above)
        rw [← query outside]
        simp [unmarked]

end Grows
end AnnotatedTree
end ComponentMarkup
