import ComponentMarkup.Proofs.Document.Ancestors
import ComponentMarkup.Proofs.Document.Carried
import Mathlib.Data.Nat.Find

/-!
Documents under edits. Parents and children stay in step whatever is done to the nodes that are
there, and as long as no edit puts a node below itself every chain of parents ends.
-/

namespace ComponentMarkup.Document

/-! ## Edits -/

inductive Edit where
  | createElement (tag : String) (position : Position)
  | createText (contents : String) (position : Position)
  | clone (node : NodeId)
  | append (parent child : NodeId)
  | detach (node : NodeId)
  | moveChildren (source target : NodeId)
  | setAttribute (node : NodeId) (name value : String)
  | removeAttribute (node : NodeId) (name : String)
  | clearAttributes (node : NodeId)
  | setText (node : NodeId) (contents : String)

namespace Edit

def apply (d : Document) : Edit → Document
  | createElement tag position => (d.createElement tag position).2
  | createText contents position => (d.createText contents position).2
  | clone node => (d.clone node).2
  | append parent child => d.append parent child
  | detach node => d.detach node
  | moveChildren source target => d.moveChildren source target
  | setAttribute node name value => d.setAttribute node name value
  | removeAttribute node name => d.removeAttribute node name
  | clearAttributes node => d.clearAttributes node
  | setText node contents => d.setText node contents

/-- The nodes that an edit is about. -/
def nodes : Edit → List NodeId
  | createElement .. | createText .. => []
  | append parent child => [parent, child]
  | moveChildren source target => [source, target]
  | clone node | detach node | setAttribute node .. | removeAttribute node _ | clearAttributes node
  | setText node _ => [node]

/-- The document has the nodes that the edit is about. -/
def IsNamed (d : Document) (e : Edit) : Prop := ∀ n ∈ e.nodes, n < d.size

instance (d : Document) (e : Edit) : Decidable (e.IsNamed d) :=
  inferInstanceAs (Decidable (∀ n ∈ e.nodes, n < d.size))

end Edit

/-- Going up from `n` at least once leads to `a`. -/
def IsBelow (d : Document) (n a : NodeId) : Prop := ∃ steps, d.above (steps + 1) n = some a

/-- The edit puts no node below itself. -/
def Edit.KeepsTree (d : Document) : Edit → Prop
  | append parent child => parent ≠ child ∧ ¬ d.IsBelow parent child
  | moveChildren source target => ¬ d.IsBelow target source
  | _ => True

def edit (d : Document) (edits : List Edit) : Document := edits.foldl Edit.apply d

/-- Each edit of the list meets the condition when it is made. -/
def Allows (condition : Document → Edit → Prop) : Document → List Edit → Prop
  | _, [] => True
  | d, e :: rest => condition d e ∧ Allows condition (e.apply d) rest

instance Allows.decidable (condition : Document → Edit → Prop) [∀ d e, Decidable (condition d e)] :
    (d : Document) → (edits : List Edit) → Decidable (d.Allows condition edits)
  | _, [] => .isTrue trivial
  | d, e :: rest => @instDecidableAnd _ _ _ (decidable condition (e.apply d) rest)

variable {d d' : Document} {n p q parent child source target : NodeId}

/-! ## Parents and children -/

/-- Parents and children agree, and no node is a child of the same node twice. -/
structure Linked (d : Document) : Prop where
  agrees : ∀ parent child, child ∈ d.children parent ↔ d.parent? child = some parent
  distinct : ∀ parent, (d.children parent).Nodup

theorem parent?_detach (d : Document) (id n : NodeId) :
    (d.detach id).parent? n = if n = id then none else d.parent? n := by
  rw [detach]
  cases above : d.parent? id with
  | none =>
      by_cases same : n = id
      · rw [if_pos same, same, above]
      · rw [if_neg same]
  | some parent =>
      dsimp only
      rw [parent?_update _ parent n (fun node => { node with children := node.children.filter (· != id) })
        fun _ => rfl]
      by_cases same : n = id
      · rw [if_pos same, same, parent?, node?_update, if_pos rfl]
        cases d.node? id <;> rfl
      · rw [if_neg same, parent?, node?_update_of_ne _ _ same, parent?]

theorem children_detach (d : Document) (id n : NodeId) :
    (d.detach id).children n =
      if d.parent? id = some n then (d.children n).filter (· != id) else d.children n := by
  rw [detach]
  cases above : d.parent? id with
  | none => rw [if_neg (Option.some_ne_none n).symm]
  | some parent =>
      dsimp only
      have kept (m : NodeId) : (d.update id fun node => { node with parent := none }).children m =
          d.children m := d.children_update id m _ fun _ => rfl
      by_cases same : parent = n
      · rw [if_pos (congrArg some same), ← same, ← kept, children, node?_update, if_pos rfl, children]
        cases (d.update id fun node => { node with parent := none }).node? parent <;> rfl
      · rw [if_neg fun equal => same (Option.some.inj equal), ← kept n]
        exact children_congr (node?_update_of_ne _ _ (Ne.symm same))

@[simp] theorem size_detach (d : Document) (id : NodeId) : (d.detach id).size = d.size := by
  rw [detach]
  split
  · rfl
  · rw [size_update, size_update]

@[simp] theorem size_moveChildren (d : Document) (source target : NodeId) :
    (d.moveChildren source target).size = d.size := by
  rw [moveChildren, size_placeAll, size_update]

theorem parent?_setText (d : Document) (id n : NodeId) (contents : String) :
    (d.setText id contents).parent? n = d.parent? n := by
  refine d.parent?_update id n _ fun node => ?_
  split <;> rfl

namespace Linked

/-- Nothing that only reads parents and children sees a difference. -/
theorem congr (linked : d.Linked) (children : ∀ n, d'.children n = d.children n)
    (parents : ∀ n, d'.parent? n = d.parent? n) : d'.Linked where
  agrees parent child := by rw [children, parents, linked.agrees]
  distinct parent := by rw [children]; exact linked.distinct parent

theorem unique (linked : d.Linked) (first : n ∈ d.children p) (second : n ∈ d.children q) : p = q := by
  rw [linked.agrees] at first second
  exact Option.some.inj (first.symm.trans second)

theorem add (linked : d.Linked) (data : NodeData) (position : Position) :
    (d.add data position).2.Linked :=
  linked.congr (d.children_add · data position) (d.parent?_add · data position)

theorem detach (linked : d.Linked) (id : NodeId) : (d.detach id).Linked where
  agrees parent child := by
    rw [children_detach, parent?_detach]
    by_cases same : child = id
    · subst same
      rw [if_pos rfl]
      by_cases above : d.parent? child = some parent
      · simp [above]
      · rw [if_neg above, linked.agrees]
        simp [above]
    · rw [if_neg same]
      refine Iff.trans ?_ (linked.agrees parent child)
      split
      · simp [same]
      · rfl
  distinct parent := by
    rw [children_detach]
    split
    · exact (linked.distinct parent).filter _
    · exact linked.distinct parent

/-- A node that stands nowhere can be put anywhere. -/
theorem place (linked : d.Linked) (free : d.parent? child = none) (hasParent : parent < d.size)
    (hasChild : child < d.size) : (d.place parent child).Linked where
  agrees p n := by
    rw [children_place, parent?_place]
    have old := linked.agrees p n
    by_cases same : child = n
    · subst same
      rw [free] at old
      by_cases here : parent = p
      · subst here
        simp [hasParent, hasChild]
      · simp [here, hasChild, old]
    · rw [if_neg fun both : child = n ∧ _ => same both.1]
      refine Iff.trans ?_ old
      split
      · simp [Ne.symm same]
      · rfl
  distinct p := by
    rw [children_place]
    split
    · refine List.nodup_append.2 ⟨linked.distinct p, List.nodup_singleton _, ?_⟩
      rintro n member other isChild rfl
      rw [List.mem_singleton.1 isChild, linked.agrees, free] at member
      cases member
    · exact linked.distinct p

theorem append (linked : d.Linked) (hasParent : parent < d.size) (hasChild : child < d.size) :
    (d.append parent child).Linked := by
  refine (linked.detach child).place ?_ ?_ ?_
  · rw [parent?_detach, if_pos rfl]
  · rwa [size_detach]
  · rwa [size_detach]

end Linked

/-! ## Moving children -/

theorem children_moveChildren (hasTarget : target < d.size) (n : NodeId) :
    (d.moveChildren source target).children n =
      if n = target then (if target = source then [] else d.children target) ++ d.children source
      else if n = source then [] else d.children n := by
  rw [moveChildren, children_placeAll, size_update]
  by_cases isTarget : n = target
  · subst isTarget
    rw [if_pos ⟨rfl, hasTarget⟩, if_pos rfl, children_emptied]
  · rw [if_neg fun both => isTarget both.1.symm, if_neg isTarget, children_emptied]

theorem Linked.parent?_moveChildren (linked : d.Linked) (n : NodeId) :
    (d.moveChildren source target).parent? n =
      if n ∈ d.children source then some target else d.parent? n := by
  rw [moveChildren, parent?_placeAll, size_update, parent?_emptied]
  by_cases member : n ∈ d.children source
  · rw [if_pos ⟨member, lt_size_of_parent? ((linked.agrees source n).1 member)⟩, if_pos member]
  · rw [if_neg fun both => member both.1, if_neg member]

theorem Linked.moveChildren (linked : d.Linked) (hasTarget : target < d.size) :
    (d.moveChildren source target).Linked where
  agrees p n := by
    rw [children_moveChildren hasTarget, linked.parent?_moveChildren]
    by_cases moved : n ∈ d.children source
    · rw [if_pos moved, Option.some.injEq]
      have above := (linked.agrees source n).1 moved
      by_cases isTarget : p = target
      · simp [isTarget, moved]
      · rw [if_neg isTarget]
        have elsewhere : ¬ target = p := fun same => isTarget same.symm
        split
        · simp [elsewhere]
        · next other =>
          refine ⟨fun member => absurd (linked.unique member moved) other, fun same => ?_⟩
          exact absurd same elsewhere
    · rw [if_neg moved, ← linked.agrees]
      by_cases isTarget : p = target
      · subst isTarget
        rw [if_pos rfl]
        split
        · next same => rw [same]; rfl
        · rw [List.mem_append, or_iff_left moved]
      · rw [if_neg isTarget]
        split
        · next isSource => simp [isSource, moved]
        · rfl
  distinct p := by
    rw [children_moveChildren hasTarget]
    split
    · split
      · exact linked.distinct source
      · next other =>
        refine List.nodup_append.2 ⟨linked.distinct _, linked.distinct _, ?_⟩
        rintro n member other' moved rfl
        exact other (linked.unique member moved)
    · split
      · exact List.nodup_nil
      · exact linked.distinct p

/-! ## Chains of parents -/

/-- Every chain of parents ends. -/
def Grounded (d : Document) : Prop := ∀ n, ∃ steps, d.above steps n = none

namespace Grounded

theorem congr (grounded : d.Grounded) (parents : ∀ n, d'.parent? n = d.parent? n) : d'.Grounded := by
  intro n
  obtain ⟨steps, ends⟩ := grounded n
  refine ⟨steps, ?_⟩
  have same (steps : Nat) : d'.above steps n = d.above steps n := by
    induction steps with
    | zero => rfl
    | succ steps ih =>
        rw [above, above, ih]
        exact Option.bind_congr fun a _ => parents a
  rw [same, ends]

/-- Nodes that `moves` tells may get a new parent, as long as none of them stands above that. -/
theorem of_moved (grounded : d.Grounded) (moves : NodeId → Prop)
    (kept : ∀ n, ¬ moves n → d'.parent? n = d.parent? n)
    (put : ∀ n, moves n → d'.parent? n = none ∨ d'.parent? n = some q)
    (apart : ∀ steps a, d.above steps q = some a → ¬ moves a) : d'.Grounded := by
  have same (steps : Nat) : d'.above steps q = d.above steps q := by
    induction steps with
    | zero => rfl
    | succ steps ih =>
        rw [above, above, ih]
        exact Option.bind_congr fun a reached => kept a (apart steps a reached)
  intro n
  obtain ⟨steps, ends⟩ := grounded n
  -- Up to the first moved node the chain is the old one, and from there on that of `q`.
  induction steps generalizing n with
  | zero => cases ends
  | succ steps ih =>
      have climbs (p : NodeId) (isParent : d'.parent? n = some p) (ends : ∃ steps, d'.above steps p = none) :
          ∃ steps, d'.above steps n = none := by
        obtain ⟨steps, ends⟩ := ends
        exact ⟨steps + 1, by rw [above_succ_of_parent? isParent, ends]⟩
      by_cases moved : moves n
      · rcases put n moved with top | isQ
        · exact ⟨1, top⟩
        · refine climbs q isQ ?_
          obtain ⟨steps, ends⟩ := grounded q
          exact ⟨steps, (same steps).trans ends⟩
      · cases isParent : d.parent? n with
        | none => exact ⟨1, (kept n moved).trans isParent⟩
        | some p =>
            rw [above_succ_of_parent? isParent] at ends
            exact climbs p ((kept n moved).trans isParent) (ih p ends)

theorem add (grounded : d.Grounded) (data : NodeData) (position : Position) :
    (d.add data position).2.Grounded :=
  grounded.congr (d.parent?_add · data position)

theorem detach (grounded : d.Grounded) (id : NodeId) : (d.detach id).Grounded := by
  have kept (n : NodeId) (other : n ≠ id) : (d.detach id).parent? n = d.parent? n := by
    rw [parent?_detach, if_neg other]
  intro n
  obtain ⟨steps, ends⟩ := grounded n
  induction steps generalizing n with
  | zero => cases ends
  | succ steps ih =>
      by_cases here : n = id
      · exact ⟨1, (parent?_detach d id n).trans (if_pos here)⟩
      · cases isParent : d.parent? n with
        | none => exact ⟨1, (kept n here).trans isParent⟩
        | some p =>
            rw [above_succ_of_parent? isParent] at ends
            obtain ⟨steps, ends⟩ := ih p ends
            exact ⟨steps + 1, by rw [above_succ_of_parent? ((kept n here).trans isParent), ends]⟩

theorem append (grounded : d.Grounded) (other : parent ≠ child) (apart : ¬ d.IsBelow parent child) :
    (d.append parent child).Grounded := by
  have parents (n : NodeId) : (d.append parent child).parent? n =
      if child = n ∧ n < d.size then some parent else if n = child then none else d.parent? n := by
    rw [Document.append, parent?_place, size_detach, parent?_detach]
  refine grounded.of_moved (· = child) (fun n notChild => ?_) (q := parent) (fun n isChild => ?_) ?_
  · rw [parents, if_neg fun both => notChild both.1.symm, if_neg notChild]
  · rw [parents, if_pos isChild]
    split
    · exact .inr rfl
    · exact .inl rfl
  · rintro steps a reached rfl
    cases steps with
    | zero => exact other (Option.some.inj reached)
    | succ steps => exact apart ⟨steps, reached⟩

theorem moveChildren (grounded : d.Grounded) (linked : d.Linked) (apart : ¬ d.IsBelow target source) :
    (d.moveChildren source target).Grounded := by
  by_cases same : target = source
  · refine grounded.congr fun n => ?_
    rw [linked.parent?_moveChildren]
    split
    · next member => rw [same, (linked.agrees source n).1 member]
    · rfl
  · refine grounded.of_moved (· ∈ d.children source) (fun n notMoved => ?_) (q := target)
      (fun n moved => ?_) ?_
    · rw [linked.parent?_moveChildren, if_neg notMoved]
    · rw [linked.parent?_moveChildren, if_pos moved]
      exact .inr rfl
    · intro steps a reached moved
      refine apart ⟨steps, ?_⟩
      rw [above, reached]
      exact (linked.agrees source a).1 moved

end Grounded

/-- A document is well-formed when parents and children agree and every chain of parents ends. -/
theorem wellFormed_iff : d.WellFormed ↔ d.Linked ∧ d.Grounded := by
  constructor
  · intro wellFormed
    refine ⟨⟨wellFormed.linked, wellFormed.distinct⟩, fun n => ?_⟩
    obtain ⟨level, leveled⟩ := wellFormed.leveled
    generalize height : level n = h
    induction h generalizing n with
    | zero =>
        refine ⟨1, Option.eq_none_iff_forall_ne_some.2 fun p isParent => ?_⟩
        have := leveled n p isParent
        omega
    | succ h ih =>
        cases isParent : d.parent? n with
        | none => exact ⟨1, isParent⟩
        | some p =>
            obtain ⟨steps, ends⟩ := ih p (by have := leveled n p isParent; omega)
            exact ⟨steps + 1, by rw [above_succ_of_parent? isParent, ends]⟩
  · rintro ⟨linked, grounded⟩
    classical
    have ends (n : NodeId) : ∃ steps, d.above steps n = none := grounded n
    refine ⟨linked.agrees, linked.distinct, fun n => Nat.find (ends n), fun child parent isParent => ?_⟩
    have above (steps : Nat) : d.above (steps + 1) child = none ↔ d.above steps parent = none := by
      rw [above_succ_of_parent? isParent]
    dsimp only
    rw [Nat.find_comp_succ (ends child) ((ends parent).imp fun steps => (above steps).2) nofun]
    exact congrArg (· + 1) (Nat.find_congr' fun {steps} => above steps)

/-! ## Runs of edits -/

namespace Edit
variable {e : Edit}

theorem size_le_apply (d : Document) (e : Edit) : d.size ≤ (e.apply d).size := by
  cases e with
  | createElement tag position => exact (Nat.le_succ _).trans_eq (d.size_add _ _).symm
  | createText contents position => exact (Nat.le_succ _).trans_eq (d.size_add _ _).symm
  | clone node =>
      rw [apply, Document.clone]
      split <;> exact (Nat.le_succ _).trans_eq (d.size_add _ _).symm
  | append parent child => exact (d.size_append parent child).ge
  | detach node => exact (d.size_detach node).ge
  | moveChildren source target => exact (d.size_moveChildren source target).ge
  | setAttribute node name value => exact (d.size_mapAttributes node _).ge
  | removeAttribute node name => exact (d.size_mapAttributes node _).ge
  | clearAttributes node => exact (d.size_mapAttributes node _).ge
  | setText node contents => exact (d.size_setText node contents).ge

theorem linked_apply (linked : d.Linked) (named : e.IsNamed d) : (e.apply d).Linked := by
  have mapped (node : NodeId) (f : Attributes → Attributes) : (d.mapAttributes node f).Linked :=
    linked.congr (d.children_mapAttributes node · f) (d.parent?_mapAttributes node · f)
  cases e with
  | createElement tag position => exact linked.add _ _
  | createText contents position => exact linked.add _ _
  | clone node =>
      rw [apply, Document.clone]
      split <;> exact linked.add _ _
  | append parent child =>
      exact linked.append (named parent (by simp [nodes])) (named child (by simp [nodes]))
  | detach node => exact linked.detach node
  | moveChildren source target => exact linked.moveChildren (named target (by simp [nodes]))
  | setAttribute node name value => exact mapped node _
  | removeAttribute node name => exact mapped node _
  | clearAttributes node => exact mapped node _
  | setText node contents =>
      exact linked.congr (d.children_setText node · contents) (d.parent?_setText node · contents)

theorem grounded_apply (grounded : d.Grounded) (linked : d.Linked) (tree : e.KeepsTree d) :
    (e.apply d).Grounded := by
  have mapped (node : NodeId) (f : Attributes → Attributes) : (d.mapAttributes node f).Grounded :=
    grounded.congr (d.parent?_mapAttributes node · f)
  cases e with
  | createElement tag position => exact grounded.add _ _
  | createText contents position => exact grounded.add _ _
  | clone node =>
      rw [apply, Document.clone]
      split <;> exact grounded.add _ _
  | append parent child => exact grounded.append tree.1 tree.2
  | detach node => exact grounded.detach node
  | moveChildren source target => exact grounded.moveChildren linked tree
  | setAttribute node name value => exact mapped node _
  | removeAttribute node name => exact mapped node _
  | clearAttributes node => exact mapped node _
  | setText node contents => exact grounded.congr (d.parent?_setText node · contents)

end Edit

theorem size_le_edit (d : Document) (edits : List Edit) : d.size ≤ (d.edit edits).size := by
  induction edits generalizing d with
  | nil => exact Nat.le_refl _
  | cons e edits ih => exact (e.size_le_apply d).trans (ih (e.apply d))

theorem Linked.edit {edits : List Edit} (linked : d.Linked) (named : d.Allows Edit.IsNamed edits) :
    (d.edit edits).Linked := by
  induction edits generalizing d with
  | nil => exact linked
  | cons e edits ih => exact ih (Edit.linked_apply linked named.1) named.2

theorem WellFormed.edit {edits : List Edit} (wellFormed : d.WellFormed)
    (named : d.Allows Edit.IsNamed edits) (tree : d.Allows Edit.KeepsTree edits) :
    (d.edit edits).WellFormed := by
  induction edits generalizing d with
  | nil => exact wellFormed
  | cons e edits ih =>
      obtain ⟨linked, grounded⟩ := wellFormed_iff.1 wellFormed
      exact ih (wellFormed_iff.2 ⟨Edit.linked_apply linked named.1,
        Edit.grounded_apply grounded linked tree.1⟩) named.2 tree.2

end ComponentMarkup.Document
