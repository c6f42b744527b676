import ComponentMarkup.Proofs.Annotated.Given
import ComponentMarkup.Proofs.Annotated.Marks

/-!
Relations between the states of a pass that hold of a whole walk because they hold of its steps.
-/

namespace ComponentMarkup.Pass
variable {Q : Pass → Pass → Prop} {s t u : Pass} {parent : Option AnnotatedId}
  {around : Surroundings} {node : NodeId} {tag : String} {entry : Entry} {F : Forest}

/-- From `s` to `t` elements were annotated whose nodes `u` has as `t` has them. -/
def KeepsSources (s t u : Pass) : Prop :=
  ∀ id a, s.annotations.nodes.size ≤ id → t.annotations.get? id = some a → a.isText = false →
    u.document.node? a.source = t.document.node? a.source

/-- The steps of a walk are of the kind `Q`, and so are stretches that are put together when the
second one leaves the elements that were annotated in the first one alone. -/
structure Stepwise (Q : Pass → Pass → Prop) : Prop where
  refl : ∀ s, Q s s
  text : ∀ {s : Pass} {around : Surroundings} (node : NodeId) (contents : String),
    (∀ q ∈ around.parent, q < s.annotations.nodes.size) → Q s (s.visitText around node contents)
  left : ∀ {s : Pass} {around : Surroundings} {node : NodeId} {tag : String},
    (s.enter around node tag).2 = none → Q s (s.enter around node tag).1
  enter : ∀ {s t : Pass} {around : Surroundings} {node : NodeId} {tag : String}
    {attributes : Attributes} {entry : Entry}, (∀ q ∈ around.parent, q < s.annotations.nodes.size) →
    s.document.data? node = some (.element tag attributes) →
    s.enter around node tag = (t, some entry) → Q s t
  identify : ∀ {s t : Pass} (id : AnnotatedId), Q s t → Q s (t.identify id)
  trans : ∀ {s t u : Pass} {parent : Option AnnotatedId} {F : Forest}, Q s t → Q t u →
    s.annotations.nodes.size ≤ t.annotations.nodes.size →
    t.annotations.Grows parent F u.annotations → u.basis = t.basis → KeepsSources s t u → Q s u

namespace Stepwise
variable (stepwise : Stepwise Q)
include stepwise

theorem identified (before : Q s t) (ids : List AnnotatedId) : Q s (ids.foldl Pass.identify t) := by
  induction ids generalizing t with
  | nil => exact before
  | cons id ids ih => exact ih (stepwise.identify id before)

/-- An element, once entered, is left alone when what is below it is visited. -/
theorem entered {below below' : Forest} (entered : Entered parent node tag s t entry)
    (element : s.document.tag? node = some tag) (fits : s.document.Fits (.cons node below .nil))
    (first : Q s t) (second : Q t u) (covers : Covers below below' t u)
    (grows : t.annotations.Grows entry.inner.parent F u.annotations) (basis : u.basis = t.basis) :
    Q s (entry.opened.foldl Pass.identify u) := by
  obtain ⟨larger, -⟩ := entered.data element fits
  refine stepwise.identified (stepwise.trans first second (Nat.le_of_lt entered.size.1) grows basis
    fun id a isNew found isElement => ?_) entry.opened
  obtain ⟨a', found', made⟩ := entered.made element fits isNew (AnnotatedTree.lt_size_of_get? found)
  obtain rfl := Option.some.inj (found'.symm.trans found)
  rcases made with ⟨-, isNode⟩ | ⟨-, isNode, inside, -⟩
  · rw [isNode]
    exact covers.reworks.outside node
      (Nat.lt_of_lt_of_le (Document.lt_size_of_tag? element) larger) fits.not_mem_below
  · rw [isNode]
    exact covers.reworks.outside _ inside fun member =>
      Nat.lt_irrefl _ (fits.under.inside _ member)

theorem visitTree {below : Forest} (walkable : Walkable around.parent (.cons node below .nil) s)
    (inner : ∀ {around : Surroundings} {s : Pass}, Walkable around.parent below s →
      Q s (s.visitForest below around)) :
    Q s (s.visitForest (.cons node below .nil) around) := by
  cases element : s.document.tag? node with
  | none =>
      cases text : s.document.text? node with
      | none =>
          rw [visitTree_of_other below element text]
          exact stepwise.refl s
      | some contents =>
          rw [visitTree_of_text below (Document.text?_eq_some.1 text)]
          exact stepwise.text node contents walkable.valid
  | some tag =>
      cases made : (s.enter around node tag).2 with
      | none =>
          rw [visitTree_of_left below element made]
          exact stepwise.left made
      | some entry =>
          rw [visitTree_of_entered below element made]
          obtain ⟨attributes, data⟩ := Document.tag?_eq_some.1 element
          have found : s.enter around node tag = ((s.enter around node tag).1, some entry) :=
            Prod.ext rfl made
          have entered := entered_of_enter walkable.valid found
          have inside := walkable.inside entered element
          have under := visits_visitForest (f := below) inside.valid
          obtain ⟨F, grown, -⟩ := under.grown inside.valid
          obtain ⟨below', covers⟩ := under.covers inside.valid inside.fits
          exact stepwise.entered entered element walkable.fits
            (stepwise.enter walkable.valid data found) (inner inside) covers grown.tree under.basis

/-- What is so of the steps is so of the walk. -/
theorem visitForest {f : Forest} (walkable : Walkable around.parent f s) :
    Q s (s.visitForest f around) := by
  induction f generalizing around s with
  | nil => exact stepwise.refl s
  | cons node below rest ihBelow ihRest =>
      have here := visits_visitForest (f := .cons node below .nil) walkable.first.valid
      obtain ⟨f', first⟩ := here.covers walkable.valid walkable.fits.first
      obtain ⟨F, grown, -⟩ := here.grown walkable.valid
      have walkable' := walkable.later first.reworks grown.tree
      have later := visits_visitForest (f := rest) walkable'.valid
      obtain ⟨G, grown', -⟩ := later.grown walkable'.valid
      obtain ⟨rest', second⟩ := later.covers walkable'.valid walkable'.fits
      rw [visitForest_cons]
      refine stepwise.trans (stepwise.visitTree walkable.first ihBelow) (ihRest walkable')
        here.size_le grown'.tree later.basis fun id a isNew found isElement => ?_
      -- The later trees have no node of this one, be it old or new.
      have member := first.mem_preorder isNew (AnnotatedTree.element?_eq found isElement)
      refine second.reworks.outside a.source (first.reworks.fits.inside _ member) fun among => ?_
      rcases first.reworks.origin _ member with old | outside
      · exact walkable.fits.not_mem_first among old
      · exact Nat.not_le_of_gt (walkable.fits.later.inside _ among) outside

end Stepwise

end ComponentMarkup.Pass
