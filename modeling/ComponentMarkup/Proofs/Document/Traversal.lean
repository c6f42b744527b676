import ComponentMarkup.Document.Serialize
import ComponentMarkup.Html.Reading
import ComponentMarkup.Proofs.Document.Edits
import ComponentMarkup.Proofs.Document.Rework

/-!
Documents that are read from markup are well-formed, as each node is put below one that is there.
Traversals that take one step from a node to its children: the search with a stack of nodes, and the
writing of a node from what is written of its children. On every document that edits lead to, from
the empty one or from one that was read, they end and go by the order of the document.
-/

namespace ComponentMarkup

/-! ## Documents from markup -/

namespace Document
variable {d : Document} {parent child : NodeId}

theorem wellFormed_empty : empty.WellFormed :=
  .of_checked (show empty.Checked fun _ => 0 by decide)

theorem WellFormed.congr {d' : Document} (wellFormed : d.WellFormed)
    (children : ∀ n, d'.children n = d.children n) (parents : ∀ n, d'.parent? n = d.parent? n) :
    d'.WellFormed := by
  obtain ⟨linked, grounded⟩ := wellFormed_iff.1 wellFormed
  exact wellFormed_iff.2 ⟨linked.congr children parents, grounded.congr parents⟩

/-- A node without children is above no other. -/
theorem Linked.not_isBelow (linked : d.Linked) (bare : d.children child = []) (n : NodeId) :
    ¬ d.IsBelow n child := by
  rintro ⟨steps, reached⟩
  obtain ⟨m, -, isParent⟩ := Option.bind_eq_some_iff.1 reached
  have member := (linked.agrees child m).2 isParent
  rw [bare] at member
  cases member

theorem WellFormed.append (wellFormed : d.WellFormed) (hasParent : parent < d.size)
    (hasChild : child < d.size) (other : parent ≠ child) (bare : d.children child = []) :
    (d.append parent child).WellFormed := by
  obtain ⟨linked, grounded⟩ := wellFormed_iff.1 wellFormed
  exact wellFormed_iff.2 ⟨linked.append hasParent hasChild,
    grounded.append other (linked.not_isBelow bare parent)⟩

/-- A new node may be put below any node that is there. -/
theorem WellFormed.append_new (wellFormed : d.WellFormed) (hasParent : parent < d.size)
    (data : NodeData) (position : Position) (f : Attributes → Attributes) :
    (((d.add data position).2.mapAttributes d.size f).append parent d.size).WellFormed := by
  have same (n : NodeId) :
      ((d.add data position).2.mapAttributes d.size f).children n = d.children n := by
    rw [children_mapAttributes, children_add]
  have placed : ((d.add data position).2.mapAttributes d.size f).WellFormed := by
    refine wellFormed.congr same fun n => ?_
    rw [parent?_mapAttributes, parent?_add]
  refine placed.append ?_ ?_ (Nat.ne_of_lt hasParent) ?_
  · rw [size_mapAttributes, size_add]
    exact Nat.lt_succ_of_lt hasParent
  · rw [size_mapAttributes, size_add]
    exact Nat.lt_succ_self _
  · rw [same, children_eq_nil (Nat.le_refl _)]

end Document

namespace Html
open Document
variable {d : Document} {parent : NodeId}

theorem addRead_element (tag : String) (attributes : Attributes) (parent : NodeId)
    (around : Position) (l : Locator) (d : Document) :
    addRead (.element tag attributes) parent around l d =
      (d.size, ((l.locate tag).getD ({}, l)).1, ((l.locate tag).getD ({}, l)).2,
        ((d.createElement tag ((l.locate tag).getD ({}, l)).1).2.mapAttributes d.size fun old =>
          attributes.entries.foldl (fun kept entry => kept.insert entry.1 entry.2) old).append parent
            d.size) := by
  rw [← foldl_mapAttributes _ _ fun (entry : String × String) kept => kept.insert entry.1 entry.2]
  rfl

theorem addRead_spec (wellFormed : d.WellFormed) (hasParent : parent < d.size) (data : NodeData)
    (around : Position) (l : Locator) :
    (addRead data parent around l d).1 = d.size ∧
      (addRead data parent around l d).2.2.2.WellFormed ∧
      (addRead data parent around l d).2.2.2.size = d.size + 1 := by
  have plain (position : Position) :
      ((d.add data position).2.append parent d.size).WellFormed ∧
        ((d.add data position).2.append parent d.size).size = d.size + 1 := by
    have added := wellFormed.append_new hasParent data position id
    rw [show (d.add data position).2.mapAttributes d.size id = (d.add data position).2 from
      mapAttributes_id _ _] at added
    exact ⟨added, by rw [size_append, size_add]⟩
  cases data with
  | document => exact ⟨rfl, plain around⟩
  | doctype name => exact ⟨rfl, plain {}⟩
  | text contents => exact ⟨rfl, plain around⟩
  | comment contents => exact ⟨rfl, plain around⟩
  | element tag attributes =>
      rw [addRead_element]
      refine ⟨rfl, wellFormed.append_new hasParent _ _ _, ?_⟩
      rw [size_append, size_mapAttributes]
      exact d.size_add _ _

theorem addForest_spec (tree : Document) (f : Forest) (wellFormed : d.WellFormed)
    (hasParent : parent < d.size) (around : Position) (l : Locator) :
    (addForest tree f parent around l d).2.WellFormed ∧
      d.size ≤ (addForest tree f parent around l d).2.size := by
  induction f generalizing d parent around l with
  | nil => exact ⟨wellFormed, Nat.le_refl _⟩
  | cons id children rest ihChildren ihRest =>
      rw [addForest]
      cases tree.data? id with
      | none => exact ihRest wellFormed hasParent around l
      | some data =>
          dsimp only
          obtain ⟨isNew, added, grown⟩ := addRead_spec wellFormed hasParent data around l
          generalize addRead data parent around l d = read at isNew added grown ⊢
          obtain ⟨node, position, l', d'⟩ := read
          dsimp only at isNew added grown ⊢
          have inside : node < d'.size := by rw [grown, isNew]; exact Nat.lt_succ_self _
          have older : d.size ≤ d'.size := by rw [grown]; exact Nat.le_succ _
          obtain ⟨filled, kept⟩ := ihChildren added inside position l'
          obtain ⟨whole, kept'⟩ := ihRest filled
            (Nat.lt_of_lt_of_le hasParent (older.trans kept)) around
            (addForest tree children node position l' d').1
          exact ⟨whole, older.trans (kept.trans kept')⟩

end Html

theorem Document.wellFormed_ofMarkup (source : String) :
    (Document.ofMarkup source).WellFormed ∧ root < (Document.ofMarkup source).size := by
  obtain ⟨wellFormed, grown⟩ := Html.addForest_spec (Html.parseTree source)
    ((Html.parseTree source).below root) wellFormed_empty
    (show root < empty.size by decide) {} (.new source)
  exact ⟨wellFormed, Nat.lt_of_lt_of_le (by decide) grown⟩

/-! ## Traversals -/

namespace Document

section Traversal
variable {d : Document} {f below rest : Forest} {n : NodeId}

/-! ### Search -/

/-- The stack with the children on top of it, the first child uppermost. -/
def pushed (children stack : List NodeId) : List NodeId :=
  children.reverse.foldl (fun stack child => child :: stack) stack

theorem pushed_eq (children stack : List NodeId) : pushed children stack = children ++ stack := by
  rw [pushed, List.foldl_flip_cons_eq_append, List.map_id', List.reverse_reverse]

/-- The search takes a node off the stack. It ends there if that is an element with the tag, and
goes on with the children of the node on top of the stack if not. -/
inductive Searches (d : Document) (tag : String) : List NodeId → Option NodeId → Prop where
  | exhausted : Searches d tag [] none
  | found {node : NodeId} {stack : List NodeId} (element : d.isElement node tag = true) :
      Searches d tag (node :: stack) (some node)
  | deeper {node : NodeId} {stack : List NodeId} {result : Option NodeId}
      (other : d.isElement node tag = false)
      (later : Searches d tag (pushed (d.children node) stack) result) :
      Searches d tag (node :: stack) result

variable {tag : String} {stack : List NodeId} {result result' : Option NodeId}

theorem Searches.unique (first : d.Searches tag stack result) (second : d.Searches tag stack result') :
    result = result' := by
  induction first with
  | exhausted => cases second; rfl
  | found element =>
      cases second with
      | found => rfl
      | deeper other => rw [element] at other; cases other
  | deeper other _ ih =>
      cases second with
      | found element => rw [element] at other; cases other
      | deeper _ later => exact ih later

/-- A forest on top of the stack is searched before the rest of the stack. -/
theorem Searches.of_follows (follows : f.Follows d.children) (later : d.Searches tag stack result) :
    d.Searches tag (f.tops ++ stack) ((f.preorder.find? (d.isElement · tag)).or result) := by
  induction f generalizing stack result with
  | nil => exact later
  | cons node below rest ihBelow ihRest =>
      obtain ⟨isBelow, followsBelow, followsRest⟩ := follows
      rw [Forest.tops, Forest.preorder, List.cons_append]
      cases element : d.isElement node tag with
      | true =>
          rw [List.find?_cons, element]
          exact .found element
      | false =>
          rw [List.find?_cons, element, List.find?_append, Option.or_assoc]
          refine .deeper element ?_
          rw [pushed_eq, ← isBelow]
          exact ihBelow followsBelow (ihRest followsRest later)

/-- From the root the search ends, with the first element in document order. -/
theorem WellFormed.searches_iff (wellFormed : d.WellFormed) (inside : root < d.size) :
    d.Searches tag [root] result ↔ result = d.findElement? tag := by
  obtain ⟨tops, follows, -⟩ := wellFormed.forest_spec inside
  have ends : d.Searches tag [root] (d.findElement? tag) := by
    have ends : d.Searches tag _ _ := .of_follows follows .exhausted
    rwa [tops, Option.or_none] at ends
  exact ⟨fun searches => searches.unique ends, fun same => same ▸ ends⟩

/-! ### Writing -/

/-- A node with what is written of its children. -/
def enclosed (d : Document) (keep : NodeId → String → Bool) (id : NodeId) (inner : String) : String :=
  match d.data? id with
  | none => ""
  | some .document => inner
  | some (.doctype name) => "<!DOCTYPE " ++ name ++ ">"
  | some (.text contents) => if d.inRawText id then contents else Text.escapedText contents
  | some (.comment contents) => "<!--" ++ contents ++ "-->"
  | some (.element tag _) =>
      if Tag.isVoid tag then d.startTagWith keep id
      else d.startTagWith keep id ++ inner ++ "</" ++ tag ++ ">"

variable {keep : NodeId → String → Bool}

theorem writeForest_cons (d : Document) (keep : NodeId → String → Bool) (id : NodeId)
    (below rest : Forest) : d.writeForest keep (.cons id below rest) =
      d.enclosed keep id (d.writeForest keep below) ++ d.writeForest keep rest := by
  cases found : d.data? id with
  | none => simp only [writeForest, enclosed, found]
  | some data => cases data <;> simp only [writeForest, enclosed, found]

theorem Fits.writeForest_eq_join (fits : d.Fits f) :
    d.writeForest keep f = String.join (f.tops.map (d.markupWith keep)) := by
  induction f with
  | nil => rfl
  | cons node below rest _ ih =>
      have own : d.markupWith keep node = d.enclosed keep node (d.writeForest keep below) := by
        rw [markupWith, forest_eq_of_fits fits.first rfl, writeForest_cons, writeForest,
          String.append_empty]
      rw [writeForest_cons, ih fits.later, Forest.tops, List.map_cons, String.join_cons, own]

/-- A node is written from what is written of its children, one after the other. -/
theorem WellFormed.markupWith_eq (wellFormed : d.WellFormed) (inside : n < d.size) :
    d.markupWith keep n =
      d.enclosed keep n (String.join ((d.children n).map (d.markupWith keep))) := by
  have fits := wellFormed.fits_forest inside
  have shape := wellFormed.forest_eq_cons inside
  rw [shape] at fits
  rw [markupWith, shape, writeForest_cons, writeForest, String.append_empty,
    fits.under.writeForest_eq_join, fits.follows.1]

end Traversal

/-! ## Edited documents -/

section Edited
variable {start : Document} {edits : List Edit}

theorem wellFormed_of_start (origin : start = .empty ∨ ∃ source, start = .ofMarkup source) :
    start.WellFormed ∧ root < start.size := by
  rcases origin with rfl | ⟨source, rfl⟩
  · exact ⟨wellFormed_empty, by decide⟩
  · exact wellFormed_ofMarkup source

/-- Parents and children agree after any edits, and moved children come behind those that are there.
As long as no edit puts a node below itself, chains of parents end, every node has a finite forest
below it from which it is written, and the search for an element finds the first in that order. -/
theorem agrees_and_ends_edit (origin : start = .empty ∨ ∃ source, start = .ofMarkup source)
    (named : start.Allows Edit.IsNamed edits) :
    (∀ parent child, child ∈ (start.edit edits).children parent ↔
      (start.edit edits).parent? child = some parent) ∧
    (∀ parent, ((start.edit edits).children parent).Nodup) ∧
    (∀ n p q, n ∈ (start.edit edits).children p → n ∈ (start.edit edits).children q → p = q) ∧
    (∀ source target, source < (start.edit edits).size → target < (start.edit edits).size →
      source ≠ target →
        ((start.edit edits).moveChildren source target).children target =
            (start.edit edits).children target ++ (start.edit edits).children source ∧
          ((start.edit edits).moveChildren source target).children source = []) ∧
    (start.Allows Edit.KeepsTree edits →
      (∀ n, ∃ steps, (start.edit edits).above steps n = none) ∧
      (∀ n < (start.edit edits).size,
        ((start.edit edits).forest n).tops = [n] ∧
          ((start.edit edits).forest n).Follows (start.edit edits).children ∧
          ∀ keep, (start.edit edits).markupWith keep n = (start.edit edits).enclosed keep n
            (String.join (((start.edit edits).children n).map ((start.edit edits).markupWith keep)))) ∧
      ∀ tag result, (start.edit edits).Searches tag [root] result ↔
        result = ((start.edit edits).forest root).preorder.find?
          ((start.edit edits).isElement · tag)) := by
  obtain ⟨wellFormed, hasRoot⟩ := wellFormed_of_start origin
  have linked := (wellFormed_iff.1 wellFormed).1.edit named
  refine ⟨linked.agrees, linked.distinct, fun n p q => linked.unique, ?_, fun tree => ?_⟩
  · intro source target _ hasTarget other
    rw [children_moveChildren hasTarget, children_moveChildren hasTarget, if_pos rfl,
      if_neg (Ne.symm other), if_neg other, if_pos rfl]
    exact ⟨rfl, rfl⟩
  · have edited := wellFormed.edit named tree
    refine ⟨(wellFormed_iff.1 edited).2, fun n inside => ?_, fun tag result => ?_⟩
    · obtain ⟨tops, follows, -⟩ := edited.forest_spec inside
      exact ⟨tops, follows, fun keep => edited.markupWith_eq inside⟩
    · exact edited.searches_iff (Nat.lt_of_lt_of_le hasRoot (size_le_edit start edits))

/-- A text goes from one element to the other, and both to a copy of the second. -/
def regrouped : List Edit :=
  [.createElement "section" {}, .createElement "p" {}, .createText "words" {}, .append 2 3,
    .append 1 2, .append 1 3, .clone 1, .moveChildren 1 4, .append root 4]

theorem not_isBelow_of_top {d : Document} {n a : NodeId} (top : d.parent? n = none) :
    ¬ d.IsBelow n a := by
  rintro ⟨steps, reached⟩
  rw [above_succ_eq_none top] at reached
  cases reached

theorem agrees_and_ends_edit_regrouped :
    empty.Allows Edit.IsNamed regrouped ∧ empty.Allows Edit.KeepsTree regrouped ∧
      (empty.edit regrouped).children root = [4] ∧ (empty.edit regrouped).children 4 = [2, 3] ∧
      (empty.edit regrouped).children 1 = [] ∧ (empty.edit regrouped).parent? 3 = some 4 ∧
      (empty.edit regrouped).Searches "p" [root] (some 2) := by
  have named : empty.Allows Edit.IsNamed regrouped := by decide +kernel
  have tree : empty.Allows Edit.KeepsTree regrouped :=
    ⟨trivial, trivial, trivial, ⟨by decide, not_isBelow_of_top (by decide +kernel)⟩,
      ⟨by decide, not_isBelow_of_top (by decide +kernel)⟩,
      ⟨by decide, not_isBelow_of_top (by decide +kernel)⟩, trivial,
      not_isBelow_of_top (by decide +kernel),
      ⟨by decide, not_isBelow_of_top (by decide +kernel)⟩, trivial⟩
  obtain ⟨agrees, -, -, -, ends⟩ := agrees_and_ends_edit (.inl rfl) named
  have copied : (empty.edit regrouped).children 4 = [2, 3] := by decide +kernel
  refine ⟨named, tree, by decide +kernel, copied, by decide +kernel, ?_, ?_⟩
  · exact (agrees 4 3).1 (by rw [copied]; decide)
  · exact ((ends tree).2.2 "p" (some 2)).2 (by decide +kernel)

end Edited

end Document
end ComponentMarkup
