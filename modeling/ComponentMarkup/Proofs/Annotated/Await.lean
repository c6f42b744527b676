import ComponentMarkup.Proofs.Annotated.Marks
import ComponentMarkup.Proofs.Annotated.Reading
import ComponentMarkup.Proofs.Annotated.Sourced

/-!
Forests that a pass has not come to: they stand as they stood before the pass, and no annotation
stands for any of their nodes.
-/

namespace ComponentMarkup.Pass

/-- The node that holds the children of an element when it has been entered: the element itself, or
the one split off it, which is the next node that is made. -/
def Entry.holder (entry : Entry) (s : Pass) (node : NodeId) : NodeId :=
  if entry.opened.length = 1 then node else s.document.size

/-- The walk of `f`, which stands below `holder`, is still to come in `s`. -/
structure Awaits (d : Document) (parent : Option AnnotatedId) (holder : Option NodeId) (f : Forest)
    (s : Pass) : Prop where
  walkable : Walkable parent f s
  carries : d.Carries s.document holder f
  size : d.size ≤ s.document.size
  apart : ∀ id m, s.marks id = some m → m.source ∉ f.preorder
  above : ∀ q ∈ holder, q < s.document.size ∧ q ∉ f.preorder

variable {d : Document} {s t : Pass} {parent : Option AnnotatedId} {holder : Option NodeId}
  {around : Surroundings} {owner inner : Option ComponentId} {node : NodeId} {tag : String}
  {below rest : Forest} {entry : Entry}

/-- What is made on entering an element stands for the element, or for a new one. -/
theorem Marked.source {id : AnnotatedId} {m : Mark} (marked : Marked owner node tag s t inner)
    (found : t.marks id = some m) :
    s.marks id = some m ∨ m.source = node ∨ m.source = s.document.size := by
  have made {m' : Mark} {s t : Pass} (makes : Makes m' s t) (found : t.marks id = some m) :
      s.marks id = some m ∨ m = m' := by
    rw [makes.marks, Function.update_apply] at found
    split at found
    · exact .inr (Option.some.inj found).symm
    · exact .inl found
  cases marked with
  | plain makes _ => exact (made makes found).imp_right fun same => .inl (congrArg Mark.source same)
  | structural makes _ =>
      exact (made makes found).imp_right fun same => .inl (congrArg Mark.source same)
  | split makes content _ =>
      rcases made content found with earlier | same
      · exact (made makes earlier).imp_right fun same => .inl (congrArg Mark.source same)
      · exact .inr (.inr (congrArg Mark.source same))

/-- What stands for an old node off the walked forest was there before. -/
theorem Sourced.marks_outside {f F : Forest} (sourced : Sourced f s t)
    (grows : s.annotations.Grows parent F t.annotations) {id : AnnotatedId} {m : Mark}
    (found : t.marks id = some m) (old : m.source < s.document.size) (outside : m.source ∉ f.preorder) :
    s.marks id = some m := by
  obtain ⟨a, present, rfl⟩ := Option.map_eq_some_iff.1 found
  rcases Nat.lt_or_ge id s.annotations.nodes.size with early | late
  · obtain ⟨b, before, core⟩ := grows.get?_old early present
    rw [marks, before, Option.map_some, AnnotatedNode.mark_of_core core]
  · rcases sourced.located id a late present with member | isNew
    · exact absurd member outside
    · exact absurd old (Nat.not_lt_of_ge isNew.1)

namespace Awaits

theorem inside (awaits : Awaits d around.parent holder (.cons node below rest) s)
    (element : s.document.tag? node = some tag) (found : s.enter around node tag = (t, some entry)) :
    Awaits d entry.inner.parent (some (entry.holder s node)) below t := by
  have walkable := awaits.walkable
  have fits := walkable.fits
  have entered := entered_of_enter walkable.valid found
  have reads := reads_enter walkable.valid element found
  have node_lt : node < s.document.size := fits.inside node List.mem_cons_self
  have notBelow : node ∉ below.preorder := fits.not_mem_below
  have newApart : s.document.size ∉ below.preorder := fun member =>
    Nat.lt_irrefl _ (fits.under.inside _ member)
  have apart : ∀ id m, t.marks id = some m → m.source ∉ below.preorder := by
    intro id m made
    rcases (marked_enter element found).source made with earlier | same | same
    · exact fun member => awaits.apart id m earlier
        (List.mem_cons_of_mem _ (List.mem_append_left _ member))
    · rwa [same]
    · rwa [same]
  rcases entered.cases element fits with
    ⟨directive, enters, opened, -⟩ | ⟨d', host, divided, opened, -⟩
  · obtain ⟨a, -, -, written⟩ := reads.whole opened
    have size : t.document.size = s.document.size := by rw [written, Document.size_mapAttributes]
    have holds : entry.holder s node = node := by rw [Entry.holder, opened, if_pos List.length_singleton]
    rw [holds]
    refine ⟨walkable.inside entered element, ?_, size ▸ awaits.size, apart, fun q isHolder => ?_⟩
    · refine awaits.carries.2.1.congr fun n member => ?_
      rw [written]
      exact Document.node?_mapAttributes_of_ne _ _ fun same => notBelow (same ▸ member)
    · rw [← Option.some.inj isHolder, size]
      exact ⟨node_lt, notBelow⟩
  · obtain ⟨-, written⟩ := reads.split opened
    have size : t.document.size = s.document.size + 1 := divided.document_size
    have holds : entry.holder s node = s.document.size := by
      rw [Entry.holder, opened]
      exact if_neg (Nat.succ_ne_self 1)
    rw [holds]
    obtain ⟨⟨old, -, now⟩, carries, -⟩ := awaits.carries
    obtain ⟨attributes, data⟩ := Document.tag?_eq_some.1 element
    rw [Document.data?_eq now] at data
    refine ⟨walkable.inside entered element, ?_, ?_, apart, fun q isHolder => ?_⟩
    · refine (carries_splitContent carries fits now (Option.some.inj data)).congr fun n member => ?_
      rw [written]
      exact Document.node?_mapAttributes_of_ne _ _ (Nat.ne_of_lt (fits.under.inside n member))
    · rw [size]
      exact Nat.le_succ_of_le awaits.size
    · rw [← Option.some.inj isHolder, size]
      exact ⟨Nat.lt_succ_self _, newApart⟩

/-- Walking a tree leaves the trees behind it to come, and what holds them as it was. -/
theorem later (awaits : Awaits d around.parent holder (.cons node below rest) s)
    (visits : Visits (.cons node below .nil) around s t) :
    Awaits d around.parent holder rest t ∧
      ∀ q ∈ holder, t.document.node? q = s.document.node? q := by
  have walkable := awaits.walkable
  have fits := walkable.fits
  have apart (n : NodeId) (member : n ∈ rest.preorder) := fits.not_mem_first member
  obtain ⟨f', covers⟩ := visits.covers walkable.valid fits.first
  obtain ⟨F, grown, -⟩ := visits.grown walkable.valid
  have sourced := visits.sourced walkable.first
  refine ⟨⟨walkable.later covers.reworks grown.tree, ?_, Nat.le_trans awaits.size covers.reworks.size,
    fun id m found member => ?_, fun q isHolder => ?_⟩, fun q isHolder => ?_⟩
  · refine awaits.carries.2.2.congr fun n member => ?_
    exact covers.reworks.outside n (fits.later.inside n member) (apart n member)
  · refine awaits.apart id m ?_ (List.mem_cons_of_mem _ (List.mem_append_right _ member))
    exact sourced.marks_outside grown.tree found (fits.later.inside _ member) (apart _ member)
  · obtain ⟨inside, outside⟩ := awaits.above q isHolder
    exact ⟨Nat.lt_of_lt_of_le inside covers.reworks.size, fun member =>
      outside (List.mem_cons_of_mem _ (List.mem_append_right _ member))⟩
  · obtain ⟨inside, outside⟩ := awaits.above q isHolder
    exact covers.reworks.outside q inside fun member => outside (Forest.mem_preorder_of_tree member)

/-- What stands for a node of the first tree when all has been walked does so when that tree has. -/
theorem marks_first (awaits : Awaits d around.parent holder (.cons node below rest) s) {n : NodeId}
    (inFirst : n ∈ (Forest.cons node below .nil).preorder) {id : AnnotatedId} {m : Mark}
    (found : (s.visitForest (.cons node below rest) around).marks id = some m) (source : m.source = n) :
    (s.visitForest (.cons node below .nil) around).marks id = some m := by
  subst source
  have visits : Visits (.cons node below .nil) around s _ := visits_visitForest awaits.walkable.valid
  obtain ⟨later, -⟩ := awaits.later visits
  have visits' : Visits rest around (s.visitForest (.cons node below .nil) around) _ :=
    visits_visitForest later.walkable.valid
  obtain ⟨F, grown, -⟩ := visits'.grown later.walkable.valid
  have whole : m.source < d.size :=
    awaits.carries.lt_size _ (Forest.mem_preorder_of_tree inFirst)
  exact (visits'.sourced later.walkable).marks_outside grown.tree found
    (Nat.lt_of_lt_of_le whole later.size) fun member =>
      awaits.walkable.fits.not_mem_first member inFirst

section Marked
variable (awaits : Awaits d around.parent holder (.cons node below rest) s) {id : AnnotatedId} {m : Mark}
  (found : (s.visitForest (.cons node below .nil) around).marks id = some m)
include awaits found

/-- An element is not left out if something stands for a node of its tree. -/
theorem entered (inside : m.source ∈ (Forest.cons node below .nil).preorder)
    (element : s.document.tag? node = some tag) : ∃ entry, (s.enter around node tag).2 = some entry := by
  refine Option.ne_none_iff_exists'.1 fun left => ?_
  rw [visitTree_of_left below element left] at found
  obtain ⟨reports, same⟩ := enter_eq_none (t := (s.enter around node tag).1) (Prod.ext rfl left)
  rw [same] at found
  exact awaits.apart id m found (Forest.mem_preorder_of_tree inside)

/-- What has annotated nodes below it is an element. -/
theorem element (inside : m.source ∈ below.preorder) : ∃ tag, s.document.tag? node = some tag := by
  refine Option.ne_none_iff_exists'.1 fun noElement => ?_
  have whole := List.mem_cons_of_mem node (List.mem_append_left rest.preorder inside)
  cases text : s.document.text? node with
  | none =>
      rw [visitTree_of_other below noElement text] at found
      exact awaits.apart id m found whole
  | some contents =>
      have data := Document.text?_eq_some.1 text
      rw [visitTree_of_text below data] at found
      have visits : Visits (.cons node .nil .nil) around s (s.visitText around node contents) :=
        .text data .nil
      obtain ⟨F, grown, -⟩ := visits.grown awaits.walkable.valid
      have sourced : Sourced (.cons node .nil .nil) s (s.visitText around node contents) :=
        sourced_visitText awaits.walkable.valid
      have fits := awaits.walkable.fits
      refine awaits.apart id m (sourced.marks_outside grown.tree found (fits.under.inside _ inside) ?_)
        whole
      rw [Forest.mem_preorder_tree, not_or]
      exact ⟨fun same => fits.not_mem_below (same ▸ inside), List.not_mem_nil⟩

end Marked
end Awaits
end ComponentMarkup.Pass
