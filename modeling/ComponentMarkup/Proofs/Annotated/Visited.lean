import ComponentMarkup.Proofs.Annotated.BesideEntry
import ComponentMarkup.Proofs.Annotated.Lasting
import ComponentMarkup.Proofs.Annotated.Parallel
import ComponentMarkup.Proofs.Annotated.Roots
import ComponentMarkup.Proofs.Document.Relocated

/-!
The nodes that a pass comes to. For every one that it enters there is an annotation afterwards.
-/

namespace ComponentMarkup

namespace Document

/-- The node is an element that is neither a script nor to be dropped, so that what is below it is
walked. -/
def walksInto (d : Document) (node : NodeId) : Bool :=
  (d.tag? node).any fun tag => tag != "script" && (Plan.read d node tag).2 != .dropped

/-- The nodes of a forest that a pass over it comes to. -/
def visited (d : Document) : Forest → List NodeId
  | .nil => []
  | .cons node below rest =>
      node :: ((if d.walksInto node then d.visited below else []) ++ d.visited rest)

variable {d : Document} {f : Forest} {n : NodeId}

theorem walksInto_iff : d.walksInto n = true ↔
    ∃ tag, d.tag? n = some tag ∧ tag ≠ "script" ∧ (Plan.read d n tag).2 ≠ .dropped := by
  rw [walksInto, Option.any_eq_true]
  simp only [Bool.and_eq_true, bne_iff_ne]

theorem mem_preorder_of_mem_visited (member : n ∈ d.visited f) : n ∈ f.preorder := by
  induction f with
  | nil => cases member
  | cons node below rest ihBelow ihRest =>
      rw [visited, List.mem_cons, List.mem_append] at member
      rw [Forest.preorder, List.mem_cons, List.mem_append]
      rcases member with here | member | member
      · exact .inl here
      · split at member
        · exact .inr (.inl (ihBelow member))
        · cases member
      · exact .inr (.inr (ihRest member))

end Document

theorem Plan.underDeclaration_of_tag? {d e : Document} {n : NodeId}
    (same : (e.parent? n).bind e.tag? = (d.parent? n).bind d.tag?) :
    underDeclaration e n = underDeclaration d n := by
  have shown (d : Document) (above : Option NodeId) :
      above.any (d.isElement · "element") = (above.bind d.tag? == some "element") := by
    cases above <;> rfl
  rw [underDeclaration_eq, underDeclaration_eq, shown, shown, same]

namespace Pass
variable {d : Document} {s t : Pass} {holder : Option NodeId} {around : Surroundings}
  {node n : NodeId} {tag : String} {f below rest : Forest} {entry : Entry} {id : AnnotatedId} {m : Mark}

theorem lt_size_of_marks (found : s.marks id = some m) : id < s.annotations.nodes.size := by
  obtain ⟨a, present, -⟩ := Option.map_eq_some_iff.1 found
  exact AnnotatedTree.lt_size_of_get? present

theorem Visits.marks (visits : Visits f around s t)
    (valid : ∀ q ∈ around.parent, q < s.annotations.nodes.size) (found : s.marks id = some m) :
    t.marks id = some m := by
  obtain ⟨F, grown, -⟩ := visits.grown valid
  exact (marks_old grown.tree (lt_size_of_marks found)).trans found

/-- Entering an element makes an annotation that stands for it. -/
theorem Marked.exists_mark {owner inner : Option ComponentId}
    (marked : Marked owner node tag s t inner) : ∃ id m, t.marks id = some m ∧ m.source = node := by
  have made {m' : Mark} {s t : Pass} (makes : Makes m' s t) :
      t.marks s.annotations.nodes.size = some m' := by
    rw [makes.marks, Function.update_self]
  cases marked with
  | plain makes _ => exact ⟨_, _, made makes, rfl⟩
  | structural makes _ => exact ⟨_, _, made makes, rfl⟩
  | @split host makes content _ =>
      refine ⟨s.annotations.nodes.size, ⟨node, false, false⟩, ?_, rfl⟩
      rw [content.marks, Function.update_of_ne]
      · change host.marks _ = _
        exact made makes
      · rw [annotations_mapDocument, makes.size]
        exact Nat.ne_of_lt (Nat.lt_succ_self _)

namespace Awaits

/-- The children of an element that has been entered are below an element with its tag. -/
theorem tag?_holder (awaits : Awaits d around.parent holder (.cons node below rest) s)
    (element : s.document.tag? node = some tag) (found : s.enter around node tag = (t, some entry)) :
    t.document.tag? (entry.holder s node) = some tag := by
  have fits := awaits.walkable.fits
  have entered := entered_of_enter awaits.walkable.valid found
  have reads := reads_enter awaits.walkable.valid element found
  rcases entered.cases element fits with
    ⟨directive, enters, opened, -⟩ | ⟨d', host, divided, opened, -⟩
  · obtain ⟨a, -, -, written⟩ := reads.whole opened
    rw [Entry.holder, opened, if_pos List.length_singleton, written, Document.tag?_mapAttributes]
    exact element
  · obtain ⟨-, written⟩ := reads.split opened
    obtain ⟨attributes, data⟩ := Document.tag?_eq_some.1 element
    have holds : entry.holder s node = s.document.size := by
      rw [Entry.holder, opened]
      exact if_neg (Nat.succ_ne_self 1)
    rw [holds, written, Document.tag?_mapAttributes, Document.tag?,
      (data?_splitContent_new data fits.children_lt).1]

section Plan
variable (awaits : Awaits d around.parent holder (.cons node below rest) s)
  (fits : d.Fits (.cons node below rest))
  (held : holder.bind s.document.tag? = (d.parent? node).bind d.tag?)
include awaits fits held

/-- What is planned for a node that the pass has not come to is what was planned in the beginning. -/
theorem snd_read (tag : String) : (Plan.read s.document node tag).2 = (Plan.read d node tag).2 := by
  have copied (child : NodeId) (top : child ∈ below.tops) :=
    awaits.carries.copied child
      (List.mem_cons_of_mem _ (List.mem_append_left _ (Forest.mem_preorder_of_mem_tops top)))
  have children : s.document.children node = d.children node := by
    rw [← awaits.walkable.fits.follows.1, ← fits.follows.1]
  obtain ⟨old, -, now⟩ := awaits.carries.1
  refine Plan.snd_read_congr (Plan.underDeclaration_of_tag? ?_) ?_
    (awaits.carries.copied node List.mem_cons_self).data tag
  · rw [Document.parent?_eq now]
    exact held
  · refine Plan.isEmptyBody_map (ρ := fun m => m) ?_ (fun child member => ?_) fun child member => ?_
    · rw [children, List.map_id']
    · rw [← fits.follows.1] at member
      rw [Document.tag?_of_data? (copied child member).data]
    · rw [← fits.follows.1] at member
      exact Document.text?_of_data? (copied child member).data

theorem enter_of_walksInto (walks : d.walksInto node = true) : ∃ tag entry,
    s.document.tag? node = some tag ∧ (s.enter around node tag).2 = some entry := by
  obtain ⟨tag, element, notScript, kept⟩ := Document.walksInto_iff.1 walks
  have element' := (Document.tag?_of_data? (awaits.carries.copied node List.mem_cons_self).data).trans
    element
  cases entered : (s.enter around node tag).2 with
  | some entry => exact ⟨tag, entry, element', entered⟩
  | none =>
      rcases left_of_enter (t := (s.enter around node tag).1) (Prod.ext rfl entered) with
        ⟨script, -⟩ | ⟨dropped, -⟩
      · exact absurd script notScript
      · exact absurd ((awaits.snd_read fits held tag).symm.trans dropped) kept

end Plan

/-- For a node that is visited and entered there is an annotation when the walk is over. -/
theorem exists_mark (wellFormed : d.WellFormed) (awaits : Awaits d around.parent holder f s)
    (fits : d.Fits f) (held : ∀ top ∈ f.tops, holder.bind s.document.tag? = (d.parent? top).bind d.tag?)
    (visited : n ∈ d.visited f) (walks : d.walksInto n = true) :
    ∃ id m, (s.visitForest f around).marks id = some m ∧ m.source = n := by
  induction f generalizing around holder s with
  | nil => cases visited
  | cons node below rest ihBelow ihRest =>
      have visits : Visits (.cons node below .nil) around s _ :=
        visits_visitForest awaits.walkable.valid
      obtain ⟨later, same⟩ := awaits.later visits
      have rested : Visits rest around (s.visitForest (.cons node below .nil) around) _ :=
        visits_visitForest later.walkable.valid
      have heldHere := held node List.mem_cons_self
      rw [Document.visited, List.mem_cons, List.mem_append] at visited
      rw [visitForest_cons]
      have inTree (found : ∃ id m, (s.visitForest (.cons node below .nil) around).marks id = some m ∧
          m.source = n) : ∃ id m, ((s.visitForest (.cons node below .nil) around).visitForest rest
            around).marks id = some m ∧ m.source = n := by
        obtain ⟨id, m, marked, source⟩ := found
        exact ⟨id, m, rested.marks later.walkable.valid marked, source⟩
      rcases visited with rfl | inBelow | inRest
      · obtain ⟨tag, entry, element, entered⟩ := awaits.enter_of_walksInto fits heldHere walks
        have found : s.enter around n tag = ((s.enter around n tag).1, some entry) :=
          Prod.ext rfl entered
        obtain ⟨id, m, marked, source⟩ := (marked_enter element found).exists_mark
        refine inTree ⟨id, m, ?_, source⟩
        have valid := (entered_of_enter awaits.walkable.valid found).size.2
        rw [visitTree_of_entered below element entered, (keeps_foldl_identify _ entry.opened).marks]
        exact (visits_visitForest valid).marks valid marked
      · split at inBelow
        · next walksHere =>
          obtain ⟨tag, entry, element, entered⟩ := awaits.enter_of_walksInto fits heldHere walksHere
          have found : s.enter around node tag = ((s.enter around node tag).1, some entry) :=
            Prod.ext rfl entered
          have tagged := awaits.tag?_holder element found
          have unchanged := Document.tag?_of_data? (awaits.carries.copied node List.mem_cons_self).data
          obtain ⟨id, m, marked, source⟩ := ihBelow (awaits.inside element found) fits.under
            (fun top isTop => by
              rw [fits.follows.1] at isTop
              rw [Option.bind_some, (wellFormed.linked node top).1 isTop, Option.bind_some, tagged,
                ← unchanged, element]) inBelow
          refine inTree ⟨id, m, ?_, source⟩
          rw [visitTree_of_entered below element entered, (keeps_foldl_identify _ entry.opened).marks]
          exact marked
        · cases inBelow
      · refine ihRest later fits.later (fun top isTop => ?_) inRest
        rw [← held top (List.mem_cons_of_mem _ isTop)]
        cases holder with
        | none => rfl
        | some q => exact Document.tag?_of_data? (Document.data?_congr (same q rfl))

end Awaits
end Pass
end ComponentMarkup
