import ComponentMarkup.Proofs.Annotated.Lasting
import ComponentMarkup.Ordered

/-!
Which steps of a pass bind an annotation to a component. A component that is bound counts for the
declaration that the pass hands on, or for the file.
-/

namespace ComponentMarkup

/-- The component is one of the table, if it is one. -/
def Basis.Knows (b : Basis) (owner : Option ComponentId) : Prop :=
  ∀ id ∈ owner, (b.declaration id).isSome = true

namespace Pass

/-- What counts for a component, or for the file. -/
def usedBy (s : Pass) : Option ComponentId → List ComponentId
  | none => s.file.used
  | some id => ((s.components.get? id).map Component.used).getD []

variable {s t u : Pass} {id : AnnotatedId} {node : NodeId} {tag : String}
  {owner o : Option ComponentId} {parent : Option AnnotatedId} {around : Surroundings}
  {entry : Entry}

/-! ## Quiet steps -/

/-- From `s` to `t` nothing is bound to a component and nothing counts as used. -/
structure Quiet (s t : Pass) : Prop where
  usedBy : t.usedBy = s.usedBy
  bound : t.component? = s.component?

namespace Quiet

theorem refl (s : Pass) : Quiet s s := ⟨rfl, rfl⟩

theorem trans (first : Quiet s t) (second : Quiet t u) : Quiet s u :=
  ⟨second.usedBy.trans first.usedBy, second.bound.trans first.bound⟩

theorem of_annotations (same : t.annotations = s.annotations) (usedBy : t.usedBy = s.usedBy) :
    Quiet s t where
  usedBy := usedBy
  bound := by
    funext n
    rw [component?, component?, same]

theorem update {f : AnnotatedNode → AnnotatedNode} (s : Pass) (id : AnnotatedId)
    (same : ∀ a, (f a).component? = a.component?) : Quiet s (s.update id f) where
  usedBy := rfl
  bound := by
    funext n
    rw [component?, component?, annotations_update, AnnotatedTree.get?_update]
    split
    · cases s.annotations.get? n with
      | none => rfl
      | some a => exact same a
    · rfl

theorem annotate (s : Pass) (node : NodeId) (parent : Option AnnotatedId) {kind : AnnotatedKind}
    (unbound : AnnotatedNode.component? { source := node, parent, kind } = none) :
    Quiet s (s.annotate node parent kind).2 where
  usedBy := rfl
  bound := by
    funext n
    have shown (u : Pass) : u.component? n =
        ((u.annotations.get? n).map AnnotatedNode.component?).getD none := by
      rw [component?]
      cases u.annotations.get? n <;> rfl
    have added := s.annotations.map_add AnnotatedNode.component? (fun _ _ => rfl) node parent kind n
    rw [shown, shown, annotations_annotate, added]
    split
    · next isNew =>
      rw [unbound, isNew, AnnotatedTree.get?, Array.getElem?_eq_none (Nat.le_refl _)]
      rfl
    · rfl

end Quiet

theorem Edits.quiet (edits : Edits id node s t) : Quiet s t := by
  obtain ⟨g, f, reports, revision, -, rfl⟩ := edits.exists_update
  have revised := Quiet.update s id fun a =>
    congrArg Prod.snd (AnnotatedNode.sketch_of_outline (revision.outline a))
  exact ⟨revised.usedBy, revised.bound⟩

theorem quiet_takeOverChildren (s : Pass) (id : AnnotatedId) : Quiet s (s.takeOverChildren id) :=
  .update s id fun _ => rfl

theorem quiet_identify (s : Pass) (id : AnnotatedId) : Quiet s (s.identify id) := by
  have marked : Quiet s (s.markQuery id) := by
    rw [markQuery_eq]
    split
    · exact .update s _ fun _ => rfl
    · exact .refl s
  unfold identify
  split
  · exact .refl s
  · split
    · exact .refl s
    · refine marked.trans ?_
      generalize s.markQuery id = marked
      unfold number
      rw [draw]
      dsimp only
      split
      · refine Quiet.trans ?_ (.update _ id fun _ => rfl)
        exact .of_annotations rfl rfl
      · refine Quiet.trans ?_ (.update _ id fun _ => rfl)
        exact .of_annotations rfl rfl

theorem quiet_foldl_identify (s : Pass) (ids : List AnnotatedId) :
    Quiet s (ids.foldl identify s) := by
  induction ids generalizing s with
  | nil => exact .refl s
  | cons id ids ih => exact (quiet_identify s id).trans (ih _)

theorem Pieces.quiet {parent : AnnotatedId} (pieces : Pieces parent s t) : Quiet s t := by
  induction pieces with
  | refl => exact .refl s
  | @literal t _ contents position ih =>
      have added : Quiet t (t.addText contents position).2 := .of_annotations rfl rfl
      exact ih.trans (added.trans (.annotate _ _ _ rfl))
  | @placeholder t _ position expr ih =>
      have added : Quiet t (t.addText "" position).2 := .of_annotations rfl rfl
      have annotated : Quiet (t.addText "" position).2 ((t.addText "" position).2.annotate
          t.document.size (some parent) (.text (some expr))).2 := .annotate _ _ _ rfl
      refine ih.trans ((added.trans annotated).trans (Quiet.trans ?_ (.update _ _ fun _ => rfl)))
      exact .of_annotations rfl rfl

theorem quiet_visitText (s : Pass) (around : Surroundings) (node : NodeId) (text : String) :
    Quiet s (s.visitText around node text) := by
  cases under : around.parent with
  | none =>
      rw [visitText_of_none s node under]
      exact .refl s
  | some parent =>
      cases bound : Binding.hasBinding text with
      | true =>
          obtain ⟨m, position, expr, first, second⟩ := visitText_of_bound s node under bound
          have pieces := (first.placeholder position expr).trans second
          exact (quiet_takeOverChildren s parent).trans pieces.quiet
      | false =>
          obtain ⟨m, same, shown⟩ := visitText_of_unbound s node under bound
          have unread : Quiet s m := by
            rcases same with rfl | ⟨_, rfl⟩
            · exact .refl _
            · exact .of_annotations rfl rfl
          rcases shown with shown | shown
          · rwa [shown]
          · rw [shown]
            exact unread.trans (.annotate m node _ rfl)

/-! ## Binding a component -/

/-- From `s` to `t` the annotation `id` has been bound or not, and what it is bound to counts for
`owner`. -/
structure Charges (owner : Option ComponentId) (id : AnnotatedId) (s t : Pass) : Prop where
  others : ∀ n, n ≠ id → t.component? n = s.component? n
  used : ∀ o, s.basis.Knows o → t.usedBy o =
    (if owner = o then (t.component? id).toList else []).foldl addNew (s.usedBy o)

theorem usedBy_use (owner : Option ComponentId) (component : ComponentId) (knows : s.basis.Knows o) :
    (s.use owner component).usedBy o =
      if owner = o then addNew (s.usedBy o) component else s.usedBy o := by
  cases owner with
  | none =>
      cases o with
      | none => rfl
      | some id => rfl
  | some w =>
      cases o with
      | none => rfl
      | some id =>
          have known := knows id rfl
          change ((s.components.get? id).map Component.declaration).isSome = true at known
          rw [Option.isSome_map, Option.isSome_iff_exists] at known
          obtain ⟨c, present⟩ := known
          simp only [usedBy, use, ComponentTable.get?_update, Option.some.injEq, present,
            Option.map_some]
          split <;> rfl

theorem component?_use (owner : Option ComponentId) (component : ComponentId) :
    (s.use owner component).component? = s.component? := by
  funext n
  rw [component?, component?, annotations_use]

theorem charges_bindComponent {a : AnnotatedNode} (found : s.annotations.get? id = some a)
    (element : a.isText = false) (unbound : a.component? = none) (node : NodeId) (tag : String)
    (owner : Option ComponentId) : Charges owner id s (s.bindComponent id node tag owner) := by
  have idle {t : Pass} (same : t.annotations = s.annotations) (used : t.usedBy = s.usedBy) :
      Charges owner id s t := by
    have none : t.component? id = none := by
      rw [component?, same, found]
      exact unbound
    refine ⟨fun n _ => by rw [component?, component?, same], fun o _ => ?_⟩
    rw [none, used]
    split <;> rfl
  unfold bindComponent
  dsimp only
  split
  · next component _ =>
    split
    · exact idle rfl rfl
    · generalize bound_eq : (s.mapBindings id fun b => { b with component := some component }) = bound
      have here : bound.component? id = some component := by
        rw [← bound_eq, component?, mapBindings, annotations_update,
          AnnotatedTree.get?_update_self _ _ found, Option.bind_some]
        cases a using AnnotatedNode.byKind with
        | text a binding => cases element
        | _ => rfl
      refine ⟨fun n other => ?_, fun o knows => ?_⟩
      · rw [component?_use, ← bound_eq, component?, component?, mapBindings, annotations_update,
          AnnotatedTree.get?_update_of_ne _ _ other]
      · have basis : bound.basis = s.basis := bound_eq ▸ rfl
        have used : bound.usedBy = s.usedBy := bound_eq ▸ rfl
        rw [usedBy_use owner component (basis ▸ knows), component?_use, here, used]
        split <;> rfl
  · split
    · exact idle rfl rfl
    · exact idle rfl rfl

namespace Charges

theorem before (quiet : Quiet s t) (basis : t.basis = s.basis) (charges : Charges owner id t u) :
    Charges owner id s u where
  others n other := (charges.others n other).trans (congrFun quiet.bound n)
  used o knows := by rw [charges.used o (basis ▸ knows), quiet.usedBy]

theorem after (charges : Charges owner id s t) (quiet : Quiet t u) : Charges owner id s u where
  others n other := (congrFun quiet.bound n).trans (charges.others n other)
  used o knows := by rw [quiet.usedBy, charges.used o knows, quiet.bound]

theorem of_quiet (quiet : Quiet s t) (unbound : s.component? id = none) :
    Charges owner id s t where
  others n _ := congrFun quiet.bound n
  used o _ := by
    rw [quiet.usedBy, quiet.bound, unbound]
    split <;> rfl

end Charges

/-! ## Entering -/

theorem component?_eq_none (outside : s.annotations.nodes.size ≤ id) : s.component? id = none := by
  rw [component?, AnnotatedTree.get?, Array.getElem?_eq_none outside, Option.bind_none]

theorem Quiet.unbound {a : AnnotatedNode} (quiet : Quiet s t)
    (isNew : s.annotations.nodes.size ≤ id) (found : t.annotations.get? id = some a) :
    a.component? = none := by
  have none := component?_eq_none isNew
  rw [← quiet.bound, component?, found, Option.bind_some] at none
  exact none

theorem quiet_annotateStructural (s : Pass) (around : Surroundings) (node : NodeId)
    (directive : Directive) : Quiet s (s.annotateStructural around node directive).2 := by
  have quiet : Quiet s (s.annotate node around.parent (.structural directive {} none)).2 :=
    .annotate s node _ rfl
  exact quiet.trans (.update _ _ fun _ => rfl)

theorem quiet_hosted (s : Pass) (around : Surroundings) (node : NodeId) (condition : String) :
    Quiet s (s.hosted around node condition) := by
  have made := quiet_annotateStructural s around node (.conditional condition)
  rw [annotateStructural_eq] at made
  exact made.trans (s.hosted_edits around node condition).quiet

theorem makes_hosted (s : Pass) (around : Surroundings) (node : NodeId) (condition : String) :
    Makes ⟨node, false, false⟩ s (s.hosted around node condition) := by
  have made := makes_annotateStructural s around node (.conditional condition)
  rw [annotateStructural_eq] at made
  exact made.keeps (s.hosted_edits around node condition).keeps

/-- A template that is repeated binds nothing. -/
theorem quiet_enterIteration_template (s : Pass) (around : Surroundings) (node : NodeId)
    (variableName items : String) :
    Quiet s (s.enterIteration around node "template" variableName items).1 := by
  have made := quiet_annotateStructural s around node (.iteration variableName items)
  unfold enterIteration
  generalize s.annotateStructural around node (.iteration variableName items) = structural at *
  obtain ⟨id, start⟩ := structural
  exact made.trans ((Edits.refl.strip "iterate").readIndentation around.keepBlanks :
    Edits id node start _).quiet

/-- From `s` to `t` an annotation was made for the element at `node` and bound or left unbound. What
came before and after that bound nothing, and what was reported stays reported. -/
inductive Binds (parent : Option AnnotatedId) (owner : Option ComponentId) (node : NodeId)
    (tag : String) (s t : Pass) : Prop
  | intro {start : Pass} {P : AnnotatedNode → Prop}
      (opened : s.annotations.Opened parent s.annotations.nodes.size P start.annotations)
      (element : ∀ a, P a → a.isText = false) (quiet : Quiet s start)
      (basis : start.basis = s.basis) (document : start.document = s.document)
      (later : Quiet (start.bindComponent s.annotations.nodes.size node tag owner) t)
      (reports : ∀ r ∈ (start.bindComponent s.annotations.nodes.size node tag owner).reports,
        r ∈ t.reports) : Binds parent owner node tag s t

theorem Binds.charges (binds : Binds parent owner node tag s t) :
    Charges owner s.annotations.nodes.size s t := by
  cases binds with
  | intro opened element quiet basis document later reports =>
      obtain ⟨a, found, holds⟩ := opened.here
      have unbound := quiet.unbound (Nat.le_refl _) found
      exact ((charges_bindComponent found (element a holds) unbound node tag owner).before quiet
        basis).after later

section Entering
variable (node : NodeId) (tag : String) (valid : ∀ q ∈ around.parent, q < s.annotations.nodes.size)
include valid

theorem binds_enterPlain :
    Binds around.parent around.owner node tag s (s.enterPlain around node tag).1 := by
  have added : s.annotations.Opened around.parent s.annotations.nodes.size
      (·.IsLeaf around.parent node none false)
      (s.annotate node around.parent (.element {})).2.annotations :=
    .add valid ⟨rfl, rfl, rfl, rfl, rfl, rfl, rfl, rfl, rfl⟩
  have quiet : Quiet s (s.annotate node around.parent (.element {})).2 := .annotate s node _ rfl
  have basis := s.basis_annotate node around.parent (.element {})
  have document : (s.annotate node around.parent (.element {})).2.document = s.document := rfl
  unfold enterPlain
  rw [annotate_eq]
  dsimp only
  generalize (s.annotate node around.parent (.element {})).2 = made at *
  generalize marked_eq : (if tag = "body" || made.isTemplateOf around.owner node then
    made.markRoot s.annotations.nodes.size else made) = marked
  have marks : s.annotations.Opened around.parent s.annotations.nodes.size
      (·.IsLeaf around.parent node none false) marked.annotations ∧ Quiet s marked ∧
        marked.basis = s.basis ∧ marked.document = s.document := by
    subst marked_eq
    split
    · exact ⟨opened_markRoot added, quiet.trans (.update made _ fun _ => rfl), basis, document⟩
    · exact ⟨added, quiet, basis, document⟩
  obtain ⟨opened, quiet', basis', document'⟩ := marks
  have edits := (Edits.refl.bindAttributes : Edits s.annotations.nodes.size node
    (marked.bindComponent s.annotations.nodes.size node tag around.owner) _).readIndentation
      around.keepBlanks
  split
  · exact .intro opened (fun a leaf => leaf.isText) quiet' basis' document'
      (edits.quiet.trans (quiet_takeOverChildren _ _))
      (edits.focused.trans (focused_takeOverChildren _ _)).reports
  · exact .intro opened (fun a leaf => leaf.isText) quiet' basis' document' edits.quiet
      edits.focused.reports

theorem binds_enterIteration (notTemplate : tag ≠ "template") (variableName items : String) :
    Binds around.parent around.owner node tag s
      (s.enterIteration around node tag variableName items).1 := by
  obtain ⟨isNew, made, document, -⟩ :=
    opened_annotateStructural node valid (.iteration variableName items)
  have quiet := quiet_annotateStructural s around node (.iteration variableName items)
  have basis := (makes_annotateStructural s around node (.iteration variableName items)).basis
  unfold enterIteration
  generalize s.annotateStructural around node (.iteration variableName items) = structural at *
  obtain ⟨id, start⟩ := structural
  subst isNew
  dsimp only at *
  rw [if_neg notTemplate]
  have hosted : Edits s.annotations.nodes.size node start
      ((start.strip s.annotations.nodes.size "iterate").stripPresent s.annotations.nodes.size node
        ["template"]) := (Edits.refl.strip "iterate").stripPresent ["template"]
  have same : ((start.strip s.annotations.nodes.size "iterate").stripPresent
      s.annotations.nodes.size node ["template"]).document = s.document := by
    rw [document_stripPresent, document_strip, document]
  have edits := (Edits.refl.bindAttributes : Edits s.annotations.nodes.size node
    (((start.strip s.annotations.nodes.size "iterate").stripPresent s.annotations.nodes.size node
      ["template"]).bindComponent s.annotations.nodes.size node tag around.owner) _).readIndentation
        around.keepBlanks
  exact .intro (opened_edits made hosted rfl) (fun a leaf => leaf.isText) (quiet.trans hosted.quiet)
    (hosted.keeps.basis.trans basis) same edits.quiet edits.focused.reports

theorem charges_enterPlain :
    Charges around.owner s.annotations.nodes.size s (s.enterPlain around node tag).1 :=
  (binds_enterPlain node tag valid).charges

theorem charges_enterIteration (variableName items : String) :
    Charges around.owner s.annotations.nodes.size s
      (s.enterIteration around node tag variableName items).1 := by
  by_cases template : tag = "template"
  · subst template
    exact .of_quiet (quiet_enterIteration_template s around node variableName items)
      (component?_eq_none (Nat.le_refl _))
  · exact (binds_enterIteration node tag valid template variableName items).charges

end Entering

theorem charges_enterConditional (s : Pass) (around : Surroundings) (node : NodeId)
    (tag condition : String) :
    ∃ id, (s.enterConditional around node tag condition).2.inner.parent = some id ∧
      Charges around.owner id s (s.enterConditional around node tag condition).1 := by
  have quiet := quiet_hosted s around node condition
  have basis := (makes_hosted s around node condition).basis
  have size := s.size_hosted around node condition
  rw [enterConditional_eq]
  dsimp only
  generalize s.hosted around node condition = host at *
  generalize splitContent s.document node = parts
  split
  · exact ⟨_, rfl, .of_quiet quiet (component?_eq_none (Nat.le_refl _))⟩
  · have divided : Quiet s (host.mapDocument fun _ => parts.2) :=
      quiet.trans (.of_annotations rfl rfl)
    have basis' := (host.basis_mapDocument fun _ => parts.2).trans basis
    have size' : (host.mapDocument fun _ => parts.2).annotations.nodes.size =
      s.annotations.nodes.size + 1 := size
    generalize (host.mapDocument fun _ => parts.2) = u at *
    generalize inner_eq : ({ around with
      parent := some s.annotations.nodes.size
      keepBlanks := s.document.keepsBlanks node around.keepBlanks } : Surroundings) = inner
    have owner : inner.owner = around.owner := by rw [← inner_eq]
    have inside : ∀ q ∈ inner.parent, q < u.annotations.nodes.size := by
      intro q isHost
      rw [← inner_eq] at isHost
      rw [← Option.some.inj isHost, size']
      exact Nat.lt_succ_self _
    have charges := charges_enterPlain parts.1 tag inside
    obtain ⟨-, -, last⟩ := entersAs_enterPlain parts.1 tag inside
    refine ⟨_, last, ?_⟩
    rw [← owner]
    refine (charges.before divided basis').after (.update _ _ fun a => ?_)
    cases a using AnnotatedNode.byKind <;> rfl

theorem charges_enter (valid : ∀ q ∈ around.parent, q < s.annotations.nodes.size)
    (found : s.enter around node tag = (t, some entry)) :
    ∃ id, entry.inner.parent = some id ∧ Charges around.owner id s t := by
  unfold enter at found
  split at found
  · cases found
  · obtain ⟨reports, same⟩ := foldl_report s node (Plan.read s.document node tag).1
    dsimp only at found
    rw [same] at found
    have quiet : Quiet s { s with reports } := .of_annotations rfl rfl
    suffices entered : ∃ id, entry.inner.parent = some id ∧
        Charges around.owner id { s with reports } t by
      obtain ⟨id, last, charges⟩ := entered
      exact ⟨id, last, charges.before quiet rfl⟩
    have valid' : ∀ q ∈ around.parent,
        q < ({ s with reports } : Pass).annotations.nodes.size := valid
    generalize ({ s with reports } : Pass) = s at *
    split at found
    · cases found
    · obtain ⟨rfl, isEntry⟩ := Prod.mk.inj found
      obtain rfl := Option.some.inj isEntry
      exact ⟨_, (entersAs_enterPlain node tag valid').2.2, charges_enterPlain node tag valid'⟩
    · next condition _ =>
      obtain ⟨rfl, isEntry⟩ := Prod.mk.inj found
      obtain rfl := Option.some.inj isEntry
      exact charges_enterConditional s around node tag condition
    · next variableName items _ =>
      obtain ⟨rfl, isEntry⟩ := Prod.mk.inj found
      obtain rfl := Option.some.inj isEntry
      exact ⟨_, (entersAs_enterIteration node tag valid' variableName items).2.2,
        charges_enterIteration node tag valid' variableName items⟩

end Pass
end ComponentMarkup
