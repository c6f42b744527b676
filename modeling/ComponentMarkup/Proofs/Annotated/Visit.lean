import ComponentMarkup.Proofs.Annotated.Entry
import ComponentMarkup.Proofs.Annotated.Identify
import ComponentMarkup.Proofs.Annotated.Texts

/-!
The walk as a relation: what happens at each node of a forest, from the state before the walk to
the one after it. Whatever a walk keeps is shown by induction on it.
-/

namespace ComponentMarkup.Pass

/-! ## Entering -/

/-- An element is annotated whole, or split into a host and the element below it. -/
inductive Entered (parent : Option AnnotatedId) (node : NodeId) (tag : String) (s : Pass) :
    Pass → Entry → Prop
  | whole {t : Pass} {entry : Entry} {directive : Option Directive}
      (enters : EntersAs parent node tag directive s t)
      (opened : entry.opened = [s.annotations.nodes.size])
      (inner : entry.inner.parent = some s.annotations.nodes.size) :
      Entered parent node tag s t entry
  | split {host t : Pass} {entry : Entry} {condition : String}
      (enters : EntersAs parent node tag (some (.conditional condition)) s host)
      (unwritten : host.document = s.document)
      (content : EntersAs (some s.annotations.nodes.size) (splitContent s.document node).1 tag none
        (host.mapDocument fun _ => (splitContent s.document node).2) t)
      (opened : entry.opened = [s.annotations.nodes.size + 1, s.annotations.nodes.size])
      (inner : entry.inner.parent = some (s.annotations.nodes.size + 1)) :
      Entered parent node tag s t entry

variable {s t : Pass} {parent : Option AnnotatedId} {node : NodeId} {tag : String} {entry : Entry}

theorem foldl_report (s : Pass) (node : NodeId) (problems : List Problem) :
    ∃ reports, problems.foldl (fun s problem => s.report problem node) s = { s with reports } := by
  induction problems generalizing s with
  | nil => exact ⟨s.reports, rfl⟩
  | cons problem problems ih =>
      obtain ⟨reports, same⟩ := ih (s.report problem node)
      exact ⟨reports, same⟩

theorem Entered.of_reports {reports : Diagnostics}
    (entered : Entered parent node tag { s with reports } t entry) :
    Entered parent node tag s t entry := by
  cases entered with
  | whole enters opened inner =>
      exact .whole ⟨enters.counter, enters.document, enters.tree, enters.stripped⟩ opened inner
  | split enters unwritten content opened inner =>
      exact .split ⟨enters.counter, enters.document, enters.tree, enters.stripped⟩ unwritten content
        opened inner

theorem enter_eq_none {around : Surroundings} (left : s.enter around node tag = (t, none)) :
    ∃ reports, t = { s with reports } := by
  unfold enter at left
  split at left
  · exact ⟨s.reports, (Prod.mk.inj left).1.symm⟩
  · obtain ⟨reports, same⟩ := foldl_report s node (Plan.read s.document node tag).1
    dsimp only at left
    rw [same] at left
    split at left
    · exact ⟨reports, (Prod.mk.inj left).1.symm⟩
    all_goals cases (Prod.mk.inj left).2

theorem left_of_dropped {around : Surroundings}
    (dropped : (Plan.read s.document node tag).2 = .dropped) : (s.enter around node tag).2 = none := by
  unfold enter
  split
  · rfl
  · dsimp only
    rw [dropped]

theorem entered_of_enter {around : Surroundings}
    (valid : ∀ q ∈ around.parent, q < s.annotations.nodes.size)
    (found : s.enter around node tag = (t, some entry)) :
    Entered around.parent node tag s t entry := by
  unfold enter at found
  split at found
  · cases found
  · obtain ⟨reports, same⟩ := foldl_report s node (Plan.read s.document node tag).1
    dsimp only at found
    rw [same] at found
    have valid' : ∀ q ∈ around.parent,
        q < ({ s with reports } : Pass).annotations.nodes.size := valid
    split at found
    · cases found
    · obtain ⟨enters, opened, inner⟩ := entersAs_enterPlain node tag valid'
      obtain ⟨rfl, isEntry⟩ := Prod.mk.inj found
      obtain rfl := Option.some.inj isEntry
      exact .of_reports (.whole enters opened inner)
    · next condition _ =>
      obtain ⟨host, enters, unwritten, rest⟩ :=
        entersAs_enterConditional node tag valid' condition
      obtain ⟨rfl, isEntry⟩ := Prod.mk.inj found
      obtain rfl := Option.some.inj isEntry
      split at rest
      · obtain ⟨rfl, opened, inner⟩ := rest
        exact .of_reports (.whole enters opened inner)
      · obtain ⟨content, opened, inner⟩ := rest
        exact .of_reports (.split enters unwritten content opened inner)
    · next variableName items _ =>
      obtain ⟨enters, opened, inner⟩ :=
        entersAs_enterIteration node tag valid' variableName items
      obtain ⟨rfl, isEntry⟩ := Prod.mk.inj found
      obtain rfl := Option.some.inj isEntry
      exact .of_reports (.whole enters opened inner)

theorem EntersAs.size {directive : Option Directive}
    (enters : EntersAs parent node tag directive s t) :
    t.annotations.nodes.size = s.annotations.nodes.size + 1 :=
  enters.tree.size

theorem Entered.size (entered : Entered parent node tag s t entry) :
    s.annotations.nodes.size < t.annotations.nodes.size ∧
      ∀ q ∈ entry.inner.parent, q < t.annotations.nodes.size := by
  cases entered with
  | whole enters opened inner =>
      have size := enters.size
      refine ⟨by omega, fun q isInner => ?_⟩
      rw [inner] at isInner
      obtain rfl := Option.some.inj isInner
      rw [size]
      exact Nat.lt_succ_self _
  | split enters unwritten content opened inner =>
      have size := enters.size
      have size' := content.size
      rw [annotations_mapDocument] at size'
      refine ⟨by omega, fun q isInner => ?_⟩
      rw [inner] at isInner
      obtain rfl := Option.some.inj isInner
      rw [size', size]
      exact Nat.lt_succ_self _

theorem Entered.opened_lt (entered : Entered parent node tag s t entry) :
    ∀ id ∈ entry.opened, id < t.annotations.nodes.size := by
  intro id member
  cases entered with
  | whole enters opened _ =>
      rw [opened, List.mem_singleton] at member
      rw [member, enters.size]
      exact Nat.lt_succ_self _
  | split enters _ content opened _ =>
      have size := content.size
      rw [annotations_mapDocument, enters.size] at size
      rw [opened, List.mem_cons, List.mem_singleton] at member
      rw [size]
      rcases member with rfl | rfl
      · exact Nat.lt_succ_self _
      · exact Nat.lt_succ_of_lt (Nat.lt_succ_self _)

/-! ## Walking -/

inductive Visits : Forest → Surroundings → Pass → Pass → Prop
  | nil {around : Surroundings} {s : Pass} : Visits .nil around s s
  /-- Comments and such, scripts, and elements whose directives are malformed. -/
  | passed {node : NodeId} {below rest : Forest} {around : Surroundings} {s t : Pass}
      {reports : Diagnostics} (silent : s.document.text? node = none)
      (later : Visits rest around { s with reports } t) :
      Visits (.cons node below rest) around s t
  | text {node : NodeId} {below rest : Forest} {around : Surroundings} {s t : Pass} {text : String}
      (data : s.document.data? node = some (.text text))
      (later : Visits rest around (s.visitText around node text) t) :
      Visits (.cons node below rest) around s t
  | element {node : NodeId} {below rest : Forest} {around : Surroundings} {s t : Pass}
      {tag : String} {attributes : Attributes} {entry : Entry} {entered inside : Pass}
      (data : s.document.data? node = some (.element tag attributes))
      (found : s.enter around node tag = (entered, some entry))
      (enters : Entered around.parent node tag s entered entry)
      (under : Visits below entry.inner entered inside)
      (later : Visits rest around (entry.opened.foldl identify inside) t) :
      Visits (.cons node below rest) around s t

theorem visitForest_cons (s : Pass) (node : NodeId) (below rest : Forest) (around : Surroundings) :
    s.visitForest (.cons node below rest) around =
      (s.visitForest (.cons node below .nil) around).visitForest rest around := rfl

section Tree
variable {around : Surroundings} (below : Forest)

theorem visitTree_of_left (element : s.document.tag? node = some tag)
    (left : (s.enter around node tag).2 = none) :
    s.visitForest (.cons node below .nil) around = (s.enter around node tag).1 := by
  obtain ⟨attributes, data⟩ := Document.tag?_eq_some.1 element
  rw [visitForest, data]
  dsimp only
  generalize s.enter around node tag = outcome at *
  obtain ⟨t, entry⟩ := outcome
  dsimp only at left
  rw [left]
  rfl

theorem visitTree_of_entered (element : s.document.tag? node = some tag)
    (entered : (s.enter around node tag).2 = some entry) :
    s.visitForest (.cons node below .nil) around =
      entry.opened.foldl identify ((s.enter around node tag).1.visitForest below entry.inner) := by
  obtain ⟨attributes, data⟩ := Document.tag?_eq_some.1 element
  rw [visitForest, data]
  dsimp only
  generalize s.enter around node tag = outcome at *
  obtain ⟨t, entry⟩ := outcome
  dsimp only at entered
  rw [entered]
  rfl

theorem visitTree_of_text {text : String} (data : s.document.data? node = some (.text text)) :
    s.visitForest (.cons node below .nil) around = s.visitText around node text := by
  rw [visitForest, data]
  rfl

theorem visitTree_of_other (element : s.document.tag? node = none)
    (text : s.document.text? node = none) : s.visitForest (.cons node below .nil) around = s := by
  rw [Document.tag?] at element
  rw [Document.text?] at text
  rw [visitForest, visitForest]
  cases data : s.document.data? node with
  | none => rfl
  | some held =>
      rw [data] at element text
      cases held with
      | element => cases element
      | text => cases text
      | _ => rfl

end Tree

theorem size_foldl_identify (s : Pass) (ids : List AnnotatedId) :
    (ids.foldl identify s).annotations.nodes.size = s.annotations.nodes.size := by
  induction ids generalizing s with
  | nil => rfl
  | cons id ids ih => rw [List.foldl_cons, ih, size_identify]

theorem Visits.size_le {f : Forest} {around : Surroundings} (visits : Visits f around s t) :
    s.annotations.nodes.size ≤ t.annotations.nodes.size := by
  induction visits with
  | nil => exact Nat.le_refl _
  | passed _ _ ih => exact ih
  | text _ _ ih => exact Nat.le_trans (size_visitText _ _ _ _) ih
  | element _ _ enters _ _ ihUnder ihLater =>
      rw [size_foldl_identify] at ihLater
      exact Nat.le_trans (Nat.le_of_lt enters.size.1) (Nat.le_trans ihUnder ihLater)

/-- The walk does what the relation says. -/
theorem visits_visitForest {f : Forest} {around : Surroundings}
    (valid : ∀ q ∈ around.parent, q < s.annotations.nodes.size) :
    Visits f around s (s.visitForest f around) := by
  induction f generalizing around s with
  | nil => exact .nil
  | cons node below rest ihBelow ihRest =>
      rw [visitForest]
      split
      · next tag attributes data =>
        split
        · next left found =>
          obtain ⟨reports, rfl⟩ := enter_eq_none found
          refine .passed ?_ (ihRest valid)
          rw [Document.text?, data]
        · next entered entry found =>
          have enters := entered_of_enter valid found
          have under := ihBelow enters.size.2
          refine .element data found enters under (ihRest fun q isParent => ?_)
          rw [size_foldl_identify]
          exact Nat.lt_of_lt_of_le (valid q isParent)
            (Nat.le_trans (Nat.le_of_lt enters.size.1) under.size_le)
      · next text data =>
        refine .text data (ihRest fun q isParent => ?_)
        exact Nat.lt_of_lt_of_le (valid q isParent) (s.size_visitText around node text)
      · next noElement noText =>
        refine Visits.passed ?_ (ihRest valid : Visits rest around { s with reports := s.reports } _)
        rw [Document.text?]
        split
        · next contents data => exact absurd data (noText contents)
        · rfl

end ComponentMarkup.Pass
