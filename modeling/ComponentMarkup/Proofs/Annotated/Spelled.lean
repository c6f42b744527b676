import ComponentMarkup.Proofs.Annotated.Correspondence
import ComponentMarkup.Proofs.Annotated.Visited
import ComponentMarkup.Proofs.Annotated.Wrapped
import ComponentMarkup.Report

/-!
First passes over a file in either spelling of a condition, and what is told about the element
afterwards.
-/

namespace ComponentMarkup

/-! ## Reports -/

namespace Report

/-- What is told about an annotation and all that is below it. -/
def subtree (components : ComponentTable) (file : SourceFile) (id : AnnotatedId) : List Json :=
  annotatedNodes file components (file.annotations.forestTo file.annotations.nodes.size [id])

variable {components components' : ComponentTable} {file file' : SourceFile}
  (tags : ∀ id, components'.tag id = components.tag id)
include tags

theorem annotatedNode_of_sight {a a' : AnnotatedNode}
    (same : a'.sight file'.document = a.sight file.document) :
    annotatedNode file' components' a' = annotatedNode file components a := by
  have nodes : a.standingFor 0 = a'.standingFor 0 := (congrArg AnnotatedNode.Sight.node same).symm
  obtain ⟨n, rfl⟩ : ∃ n, a' = a.standingFor n :=
    ⟨a'.source, (congrArg (AnnotatedNode.standingFor a'.source) nodes).symm⟩
  have tag : file'.document.tag? (a.standingFor n).source = file.document.tag? a.source :=
    congrArg AnnotatedNode.Sight.tag same
  have text : file'.document.text? (a.standingFor n).source = file.document.text? a.source :=
    congrArg AnnotatedNode.Sight.text same
  unfold annotatedNode
  simp only [tags, tag, text]
  rfl

theorem annotatedNodes_congr {F : Forest} (same : ∀ id ∈ F.preorder,
      (file'.annotations.get? id).map (AnnotatedNode.sight file'.document) =
        (file.annotations.get? id).map (AnnotatedNode.sight file.document)) :
    annotatedNodes file' components' F = annotatedNodes file components F := by
  induction F with
  | nil => rfl
  | cons id below rest ihBelow ihRest =>
      simp only [Forest.preorder, List.mem_cons, List.mem_append] at same
      have here := same id (.inl rfl)
      rw [annotatedNodes, annotatedNodes, ihBelow fun id member => same id (.inr (.inl member)),
        ihRest fun id member => same id (.inr (.inr member))]
      cases found : file.annotations.get? id with
      | none =>
          rw [found, Option.map_none, Option.map_eq_none_iff] at here
          rw [here]
      | some a =>
          rw [found, Option.map_some] at here
          obtain ⟨a', found', sights⟩ := Option.map_eq_some_iff.1 here
          rw [found']
          dsimp only
          rw [annotatedNode_of_sight tags sights]

end Report

/-! ## First passes -/

/-- A pass goes into the element that has the condition. -/
theorem Document.Wraps.walksInto {ρ : NodeId → NodeId} {n inner : NodeId} {tag condition : String}
    {attributes : Attributes} {d d' : Document}
    (wraps : d.Wraps ρ n inner tag attributes condition d') : d.walksInto n = true := by
  have held (name : String) : d.attribute? n name = attributes.find? name := by
    rw [attribute?, attributes?, wraps.element]
    rfl
  have free : Plan.underDeclaration d n = false := by
    rw [Plan.underDeclaration_eq, Option.any_eq_false]
    intro above parent
    rw [isElement]
    exact beq_eq_false_iff_ne.2 (wraps.apart above parent)
  refine walksInto_iff.2 ⟨tag, wraps.tag?_element, wraps.ne_script, ?_⟩
  rw [Plan.read_of_condition ((held _).trans wraps.conditional) ((held _).trans wraps.single.2)
    ((held _).trans wraps.single.1)
    (.inr (by rw [hasAttribute, held]; exact wraps.optsIn))
    fun template => absurd template wraps.ne_template, free]
  exact Plan.noConfusion

namespace Pass
variable {s s' t t' : Pass} {ρ : NodeId → NodeId} {n inner : NodeId} {tag condition : String}
  {attributes : Attributes} {bound host : AnnotatedId}

theorem awaits_bodyForest (fresh : s.annotations = {}) (wellFormed : s.document.WellFormed) :
    Awaits s.document none s.document.bodyHolder s.document.bodyForest s where
  walkable := walkable_bodyForest fresh wellFormed
  carries := wellFormed.carries wellFormed.fits_bodyForest fun n top =>
    (wellFormed.of_top_bodyForest top).1
  size := Nat.le_refl _
  apart id m found := by
    rw [marks, fresh] at found
    cases found
  above := wellFormed.of_bodyHolder

section First
variable (fresh : s.annotations = {}) (fresh' : s'.annotations = {})
include fresh fresh'

theorem twin_of_fresh (file : s'.file.outer = s.file.outer)
    (components : s.components.Twin s'.components) (counter : s'.counter = s.counter)
    (reports : s'.reports = s.reports) : Twin none s s' where
  file := file
  components := components
  counter := counter
  reports := reports
  root := by rw [fresh, fresh']
  size := by rw [fresh, fresh']
  seen id := by
    rw [Pass.seen, Pass.seen, fresh, fresh']
    rfl
  inside id a found := by
    rw [fresh] at found
    cases found
  inside' id a found := by
    rw [fresh'] at found
    cases found

variable (wellFormed : s.document.WellFormed) (wellFormed' : s'.document.WellFormed)
  (twin : Twin none s s') (keepBlanks : Bool)
include wellFormed wellFormed' twin

theorem abreast_bodyForest (basis : s.basis.Relocated ρ s.document.size s'.basis)
    (held : s'.document.bodyHolder.bind s'.document.data? =
      s.document.bodyHolder.bind s.document.data?) :
    Abreast ρ s.document s'.document none s.document.bodyHolder s'.document.bodyHolder
      { keepBlanks } s.document.bodyForest s'.document.bodyForest s s' where
  toTwin := twin
  left := awaits_bodyForest fresh wellFormed
  right := awaits_bodyForest fresh' wellFormed'
  held := held
  early k impossible := absurd impossible (Option.not_mem_none k)
  owned o impossible := absurd impossible (Option.not_mem_none o)
  basis := basis

/-- Passes over the same document stay twins. -/
theorem twin_annotateFile (basis : s.basis.Relocated id s.document.size s'.basis)
    (same : s'.document = s.document) :
    Twin none (annotateFile keepBlanks s) (annotateFile keepBlanks s') := by
  have abreast := abreast_bodyForest fresh fresh' wellFormed wellFormed' twin keepBlanks basis
    (by rw [same])
  rw [annotateFile_eq, annotateFile_eq]
  rw [same] at abreast ⊢
  have mapped := s.document.bodyForest.map_id
  have copied : Abreast id s.document s.document none s.document.bodyHolder s.document.bodyHolder
      { keepBlanks } s.document.bodyForest (s.document.bodyForest.map id) s s' := by rwa [mapped]
  have walked := copied.visitForest Function.injective_id (fun m inside => inside)
    fun m _ => ⟨rfl, rfl⟩
  rwa [mapped] at walked

/-- Passes over both spellings leave twins, and the element has its annotation. -/
theorem exists_divides_annotateFile (basis : s.basis.Relocated ρ s.document.size s'.basis)
    (wraps : s.document.Wraps ρ n inner tag attributes condition s'.document)
    (visited : n ∈ s.document.visited s.document.bodyForest) :
    ∃ host, Divides n inner condition s.annotations.nodes.size (annotateFile keepBlanks s)
      (annotateFile keepBlanks s') host := by
  have member := Document.mem_preorder_of_mem_visited visited
  have abreast := abreast_bodyForest fresh fresh' wellFormed wellFormed' twin keepBlanks basis
    (wraps.held_bodyHolder wellFormed wellFormed' member)
  obtain ⟨id, m, found, source⟩ := abreast.left.exists_mark wellFormed wellFormed.fits_bodyForest
    (fun top isTop => by rw [(wellFormed.of_top_bodyForest isTop).1]) visited wraps.walksInto
  rw [annotateFile_eq, annotateFile_eq]
  rw [wraps.bodyForest wellFormed wellFormed'] at abreast ⊢
  exact exists_divides wraps abreast member found source

end First

/-- The same is told about what is split off as about the element in the template. -/
theorem Divides.subtree (divides : Divides n inner condition bound t t' host) {before : Document}
    (mirrors : t.file.Mirrors before) {components components' : ComponentTable}
    (tags : ∀ id, components'.tag id = components.tag id) :
    Report.subtree components' t'.file (host + 1) = Report.subtree components t.file (host + 1) := by
  have ordered : ∀ p, ∀ child ∈ t.annotations.children p, p < child := fun p child isChild =>
    mirrors.ordered child p ((mirrors.linked p child).1 isChild)
  have children : t'.annotations.children = t.annotations.children := funext divides.children_eq
  change Report.annotatedNodes t'.file components' (t'.annotations.forestTo _ _) =
    Report.annotatedNodes t.file components (t.annotations.forestTo _ _)
  change Report.annotatedNodes t'.file components'
      (t'.annotations.forestTo t'.annotations.nodes.size [host + 1]) =
    Report.annotatedNodes t.file components
      (t.annotations.forestTo t.annotations.nodes.size [host + 1])
  rw [Forest.annotatedForestTo_eq_unfold, Forest.annotatedForestTo_eq_unfold, children, divides.size]
  refine Report.annotatedNodes_congr tags fun id member => ?_
  have later : host + 1 ≤ id :=
    Forest.le_of_mem_unfold ordered (fun id isTop => (List.mem_singleton.1 isTop).ge) id member
  have other : some host ≠ some id := fun same => Nat.ne_of_lt later (Option.some.inj same)
  have seen := divides.seen id
  simp only [Pass.seen, if_neg other] at seen
  exact seen

end Pass
end ComponentMarkup
