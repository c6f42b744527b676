import ComponentMarkup.Proofs.Annotated.Natives

/-!
Entering an element makes an annotation of which nothing is bound. Then the attributes of the element
are read, unless it is the host of a condition or a template that is repeated, and nothing that
entering does afterwards binds anything or reports a handler that is left to the browser.
-/

namespace ComponentMarkup

/-! ## Directives -/

namespace Plan
variable {d : Document} {node : NodeId} {tag : String} {problem : Problem}

theorem isNative_of_conditionOf (member : problem ∈ (conditionOf d node).2) :
    problem.isNative = false := by
  unfold conditionOf at member
  grind [Problem.isNative]

theorem isNative_of_ofDirectives {isTemplate : Bool} {condition iterate : Option String}
    (member : problem ∈ (ofDirectives d node isTemplate condition iterate).1) :
    problem.isNative = false := by
  unfold ofDirectives at member
  grind [Problem.isNative]

theorem isNative_of_read (member : problem ∈ (read d node tag).1) : problem.isNative = false := by
  unfold read at member
  split at member
  · cases member
  · dsimp only at member
    split at member
    · exact isNative_of_conditionOf member
    · rw [List.mem_append, List.mem_append] at member
      rcases member with (warning | required) | problem'
      · exact isNative_of_conditionOf warning
      · split at required
        · cases required
        · rw [List.mem_singleton.1 required]
          rfl
      · exact isNative_of_ofDirectives problem'

end Plan

namespace Pass
variable {s t u : Pass} {id : AnnotatedId} {node : NodeId} {tag : String} {attributes : Attributes}
  {around : Surroundings} {parent : Option AnnotatedId} {entry : Entry}

theorem natives_foldl_report (node : NodeId) {problems : List Problem}
    (other : ∀ problem ∈ problems, problem.isNative = false) (s : Pass) :
    (problems.foldl (fun s problem => s.report problem node) s).natives = s.natives := by
  induction problems generalizing s with
  | nil => rfl
  | cons problem problems ih =>
      rw [List.foldl_cons, ih fun later member => other later (List.mem_cons_of_mem _ member),
        natives_report_of_other (other problem List.mem_cons_self)]

theorem natives_bindComponent (tag : String) (owner : Option ComponentId) :
    (s.bindComponent id node tag owner).natives = s.natives := by
  unfold bindComponent
  dsimp only
  split
  · split
    · rfl
    · unfold use
      split <;> rfl
  · split
    · exact natives_report_of_other rfl s node
    · rfl

/-! ## Before reading -/

/-- After `s` the annotation `id` has been made, as of `t`. Nothing is bound yet but for a component,
and nothing is stripped but directives. -/
structure Begun (id : AnnotatedId) (s t : Pass) : Prop where
  bare : t.Bare id
  steering : ∀ name, t.isStripped id name = true → directiveNames.contains name = true
  document : t.document = s.document
  path : t.file.path = s.file.path
  natives : t.natives = s.natives

namespace Begun

theorem annotate (valid : ∀ q ∈ parent, q < s.annotations.nodes.size) (node : NodeId)
    {kind : AnnotatedKind}
    (bound : AnnotatedNode.bindings? { source := node, parent, kind } = some {}) :
    Begun s.annotations.nodes.size s (s.annotate node parent kind).2 where
  bare := .annotate valid node bound
  steering name stripped := by
    rw [isStripped_annotate valid] at stripped
    cases stripped
  document := rfl
  path := rfl
  natives := rfl

variable (begun : Begun id s t)
include begun

theorem update {f : AnnotatedNode → AnnotatedNode} (bindings : ∀ a, (f a).bindings? = a.bindings?)
    (stripped : ∀ a, (f a).stripped = a.stripped) : Begun id s (t.update id f) where
  bare := begun.bare.update bindings
  steering name held := begun.steering name ((t.isStripped_update id f stripped id name).symm.trans held)
  document := begun.document
  path := begun.path
  natives := begun.natives

theorem markRoot : Begun id s (t.markRoot id) := begun.update (fun _ => rfl) fun _ => rfl

theorem strip (name : String) (directive : directiveNames.contains name = true) :
    Begun id s (t.strip id name) where
  bare := begun.bare.update fun _ => rfl
  steering other stripped := by
    obtain ⟨a, found, -⟩ := begun.bare.holds
    rw [isStripped_strip found, Bool.or_eq_true, beq_iff_eq] at stripped
    rcases stripped with before | rfl
    · exact begun.steering other before
    · exact directive
  document := begun.document
  path := begun.path
  natives := begun.natives

theorem stripPresent (node : NodeId) (names : List String)
    (directives : ∀ name ∈ names, directiveNames.contains name = true) :
    Begun id s (t.stripPresent id node names) := by
  unfold Pass.stripPresent
  induction names generalizing t with
  | nil => exact begun
  | cons name names ih =>
      have rest := fun later member => directives later (List.mem_cons_of_mem name member)
      rw [List.foldl_cons]
      split
      · exact ih (begun.strip name (directives name List.mem_cons_self)) rest
      · exact ih begun rest

theorem bindComponent (node : NodeId) (tag : String) (owner : Option ComponentId) :
    Begun id s (t.bindComponent id node tag owner) where
  bare := begun.bare.bindComponent node tag owner
  steering name stripped := begun.steering name (by rwa [isStripped_bindComponent] at stripped)
  document := (t.document_bindComponent id tag owner).trans begun.document
  path := (path_of_basis (keeps_bindComponent t id node tag owner).basis).trans begun.path
  natives := (natives_bindComponent tag owner).trans begun.natives

theorem readIndentation (node : NodeId) (inherited : Bool) :
    Begun id s (t.readIndentation id node inherited).1 := by
  unfold Pass.readIndentation
  split
  · exact begun
  · have stripped := begun.strip "indentation" (by decide)
    dsimp only
    split
    · exact stripped
    · split
      · exact stripped
      · exact ⟨stripped.bare, stripped.steering, stripped.document, stripped.path,
          (natives_report_of_other rfl _ node).trans stripped.natives⟩

end Begun

/-! ## Reading -/

/-- In the end `t` has of the annotation, of the file and of the handlers that are reported what `u`
has. -/
structure Agrees (id : AnnotatedId) (u t : Pass) : Prop where
  bindings : t.bindings? id = u.bindings? id
  document : t.document = u.document
  path : t.file.path = u.file.path
  natives : t.natives = u.natives

namespace Agrees

theorem refl (s : Pass) (id : AnnotatedId) : Agrees id s s := ⟨rfl, rfl, rfl, rfl⟩

variable (agrees : Agrees id u t)
include agrees

theorem strip (name : String) : Agrees id u (t.strip id name) :=
  ⟨(bindings?_strip name).trans agrees.bindings, agrees.document, agrees.path, agrees.natives⟩

theorem readIndentation (node : NodeId) (inherited : Bool) :
    Agrees id u (t.readIndentation id node inherited).1 := by
  unfold Pass.readIndentation
  split
  · exact agrees
  · have stripped := agrees.strip "indentation"
    dsimp only
    split
    · exact stripped
    · split
      · exact stripped
      · exact ⟨stripped.bindings, stripped.document, stripped.path,
          (natives_report_of_other rfl _ node).trans stripped.natives⟩

theorem takeOverChildren : Agrees id u (t.takeOverChildren id) where
  bindings := by
    rw [Pass.takeOverChildren, bindings?_update_of_eq, agrees.bindings]
    exact fun _ => rfl
  document := agrees.document
  path := agrees.path
  natives := agrees.natives

theorem updateOther {other : AnnotatedId} (apart : id ≠ other) (f : AnnotatedNode → AnnotatedNode) :
    Agrees id u (t.update other f) where
  bindings := by
    rw [← agrees.bindings, Pass.bindings?, annotations_update,
      AnnotatedTree.get?_update_of_ne _ _ apart, Pass.bindings?]
  document := agrees.document
  path := agrees.path
  natives := agrees.natives

end Agrees

/-- From `s` to `t` an annotation was made for the element at `node`, and its attributes were read or
they were not. -/
inductive ReadAs (node : NodeId) (s t : Pass) : Bool → Prop
  | read {start : Pass} (begun : Begun s.annotations.nodes.size s start)
      (ends : Agrees s.annotations.nodes.size (start.bindAttributes s.annotations.nodes.size node) t) :
      ReadAs node s t true
  | unread (begun : Begun s.annotations.nodes.size s t) : ReadAs node s t false

/-- Entering the element `node` made an annotation for it, or one for the host that it becomes and one
for the element split off that. -/
inductive Introduces (parent : Option AnnotatedId) (node : NodeId) (tag : String) (s t : Pass) : Prop
  | whole {directive : Option Directive} (enters : EntersAs parent node tag directive s t)
      (read : ReadAs node s t (readsAttributes tag directive))
  | split {host : Pass} {condition : String}
      (hosts : EntersAs parent node tag (some (.conditional condition)) s host)
      (begun : Begun s.annotations.nodes.size s host)
      (content : EntersAs (some s.annotations.nodes.size) (splitContent s.document node).1 tag none
        (host.mapDocument fun _ => (splitContent s.document node).2) t)
      (read : ReadAs (splitContent s.document node).1
        (host.mapDocument fun _ => (splitContent s.document node).2) t true) :
      Introduces parent node tag s t

/-- Splitting an element changes of its host what the nodes below that decide, and no more. -/
theorem exists_core_host {condition : String} {h : AnnotatedNode} (node : NodeId) (tag : String)
    (hosted : (s.hosted around node condition).annotations.get? s.annotations.nodes.size = some h) :
    ∃ h', (s.enterConditional around node tag condition).1.annotations.get?
      s.annotations.nodes.size = some h' ∧ h'.core = h.core := by
  by_cases template : tag = "template"
  · rw [enterConditional_of_template s around node condition template]
    exact ⟨h, hosted, rfl⟩
  · obtain ⟨divided, inner, content, annotations, -, inside, divides⟩ :=
      enterConditional_of_split s around node condition template
    have older : s.annotations.nodes.size < divided.annotations.nodes.size := by
      rw [annotations]
      exact AnnotatedTree.lt_size_of_get? hosted
    rw [← annotations] at hosted
    rw [divides]
    have enters :=
      (entersAs_enterPlain (splitContent s.document node).1 tag inside).1.link older content
    obtain ⟨h', here, core, -⟩ := enters.tree.elsewhere _ h hosted
    exact ⟨h', here, core⟩

section Entering
variable (valid : ∀ q ∈ around.parent, q < s.annotations.nodes.size)
include valid

theorem readAs_enterPlain (node : NodeId) (tag : String) :
    ReadAs node s (s.enterPlain around node tag).1 true := by
  have begun : Begun s.annotations.nodes.size s (s.annotate node around.parent (.element {})).2 :=
    .annotate valid node rfl
  unfold enterPlain
  rw [annotate_eq]
  dsimp only
  generalize (s.annotate node around.parent (.element {})).2 = made at *
  generalize marked_eq : (if tag = "body" || made.isTemplateOf around.owner node then
    made.markRoot s.annotations.nodes.size else made) = marked
  have marks : Begun s.annotations.nodes.size s marked := by
    rw [← marked_eq]
    split
    · exact begun.markRoot
    · exact begun
  refine .read (marks.bindComponent node tag around.owner) ?_
  split
  · exact ((Agrees.refl _ _).readIndentation node _).takeOverChildren
  · exact (Agrees.refl _ _).readIndentation node _

theorem begun_annotateStructural (node : NodeId) (directive : Directive) :
    Begun s.annotations.nodes.size s (s.annotateStructural around node directive).2 := by
  rw [annotateStructural_eq]
  exact (Begun.annotate valid node rfl).update (fun _ => rfl) fun _ => rfl

theorem readAs_enterIteration (node : NodeId) (tag variableName items : String) :
    ReadAs node s (s.enterIteration around node tag variableName items).1
      (readsAttributes tag (some (.iteration variableName items))) := by
  have begun := begun_annotateStructural valid node (.iteration variableName items)
  have isNew : (s.annotateStructural around node (.iteration variableName items)).1 =
      s.annotations.nodes.size := by rw [annotateStructural_eq]
  unfold enterIteration
  generalize s.annotateStructural around node (.iteration variableName items) = structural at *
  obtain ⟨id, start⟩ := structural
  subst isNew
  dsimp only at *
  have iterates := begun.strip "iterate" (by decide)
  split
  · next template =>
    rw [template]
    exact .unread (iterates.readIndentation node _)
  · next notTemplate =>
    rw [readsAttributes, bne_iff_ne.2 notTemplate]
    have host := iterates.stripPresent node ["template"] (by decide)
    exact .read (host.bindComponent node tag around.owner) ((Agrees.refl _ _).readIndentation node _)

theorem begun_hosted (node : NodeId) (condition : String) :
    Begun s.annotations.nodes.size s (s.hosted around node condition) := by
  have begun := begun_annotateStructural valid node (.conditional condition)
  rw [annotateStructural_eq] at begun
  exact (begun.stripPresent node _ (by decide)).readIndentation node _

/-- The host of a condition is annotated in the same way, be it a template or not. -/
theorem entersAs_hosted (node : NodeId) (tag condition : String) :
    EntersAs around.parent node tag (some (.conditional condition)) s
      (s.hosted around node condition) := by
  have alone : (s.enterConditional around node "template" condition).1 =
      s.hosted around node condition := by rw [enterConditional_eq, if_pos rfl]
  obtain ⟨host, enters, -, rest⟩ := entersAs_enterConditional node "template" valid condition
  rw [if_pos rfl] at rest
  obtain rfl := alone.symm.trans rest.1
  exact ⟨enters.counter, enters.document, enters.tree, enters.stripped⟩

theorem introduces_enterConditional (node : NodeId) (tag condition : String) :
    Introduces around.parent node tag s (s.enterConditional around node tag condition).1 := by
  have hosts := entersAs_hosted valid node tag condition
  have begun := begun_hosted valid node condition
  rw [enterConditional_eq]
  by_cases template : tag = "template"
  · simp only [template, if_true] at hosts ⊢
    exact .whole hosts (.unread begun)
  · simp only [template, if_false]
    have size : ((s.hosted around node condition).mapDocument fun _ =>
        (splitContent s.document node).2).annotations.nodes.size = s.annotations.nodes.size + 1 := by
      rw [annotations_mapDocument, size_hosted]
    have valid' : ∀ q ∈ some s.annotations.nodes.size,
        q < ((s.hosted around node condition).mapDocument fun _ =>
          (splitContent s.document node).2).annotations.nodes.size := by
      intro q isHost
      rw [size, ← Option.some.inj isHost]
      exact Nat.lt_succ_self _
    generalize inner_eq : ({ around with
      parent := some s.annotations.nodes.size
      keepBlanks := s.document.keepsBlanks node around.keepBlanks } : Surroundings) = inner
    have parent : inner.parent = some s.annotations.nodes.size := by rw [← inner_eq]
    rw [← parent] at valid'
    have content := (entersAs_enterPlain (splitContent s.document node).1 tag valid').1
    have read := readAs_enterPlain valid' (splitContent s.document node).1 tag
    generalize ((s.hosted around node condition).mapDocument fun _ =>
      (splitContent s.document node).2).enterPlain inner (splitContent s.document node).1 tag =
        entered at *
    obtain ⟨inside, entry⟩ := entered
    rw [parent] at content
    refine .split hosts begun (content.link (by rw [size]; exact Nat.lt_succ_self _) _) ?_
    cases read with
    | read begun' ends =>
        refine .read begun' (ends.updateOther ?_ _)
        rw [size]
        exact Nat.succ_ne_self _

/-- What entering an element makes of it. -/
theorem introduces_of_enter (found : s.enter around node tag = (t, some entry)) :
    ∃ reports, ({ s with reports } : Pass).natives = s.natives ∧
      Introduces around.parent node tag { s with reports } t := by
  unfold enter at found
  split at found
  · cases found
  · have silent := natives_foldl_report node
      (fun problem (member : problem ∈ (Plan.read s.document node tag).1) =>
        Plan.isNative_of_read member) s
    obtain ⟨reports, same⟩ := foldl_report s node (Plan.read s.document node tag).1
    dsimp only at found
    rw [same] at found silent
    have valid' : ∀ q ∈ around.parent, q < ({ s with reports } : Pass).annotations.nodes.size :=
      valid
    refine ⟨reports, silent, ?_⟩
    split at found
    · cases found
    · obtain ⟨rfl, -⟩ := Prod.mk.inj found
      exact .whole (entersAs_enterPlain node tag valid').1 (readAs_enterPlain valid' node tag)
    · obtain ⟨rfl, -⟩ := Prod.mk.inj found
      exact introduces_enterConditional valid' node tag _
    · obtain ⟨rfl, -⟩ := Prod.mk.inj found
      exact .whole (entersAs_enterIteration node tag valid' _ _).1
        (readAs_enterIteration valid' node tag _ _)

end Entering

end Pass
end ComponentMarkup
