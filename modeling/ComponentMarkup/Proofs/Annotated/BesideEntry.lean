import ComponentMarkup.Proofs.Annotated.Await
import ComponentMarkup.Proofs.Annotated.Beside

/-!
Twin passes that enter two elements of the same data are twins afterwards, and what stands below the
elements is to be visited in the same surroundings.
-/

namespace ComponentMarkup

/-- Two nodes of which the same is declared, as seen from inside a declaration. -/
structure Basis.Same (b b' : Basis) (owner : Option ComponentId) (n n' : NodeId) : Prop where
  declaredBy : b'.declaredBy n' = b.declaredBy n
  isTemplateOf : b'.isTemplateOf owner n' = b.isTemplateOf owner n

theorem Basis.Same.innerOwner {b b' : Basis} {owner : Option ComponentId} {n n' : NodeId}
    (same : b.Same b' owner n n') (tag : String) :
    b'.innerOwner n' tag owner = b.innerOwner n tag owner := by
  rw [Basis.innerOwner, Basis.innerOwner, same.declaredBy]

theorem AnnotatedNode.Blind.withContent (content : Option AnnotatedId) : Blind (·.withContent content) :=
  ⟨fun a _ => by cases a using AnnotatedNode.byKind <;> rfl,
    fun a => by cases a using AnnotatedNode.byKind <;> rfl⟩

namespace Pass
variable {host : Option AnnotatedId} {node node' : NodeId} {s s' t t' : Pass} {id : AnnotatedId}
  {tag : String}

theorem length_opened_enterPlain (s : Pass) (around : Surroundings) (node : NodeId) (tag : String) :
    (s.enterPlain around node tag).2.opened.length = 1 := rfl

theorem length_opened_enterIteration (s : Pass) (around : Surroundings) (node : NodeId)
    (tag variableName items : String) :
    (s.enterIteration around node tag variableName items).2.opened.length = 1 := rfl

namespace Beside

theorem enterPlain (beside : Beside host node node' s s') (early : ∀ k ∈ host, k < s.annotations.nodes.size)
    (inside : node < s.document.size) (inside' : node' < s'.document.size) (around : Surroundings)
    (same : s.basis.Same s'.basis around.owner node node') (tag : String) :
    Beside host node node' (s.enterPlain around node tag).1 (s'.enterPlain around node' tag).1 ∧
      (s'.enterPlain around node' tag).2 = (s.enterPlain around node tag).2 := by
  have other : host ≠ some s.annotations.nodes.size := fun isHost =>
    Nat.lt_irrefl _ (early _ isHost)
  have made := beside.annotate around.parent (.element {}) inside inside'
  have owner : (s'.annotate node' around.parent (.element {})).2.innerOwner node' tag around.owner =
      (s.annotate node around.parent (.element {})).2.innerOwner node tag around.owner := by
    rw [innerOwner_basis, innerOwner_basis]
    exact same.innerOwner tag
  have template : (s'.annotate node' around.parent (.element {})).2.isTemplateOf around.owner node' =
      (s.annotate node around.parent (.element {})).2.isTemplateOf around.owner node := by
    rw [isTemplateOf_basis, isTemplateOf_basis]
    exact same.isTemplateOf
  unfold Pass.enterPlain
  rw [annotate_eq s, annotate_eq s', beside.toTwin.size]
  dsimp only
  rw [owner, template]
  generalize (s.annotate node around.parent (.element {})).2 = start at *
  generalize (s'.annotate node' around.parent (.element {})).2 = start' at *
  generalize s.annotations.nodes.size = id at *
  have marked : Beside host node node'
      (if tag = "body" || start.isTemplateOf around.owner node then start.markRoot id else start)
      (if tag = "body" || start.isTemplateOf around.owner node then start'.markRoot id else start') := by
    split
    · exact made.markRoot id
    · exact made
  generalize (if tag = "body" || start.isTemplateOf around.owner node then start.markRoot id
    else start) = u at *
  generalize (if tag = "body" || start.isTemplateOf around.owner node then start'.markRoot id
    else start') = u' at *
  obtain ⟨read, keepBlanks⟩ :=
    ((marked.bindComponent id tag around.owner).bindAttributes other).readIndentation id
      around.keepBlanks
  generalize ((u.bindComponent id node tag around.owner).bindAttributes id node).readIndentation id
    node around.keepBlanks = outcome at *
  generalize ((u'.bindComponent id node' tag around.owner).bindAttributes id node').readIndentation id
    node' around.keepBlanks = outcome' at *
  rw [keepBlanks, read.boundText]
  refine ⟨?_, rfl⟩
  split
  · exact read.takeOverChildren id
  · exact read

theorem annotateStructural (beside : Beside host node node' s s') (inside : node < s.document.size)
    (inside' : node' < s'.document.size) (around : Surroundings) (directive : Directive) :
    Beside host node node' (s.annotateStructural around node directive).2
        (s'.annotateStructural around node' directive).2 ∧
      (s'.annotateStructural around node' directive).1 =
        (s.annotateStructural around node directive).1 := by
  have made := beside.annotate around.parent (.structural directive {} none) inside inside'
  rw [annotateStructural_eq, annotateStructural_eq, beside.toTwin.size]
  exact ⟨made.update _ ⟨fun _ _ => rfl, fun a => by cases a using AnnotatedNode.byKind <;> rfl⟩, rfl⟩

theorem enterIteration (beside : Beside host node node' s s')
    (early : ∀ k ∈ host, k < s.annotations.nodes.size) (inside : node < s.document.size)
    (inside' : node' < s'.document.size) (around : Surroundings) (tag variableName items : String) :
    Beside host node node' (s.enterIteration around node tag variableName items).1
        (s'.enterIteration around node' tag variableName items).1 ∧
      (s'.enterIteration around node' tag variableName items).2 =
        (s.enterIteration around node tag variableName items).2 := by
  have other : host ≠ some s.annotations.nodes.size := fun isHost =>
    Nat.lt_irrefl _ (early _ isHost)
  obtain ⟨made, sameId⟩ :=
    beside.annotateStructural inside inside' around (.iteration variableName items)
  have isNew : (s.annotateStructural around node (.iteration variableName items)).1 =
      s.annotations.nodes.size := by rw [annotateStructural_eq]
  unfold Pass.enterIteration
  generalize s.annotateStructural around node (.iteration variableName items) = outcome at *
  generalize s'.annotateStructural around node' (.iteration variableName items) = outcome' at *
  obtain ⟨id, start⟩ := outcome
  obtain ⟨id', start'⟩ := outcome'
  dsimp only at *
  subst sameId isNew
  have read : Beside host node node'
      (if tag = "template" then start.strip s.annotations.nodes.size "iterate" else
        (((start.strip s.annotations.nodes.size "iterate").stripPresent s.annotations.nodes.size node
          ["template"]).bindComponent s.annotations.nodes.size node tag around.owner).bindAttributes
            s.annotations.nodes.size node)
      (if tag = "template" then start'.strip s.annotations.nodes.size "iterate" else
        (((start'.strip s.annotations.nodes.size "iterate").stripPresent s.annotations.nodes.size node'
          ["template"]).bindComponent s.annotations.nodes.size node' tag around.owner).bindAttributes
            s.annotations.nodes.size node') := by
    split
    · exact made.strip _ _
    · exact (((made.strip _ _).stripPresent _ _).bindComponent _ _ _).bindAttributes other
  obtain ⟨read, keepBlanks⟩ := read.readIndentation s.annotations.nodes.size around.keepBlanks
  exact ⟨read, by rw [keepBlanks]⟩

end Beside

/-! ## Splits -/

section Split
variable {d : Document} {attributes : Attributes}

/-- A split leaves what is seen of the nodes there were. -/
theorem shown_splitContent (data : d.data? node = some (.element tag attributes)) {n : NodeId}
    (inside : n < d.size) : (splitContent d node).2.tag? n = d.tag? n ∧
      (splitContent d node).2.text? n = d.text? n := by
  have element : d.tag? node = some tag := Document.tag?_eq_some.2 ⟨_, data⟩
  have old : n ≠ d.size := Nat.ne_of_lt inside
  have tags := tag?_splitContent element n
  rw [if_neg old] at tags
  refine ⟨tags, ?_⟩
  by_cases here : n = node
  · subst here
    obtain ⟨_, after⟩ := Document.tag?_eq_some.1 (tags.trans element)
    rw [Document.text?, Document.text?, after, data]
  · exact Document.text?_congr (data?_splitContent_of_ne element here old)

variable (data : d.data? node = some (.element tag attributes))
  (bounded : ∀ child ∈ d.children node, child < d.size)
include data bounded

/-- The element split off stands where the host stands, and has its other attributes. -/
theorem data?_splitContent_new : (splitContent d node).2.data? d.size =
      some (.element tag (withoutDirectives attributes)) ∧
    (splitContent d node).2.position d.size = d.position node := by
  obtain ⟨old, found, isElement⟩ := Option.map_eq_some_iff.1 data
  have made := node?_splitContent_new found isElement bounded
  have here := Document.node?_eq data
  rw [Document.data?, made, Document.position, made, Document.position, found]
  exact ⟨rfl, rfl⟩

theorem hasBoundText_splitContent (document : s.document = (splitContent d node).2)
    (document' : t.document = d) : s.hasBoundText d.size = t.hasBoundText node := by
  have element : d.tag? node = some tag := Document.tag?_eq_some.2 ⟨_, data⟩
  have notNode : d.size ≠ node := Nat.ne_of_gt (Document.lt_size_of_tag? element)
  rw [hasBoundText, hasBoundText, document, document', children_splitContent element bounded,
    if_pos rfl, if_neg notNode, Bool.eq_iff_iff, List.any_eq_true, List.any_eq_true]
  refine exists_congr fun child => and_congr_right fun member => ?_
  rw [(shown_splitContent data (bounded child member)).2]

end Split

namespace Beside

section Element
variable (beside : Beside host node node' s s') (element : s.document.tag? node = some tag)
include beside element

theorem element' : s'.document.tag? node' = some tag :=
  (Document.tag?_of_data? beside.data).trans element

/-- The hosts of a condition are beside each other when their own attributes have been read. -/
theorem hosted (around : Surroundings) (condition : String) :
    Beside host node node' (s.hosted around node condition) (s'.hosted around node' condition) := by
  have made := beside.annotate around.parent (.structural (.conditional condition) {} none)
    (Document.lt_size_of_tag? element) (Document.lt_size_of_tag? (beside.element' element))
  have built := made.update s.annotations.nodes.size (f := fun a => { a with buildsChildren := true })
    ⟨fun _ _ => rfl, fun a => by cases a using AnnotatedNode.byKind <;> rfl⟩
  unfold Pass.hosted
  rw [beside.toTwin.size]
  exact ((built.stripPresent _ _).readIndentation _ _).1

variable (bounded : ∀ child ∈ s.document.children node, child < s.document.size)
  (bounded' : ∀ child ∈ s'.document.children node', child < s'.document.size)
include bounded bounded'

/-- Both split their element, and go on beside each other at the new ones. -/
theorem split : Beside host s.document.size s'.document.size
    (s.mapDocument fun _ => (splitContent s.document node).2)
    (s'.mapDocument fun _ => (splitContent s'.document node').2) := by
  obtain ⟨attributes, data⟩ := Document.tag?_eq_some.1 element
  have data' := beside.data.trans data
  obtain ⟨made, position⟩ := data?_splitContent_new data bounded
  obtain ⟨made', position'⟩ := data?_splitContent_new data' bounded'
  refine ⟨beside.toTwin.mapDocument _ _ ?_ ?_ (fun id a found => ?_) (fun id a found => ?_),
    made'.trans made.symm, position'.trans (beside.position.trans position.symm), ?_⟩
  · exact Nat.le_of_lt (lt_size_splitContent element)
  · exact Nat.le_of_lt (lt_size_splitContent (beside.element' element))
  · exact shown_splitContent data (beside.toTwin.inside id a found)
  · exact shown_splitContent data' (beside.toTwin.inside' id a found)
  · have moved : (s.mapDocument fun _ => (splitContent s.document node).2).hasBoundText
        s.document.size = s.hasBoundText node :=
      hasBoundText_splitContent data bounded (s.document_mapDocument _) rfl
    have moved' : (s'.mapDocument fun _ => (splitContent s'.document node').2).hasBoundText
        s'.document.size = s'.hasBoundText node' :=
      hasBoundText_splitContent data' bounded' (s'.document_mapDocument _) rfl
    rw [moved, moved', beside.boundText]

theorem enterConditional (early : ∀ k ∈ host, k < s.annotations.nodes.size) (around : Surroundings)
    (fresh : s.basis.Same s'.basis around.owner s.document.size s'.document.size)
    (condition : String) :
    Twin host (s.enterConditional around node tag condition).1
        (s'.enterConditional around node' tag condition).1 ∧
      (s'.enterConditional around node' tag condition).2 =
        (s.enterConditional around node tag condition).2 ∧
      (s'.enterConditional around node' tag condition).1.document.data?
          ((s.enterConditional around node tag condition).2.holder s' node') =
        (s.enterConditional around node tag condition).1.document.data?
          ((s.enterConditional around node tag condition).2.holder s node) := by
  have element' := beside.element' element
  have hosted := beside.hosted element around condition
  have mode : s'.document.keepsBlanks node' around.keepBlanks =
      s.document.keepsBlanks node around.keepBlanks := by
    rw [Document.keepsBlanks, Document.keepsBlanks, Document.attribute?_of_data? beside.data]
  rw [enterConditional_eq, enterConditional_eq, mode, beside.toTwin.size,
    fst_splitContent element, fst_splitContent element']
  have basis : (s.hosted around node condition).basis = s.basis :=
    ((s.hosted_edits around node condition).steady List.not_mem_nil).basis
  have basis' : (s'.hosted around node' condition).basis = s'.basis :=
    ((s'.hosted_edits around node' condition).steady List.not_mem_nil).basis
  have document := s.document_hosted around node condition
  have document' := s'.document_hosted around node' condition
  have size := s.size_hosted around node condition
  generalize s.hosted around node condition = u at *
  generalize s'.hosted around node' condition = u' at *
  by_cases template : tag = "template"
  · simp only [template, if_true]
    exact ⟨hosted.toTwin, trivial, hosted.data⟩
  · simp only [template, if_false]
    have divided := hosted.split (document ▸ element) (by rwa [document]) (by rwa [document'])
    rw [document, document'] at divided
    let inner : Surroundings :=
      { around with
        parent := some s.annotations.nodes.size
        keepBlanks := s.document.keepsBlanks node around.keepBlanks }
    have same : (u.mapDocument fun _ => (splitContent s.document node).2).basis.Same
        (u'.mapDocument fun _ => (splitContent s'.document node').2).basis inner.owner
        s.document.size s'.document.size := by
      rw [basis_mapDocument, basis_mapDocument, basis, basis']
      exact fresh
    have early' : ∀ k ∈ host,
        k < (u.mapDocument fun _ => (splitContent s.document node).2).annotations.nodes.size := by
      intro k isHost
      rw [annotations_mapDocument, size]
      exact Nat.lt_succ_of_lt (early k isHost)
    obtain ⟨entered, entry⟩ := divided.enterPlain early'
      (lt_size_splitContent element) (lt_size_splitContent element') inner same tag
    have single := length_opened_enterPlain (u.mapDocument fun _ => (splitContent s.document node).2)
      inner s.document.size tag
    generalize Pass.enterPlain (u.mapDocument _) inner _ tag = outcome at *
    generalize Pass.enterPlain (u'.mapDocument _) inner _ tag = outcome' at *
    rw [entry]
    have double : ¬ (outcome.2.opened ++ [s.annotations.nodes.size]).length = 1 := by
      rw [List.length_append, single, List.length_singleton]
      exact Nat.succ_ne_self 1
    refine ⟨entered.toTwin.update _ (.withContent _), rfl, ?_⟩
    rw [Entry.holder, Entry.holder, if_neg double, if_neg double]
    exact entered.data

theorem enter (early : ∀ k ∈ host, k < s.annotations.nodes.size) (around : Surroundings)
    (plan : Plan.read s'.document node' tag = Plan.read s.document node tag)
    (same : s.basis.Same s'.basis around.owner node node')
    (fresh : s.basis.Same s'.basis around.owner s.document.size s'.document.size) :
    Twin host (s.enter around node tag).1 (s'.enter around node' tag).1 ∧
      (s'.enter around node' tag).2 = (s.enter around node tag).2 ∧
      ∀ entry ∈ (s.enter around node tag).2,
        (s'.enter around node' tag).1.document.data? (entry.holder s' node') =
          (s.enter around node tag).1.document.data? (entry.holder s node) := by
  unfold Pass.enter
  rw [plan]
  by_cases script : tag = "script"
  · rw [if_pos script, if_pos script]
    exact ⟨beside.toTwin, rfl, fun _ impossible => nomatch impossible⟩
  · rw [if_neg script, if_neg script]
    have reported := beside.reportAll (Plan.read s.document node tag).1
    obtain ⟨reports, sameReports⟩ := foldl_report s node (Plan.read s.document node tag).1
    obtain ⟨reports', sameReports'⟩ := foldl_report s' node' (Plan.read s.document node tag).1
    rw [sameReports, sameReports'] at reported
    dsimp only
    rw [sameReports, sameReports']
    cases (Plan.read s.document node tag).2 with
    | dropped => exact ⟨reported.toTwin, rfl, fun _ impossible => nomatch impossible⟩
    | plain =>
        dsimp only
        obtain ⟨entered, entry⟩ := reported.enterPlain early (Document.lt_size_of_tag? element)
          (Document.lt_size_of_tag? (beside.element' element)) around same tag
        have single := length_opened_enterPlain { s with reports } around node tag
        generalize Pass.enterPlain { s with reports } around node tag = outcome at *
        generalize Pass.enterPlain { s' with reports := reports' } around node' tag = outcome' at *
        refine ⟨entered.toTwin, congrArg some entry, fun e isEntry => ?_⟩
        obtain rfl := Option.some.inj isEntry
        rw [Entry.holder, Entry.holder, if_pos single, if_pos single]
        exact entered.data
    | conditional condition =>
        dsimp only
        obtain ⟨entered, entry, data⟩ :=
          reported.enterConditional element bounded bounded' early around fresh condition
        generalize Pass.enterConditional { s with reports } around node tag condition = outcome at *
        generalize Pass.enterConditional { s' with reports := reports' } around node' tag condition =
          outcome' at *
        refine ⟨entered, congrArg some entry, fun e isEntry => ?_⟩
        obtain rfl := Option.some.inj isEntry
        exact data
    | iteration variableName items =>
        dsimp only
        obtain ⟨entered, entry⟩ := reported.enterIteration early (Document.lt_size_of_tag? element)
          (Document.lt_size_of_tag? (beside.element' element)) around tag variableName items
        have single := length_opened_enterIteration { s with reports } around node tag variableName
          items
        generalize Pass.enterIteration { s with reports } around node tag variableName items =
          outcome at *
        generalize Pass.enterIteration { s' with reports := reports' } around node' tag variableName
          items = outcome' at *
        refine ⟨entered.toTwin, congrArg some entry, fun e isEntry => ?_⟩
        obtain rfl := Option.some.inj isEntry
        rw [Entry.holder, Entry.holder, if_pos single, if_pos single]
        exact entered.data

end Element
end Beside
end Pass
end ComponentMarkup
