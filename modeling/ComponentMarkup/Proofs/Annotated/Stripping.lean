import ComponentMarkup.Proofs.Annotated.Installed
import ComponentMarkup.Proofs.Annotated.Sources

/-!
What the annotation of an element is stripped of when the element has been entered, and what its
events run.
-/

namespace ComponentMarkup

/-- Whether entering an element strips its annotation of the name; `repeats` tells the host of an
iteration. -/
def Bearer.strips (e : Bearer) (repeats : Bool) (name : String) : Bool :=
  repeats && (name == "iterate" || name == "template" && e.attributes.contains name) ||
    e.attributes.entries.any (e.takes name) || name == "indentation" && e.attributes.contains name

namespace AnnotatedNode

/-- What an event runs. -/
def handlersOf (a : AnnotatedNode) (event : String) : List Binding.Handler :=
  (a.bindings?.bind (·.handlers.find? event)).getD []

/-- The annotation is stripped of what reading the element `e` takes off, and its events run what
the attributes are for. -/
structure IsRead (e : Bearer) (a : AnnotatedNode) : Prop where
  stripped : ∀ name, a.stripped.contains name = e.strips a.directive?.isSome name
  handled : ∀ event, a.handlersOf event =
    (e.attributes.entries.flatMap fun entry => e.runs entry.1 entry.2).filter (·.event == event)

/-- Once entered, an element with these attributes has been read, if it is one that is. -/
def Sheds (tag : String) (attributes : Attributes) (a : AnnotatedNode) : Prop :=
  OrderedMap.Distinct attributes.entries → Pass.readsAttributes tag a.directive? = true →
    a.IsRead ⟨tag, attributes, a.component?.isSome⟩

end AnnotatedNode

namespace Pass
variable {s t : Pass} {id : AnnotatedId} {node : NodeId} {tag : String} {attributes : Attributes}
  {parent : Option AnnotatedId} {around : Surroundings} {entry : Entry}

/-! ## Bare annotations -/

/-- The annotation takes bindings and has none yet but for a component. -/
def Bare (s : Pass) (id : AnnotatedId) : Prop := ∃ component, s.bindings? id = some { component }

namespace Bare

theorem holds (bare : s.Bare id) : s.Holds id := by
  obtain ⟨component, bound⟩ := bare
  obtain ⟨a, found, bound⟩ := Option.bind_eq_some_iff.1 bound
  refine ⟨a, found, ?_⟩
  cases a using AnnotatedNode.byKind with
  | text => cases bound
  | _ => rfl

theorem hasBinding (bare : s.Bare id) (name : String) : s.hasBinding id name = false := by
  obtain ⟨component, bound⟩ := bare
  rw [hasBinding_eq, bound]
  rfl

theorem handlersOf (bare : s.Bare id) (event : String) : s.handlersOf id event = [] := by
  obtain ⟨component, bound⟩ := bare
  rw [Pass.handlersOf, bound]
  rfl

theorem update {f : AnnotatedNode → AnnotatedNode} (bare : s.Bare id)
    (same : ∀ a, (f a).bindings? = a.bindings?) : (s.update id f).Bare id := by
  obtain ⟨component, bound⟩ := bare
  refine ⟨component, ?_⟩
  rw [bindings?_update (g := fun b => b) fun a => (same a).trans Option.map_id'.symm, bound]
  rfl

theorem annotate (valid : ∀ q ∈ parent, q < s.annotations.nodes.size) (node : NodeId)
    {kind : AnnotatedKind}
    (bound : AnnotatedNode.bindings? { source := node, parent, kind } = some {}) :
    (s.annotate node parent kind).2.Bare s.annotations.nodes.size := by
  refine ⟨none, ?_⟩
  rw [bindings?, annotations_annotate, s.annotations.get?_add_self node parent _ valid]
  exact bound

theorem bindComponent (bare : s.Bare id) (node : NodeId) (tag : String)
    (owner : Option ComponentId) : (s.bindComponent id node tag owner).Bare id := by
  unfold Pass.bindComponent
  dsimp only
  split
  · next component _ =>
    split
    · exact bare
    · obtain ⟨before, bound⟩ := bare
      refine ⟨some component, ?_⟩
      rw [bindings?, annotations_use]
      exact (bindings?_mapBindings _).trans (by rw [bound]; rfl)
  · split
    · exact bare
    · exact bare

theorem stripPresent (bare : s.Bare id) (node : NodeId) (present : String) :
    (s.stripPresent id node [present]).Bare id := by
  rw [Pass.stripPresent, List.foldl_cons, List.foldl_nil]
  split
  · exact bare.update fun _ => rfl
  · exact bare

end Bare

theorem handlersOf_readIndentation (inherited : Bool) (event : String) :
    (s.readIndentation id node inherited).1.handlersOf id event = s.handlersOf id event := by
  have stripped : (s.strip id "indentation").handlersOf id event = s.handlersOf id event := by
    rw [handlersOf, bindings?_strip, handlersOf]
  unfold readIndentation
  split
  · rfl
  · dsimp only
    split
    · exact stripped
    · split <;> exact stripped

theorem handlersOf_takeOverChildren (event : String) :
    (s.takeOverChildren id).handlersOf id event = s.handlersOf id event := by
  rw [handlersOf, handlersOf, takeOverChildren, bindings?_update_of_eq]
  exact fun _ => rfl

/-! ## Steps of entering -/

theorem isStripped_readIndentation_eq (holds : s.Holds id) (inherited : Bool) (name : String) :
    (s.readIndentation id node inherited).1.isStripped id name =
      (s.isStripped id name || name == "indentation" && s.document.hasAttribute node name) := by
  obtain ⟨a, found, -⟩ := holds
  have strips : (s.strip id "indentation").isStripped id name =
      (s.isStripped id name || name == "indentation") := by
    rw [isStripped_strip found, BEq.comm]
  have here : (name == "indentation" && s.document.hasAttribute node name) =
      (name == "indentation" && s.document.hasAttribute node "indentation") :=
    beq_and_congr fun same => by rw [same]
  rw [here, Document.hasAttribute]
  unfold readIndentation
  cases s.document.attribute? node "indentation" with
  | none => rw [Option.isSome_none, Bool.and_false, Bool.or_false]
  | some value =>
      rw [Option.isSome_some, Bool.and_true, ← strips]
      dsimp only
      split
      · rfl
      · split <;> rfl

theorem isStripped_stripPresent_eq (holds : s.Holds id) (node : NodeId) (names : List String)
    (name : String) : (s.stripPresent id node names).isStripped id name =
      (s.isStripped id name || names.contains name && s.document.hasAttribute node name) := by
  unfold stripPresent
  induction names generalizing s with
  | nil => rw [List.foldl_nil, List.contains_nil, Bool.false_and, Bool.or_false]
  | cons first names ih =>
      have present : (name == first && s.document.hasAttribute node name) =
          (first == name && s.document.hasAttribute node first) := by
        rw [BEq.comm]
        exact beq_and_congr fun same => by rw [same]
      rw [List.foldl_cons, List.contains_cons, Bool.and_or_distrib_right, ← Bool.or_assoc, present]
      cases has : s.document.hasAttribute node first with
      | false => rw [if_neg Bool.false_ne_true, Bool.and_false, Bool.or_false, ih holds]
      | true =>
          have edits : Edits id node s (s.strip id first) := Edits.refl.strip first
          have still := holds.edits edits
          obtain ⟨a, found, -⟩ := holds
          rw [if_pos rfl, ih still, isStripped_strip found, Bool.and_true, document_strip]

theorem HasRead.of_bare (bare : s.Bare id)
    (data : s.document.data? node = some (.element tag attributes)) :
    HasRead ⟨tag, attributes, (s.component? id).isSome⟩ node id (s.isStripped id) [] s := by
  refine ⟨bare.holds, Document.tag?_eq_some.2 ⟨_, data⟩, fun name _ => ?_, rfl, bare.hasBinding _,
    fun name => ?_, bare.handlersOf⟩
  · rw [Document.attribute?, Document.attributes?, data, Option.bind_some]
  · exact (Bool.or_false _).symm

/-- Reading the attributes of a bare annotation takes off what they say, and the `indentation`. -/
theorem read_bare (bare : s.Bare id) (data : s.document.data? node = some (.element tag attributes))
    (distinct : OrderedMap.Distinct attributes.entries)
    (steering : ∀ name, s.isStripped id name = true → directiveNames.contains name = true)
    {e : Bearer} (isBearer : e = ⟨tag, attributes, (s.component? id).isSome⟩) (inherited : Bool) :
    (∀ name, ((s.bindAttributes id node).readIndentation id node inherited).1.isStripped id name =
      (s.isStripped id name || attributes.entries.any (e.takes name) ||
        name == "indentation" && attributes.contains name)) ∧
    ∀ event, ((s.bindAttributes id node).readIndentation id node inherited).1.handlersOf id event =
      (attributes.entries.flatMap fun entry => e.runs entry.1 entry.2).filter (·.event == event) := by
  have present : s.document.attributes? node = some attributes := by rw [Document.attributes?, data]
  have begun : HasRead e node id (s.isStripped id) [] s := isBearer ▸ .of_bare bare data
  have whole : e.attributes = attributes := by rw [isBearer]
  rw [← whole] at distinct present ⊢
  have read := begun.all distinct steering present
  refine ⟨fun name => ?_, fun event => ?_⟩
  · rw [isStripped_readIndentation_eq read.holds, read.stripped name, beq_and_congr fun same => ?_]
    have other : name ≠ "class" := same ▸ by decide
    exact read.hasAttribute other
  · rw [handlersOf_readIndentation, read.handled]

/-- So an annotation that has been bound to a component is read as it should be. -/
theorem sheds_read {a : AnnotatedNode} (bare : s.Bare id)
    (data : s.document.data? node = some (.element tag attributes))
    (stripped : ∀ name, s.isStripped id name = (a.directive?.isSome &&
      (name == "iterate" || name == "template" && attributes.contains name)))
    (inherited : Bool)
    (ends : t = ((s.bindAttributes id node).readIndentation id node inherited).1 ∨
      t = ((s.bindAttributes id node).readIndentation id node inherited).1.takeOverChildren id)
    (found : t.annotations.get? id = some a) : a.Sheds tag attributes := by
  intro distinct _
  have steering (name : String) (held : s.isStripped id name = true) :
      directiveNames.contains name = true := by
    rw [stripped, Bool.and_eq_true, Bool.or_eq_true, Bool.and_eq_true, beq_iff_eq, beq_iff_eq] at held
    rcases held.2 with rfl | ⟨rfl, -⟩ <;> decide
  have edits : Edits id node s ((s.bindAttributes id node).readIndentation id node inherited).1 :=
    Edits.refl.bindAttributes.readIndentation inherited
  have component : s.component? id = a.component? := by
    have bound : t.component? id = s.component? id := by
      rcases ends with rfl | rfl
      · rw [edits.quiet.bound]
      · rw [(quiet_takeOverChildren _ _).bound, edits.quiet.bound]
    rw [← bound, component?, found, Option.bind_some]
  obtain ⟨strips, handles⟩ := read_bare bare data distinct steering
    (e := ⟨tag, attributes, a.component?.isSome⟩) (by rw [component]) inherited
  refine ⟨fun name => ?_, fun event => ?_⟩
  · have contains : a.stripped.contains name = t.isStripped id name := by rw [isStripped, found]
    rw [contains, Bearer.strips, ← stripped, ← strips]
    rcases ends with rfl | rfl
    · rfl
    · rw [isStripped_takeOverChildren]
  · have handled : a.handlersOf event = t.handlersOf id event := by
      rw [handlersOf, bindings?, found, Option.bind_some, AnnotatedNode.handlersOf]
    rw [handled, ← handles]
    rcases ends with rfl | rfl
    · rfl
    · rw [handlersOf_takeOverChildren]

/-! ## Entering -/

theorem EntersAs.directive?_eq {directive : Option Directive}
    (enters : EntersAs parent node tag directive s t) {a : AnnotatedNode}
    (found : t.annotations.get? s.annotations.nodes.size = some a) : a.directive? = directive := by
  obtain ⟨b, here, leaf⟩ := enters.tree.here
  obtain rfl := Option.some.inj (here.symm.trans found)
  exact leaf.directive?

section Entering
variable (valid : ∀ q ∈ around.parent, q < s.annotations.nodes.size)
  (data : s.document.data? node = some (.element tag attributes))
include valid data

theorem sheds_enterPlain {a : AnnotatedNode}
    (found : (s.enterPlain around node tag).1.annotations.get? s.annotations.nodes.size = some a) :
    a.Sheds tag attributes := by
  have directive := (entersAs_enterPlain node tag valid).1.directive?_eq found
  have unstripped := isStripped_annotate valid node (.element {})
  have bare : (s.annotate node around.parent (.element {})).2.Bare s.annotations.nodes.size :=
    .annotate valid node rfl
  have document : (s.annotate node around.parent (.element {})).2.document = s.document := rfl
  unfold enterPlain at found
  rw [annotate_eq] at found
  dsimp only at found
  generalize (s.annotate node around.parent (.element {})).2 = made at *
  generalize marked_eq : (if tag = "body" || made.isTemplateOf around.owner node then
    made.markRoot s.annotations.nodes.size else made) = marked at *
  have marks : marked.document = s.document ∧ marked.Bare s.annotations.nodes.size ∧
      ∀ name, marked.isStripped s.annotations.nodes.size name = false := by
    subst marked_eq
    split
    · exact ⟨document, bare.update fun _ => rfl,
        fun name => (made.isStripped_markRoot _ _ _).trans (unstripped name)⟩
    · exact ⟨document, bare, unstripped⟩
  have data' : (marked.bindComponent s.annotations.nodes.size node tag around.owner).document.data?
      node = some (.element tag attributes) := by
    rw [document_bindComponent, marks.1]
    exact data
  refine sheds_read (marks.2.1.bindComponent node tag around.owner) data' (fun name => ?_)
    around.keepBlanks ?_ found
  · rw [isStripped_bindComponent, marks.2.2, directive]
    rfl
  · split
    · exact .inr rfl
    · exact .inl rfl

omit data in
/-- The annotation of a structural node starts with nothing bound and nothing stripped. -/
theorem bare_annotateStructural (node : NodeId) (directive : Directive) :
    (s.annotateStructural around node directive).2.Bare s.annotations.nodes.size ∧
      ∀ name, (s.annotateStructural around node directive).2.isStripped s.annotations.nodes.size
        name = false := by
  rw [annotateStructural_eq]
  dsimp only
  refine ⟨(Bare.annotate valid node rfl).update fun _ => rfl, fun name => ?_⟩
  rw [isStripped_update, isStripped_annotate valid]
  exact fun _ => rfl

/-- The host of an iteration that is no template. -/
theorem sheds_enterIteration {variableName items : String} {a : AnnotatedNode}
    (found : (s.enterIteration around node tag variableName items).1.annotations.get?
      s.annotations.nodes.size = some a) : a.Sheds tag attributes := by
  have directive := (entersAs_enterIteration node tag valid variableName items).1.directive?_eq found
  obtain ⟨isNew, -, document, -, -⟩ :=
    opened_annotateStructural node valid (.iteration variableName items)
  obtain ⟨bare, unstripped⟩ := bare_annotateStructural valid node (.iteration variableName items)
  unfold enterIteration at found
  generalize s.annotateStructural around node (.iteration variableName items) = structural at *
  obtain ⟨id, start⟩ := structural
  subst isNew
  dsimp only at *
  split at found
  · next template =>
    intro _ reads
    rw [directive, readsAttributes, template] at reads
    cases reads
  · have iterates : (start.strip s.annotations.nodes.size "iterate").Bare s.annotations.nodes.size :=
      bare.update fun _ => rfl
    have hosted := iterates.stripPresent node "template"
    have stripped (name : String) := isStripped_stripPresent_eq iterates.holds node ["template"] name
    have has (name : String) : (start.strip s.annotations.nodes.size "iterate").document.hasAttribute
        node name = attributes.contains name := by
      rw [document_strip, document, Document.hasAttribute, Document.attribute?, Document.attributes?,
        data, Option.bind_some, OrderedMap.contains]
    have document' : ((start.strip s.annotations.nodes.size "iterate").stripPresent
        s.annotations.nodes.size node ["template"]).document = s.document := by
      rw [document_stripPresent, document_strip, document]
    generalize (start.strip s.annotations.nodes.size "iterate").stripPresent
      s.annotations.nodes.size node ["template"] = host at *
    have data' : (host.bindComponent s.annotations.nodes.size node tag around.owner).document.data?
        node = some (.element tag attributes) := by
      rw [document_bindComponent, document']
      exact data
    refine sheds_read (hosted.bindComponent node tag around.owner) data' (fun name => ?_)
      around.keepBlanks (.inl rfl) found
    obtain ⟨b, found, -⟩ := bare.holds
    rw [isStripped_bindComponent, stripped, has, isStripped_strip found, unstripped, directive,
      List.contains_cons, List.contains_nil, Bool.or_false, Bool.false_or, BEq.comm,
      Option.isSome_some, Bool.true_and]

omit valid in
/-- The element that is split off a host. -/
theorem sheds_enterConditional {condition : String} (notTemplate : tag ≠ "template")
    {b : AnnotatedNode}
    (found : (s.enterConditional around node tag condition).1.annotations.get?
      (s.annotations.nodes.size + 1) = some b) : b.Sheds tag (withoutDirectives attributes) := by
  have element : s.document.tag? node = some tag := Document.tag?_eq_some.2 ⟨_, data⟩
  have split := data?_splitContent_made data
  rw [enterConditional_eq] at found
  dsimp only at found
  rw [if_neg notTemplate, fst_splitContent element] at found
  have size := s.size_hosted around node condition
  generalize divided_eq : ((s.hosted around node condition).mapDocument fun _ =>
    (splitContent s.document node).2) = divided at found
  have size' : divided.annotations.nodes.size = s.annotations.nodes.size + 1 := by
    rw [← divided_eq, annotations_mapDocument, size]
  have data' : divided.document.data? s.document.size =
      some (.element tag (withoutDirectives attributes)) := by
    rw [← divided_eq, document_mapDocument]
    exact split
  have notHost : s.annotations.nodes.size + 1 ≠ s.annotations.nodes.size := Nat.succ_ne_self _
  rw [annotations_update, AnnotatedTree.get?_update_of_ne _ _ notHost, ← size'] at found
  refine sheds_enterPlain (fun q isHost => ?_) data' found
  rw [← Option.some.inj isHost, size']
  exact Nat.lt_succ_self _

/-- Entering an element strips what reading its attributes takes off, be it annotated as it is or
split. -/
theorem sheds_enter (found : s.enter around node tag = (t, some entry)) :
    (∀ a, t.annotations.get? s.annotations.nodes.size = some a → a.Sheds tag attributes) ∧
      ∀ b, t.annotations.get? (s.annotations.nodes.size + 1) = some b →
        b.Sheds tag (withoutDirectives attributes) := by
  unfold enter at found
  split at found
  · cases found
  · obtain ⟨reports, same⟩ := foldl_report s node (Plan.read s.document node tag).1
    dsimp only at found
    rw [same] at found
    have valid' : ∀ q ∈ around.parent,
        q < ({ s with reports } : Pass).annotations.nodes.size := valid
    have data' : ({ s with reports } : Pass).document.data? node = some (.element tag attributes) :=
      data
    have size : s.annotations.nodes.size = ({ s with reports } : Pass).annotations.nodes.size := rfl
    rw [size]
    generalize ({ s with reports } : Pass) = s at *
    -- What is annotated as it is has no content.
    have alone {directive : Option Directive} {t : Pass}
        (enters : EntersAs around.parent node tag directive s t) (b : AnnotatedNode)
        (beyond : t.annotations.get? (s.annotations.nodes.size + 1) = some b) :
        b.Sheds tag (withoutDirectives attributes) := by
      have inside := AnnotatedTree.lt_size_of_get? beyond
      rw [enters.size] at inside
      exact absurd inside (Nat.lt_irrefl _)
    split at found
    · cases found
    · obtain ⟨rfl, -⟩ := Prod.mk.inj found
      exact ⟨fun a => sheds_enterPlain valid' data', alone (entersAs_enterPlain node tag valid').1⟩
    · next condition _ =>
      obtain ⟨rfl, -⟩ := Prod.mk.inj found
      obtain ⟨host, enters, -, rest⟩ := entersAs_enterConditional node tag valid' condition
      have unread {a : AnnotatedNode} (hosts : a.directive? = some (.conditional condition)) :
          a.Sheds tag attributes := by
        intro _ reads
        rw [hosts] at reads
        cases reads
      split at rest
      · obtain ⟨rfl, -, -⟩ := rest
        exact ⟨fun a here => unread (enters.directive?_eq here), alone enters⟩
      · next notTemplate =>
        refine ⟨fun a here => unread ?_, fun b => sheds_enterConditional data' notTemplate⟩
        obtain ⟨h, hosted, leaf⟩ := enters.tree.here
        obtain ⟨h', here', core, -⟩ := rest.1.tree.elsewhere _ h hosted
        obtain rfl := Option.some.inj (here'.symm.trans here)
        exact (AnnotatedNode.directive?_of_core core).trans leaf.directive?
    · next variableName items _ =>
      obtain ⟨rfl, -⟩ := Prod.mk.inj found
      exact ⟨fun a => sheds_enterIteration valid' data',
        alone (entersAs_enterIteration node tag valid' variableName items).1⟩

end Entering
end Pass
end ComponentMarkup
