import ComponentMarkup.Proofs.Annotated.Alike
import ComponentMarkup.Proofs.Annotated.File

/-!
Alike passes stay alike at every node and so along every walk.
-/

namespace ComponentMarkup

/-- The surroundings of a node for files whose components have other numbers. -/
def Surroundings.rename (rename : ComponentId → ComponentId) (around : Surroundings) :
    Surroundings :=
  { around with owner := around.owner.map rename }

/-- Binds an annotation to a component that is not flagged. -/
def AnnotatedNode.bindUnless (flagged : Bool) (c : ComponentId) (a : AnnotatedNode) :
    AnnotatedNode :=
  if flagged then a else a.mapBindings fun b => { b with component := some c }

theorem AnnotatedNode.sketch_bindUnless {a : AnnotatedNode} (element : a.isText = false)
    (unbound : a.component? = none) (flagged : Bool) (c : ComponentId) :
    (a.bindUnless flagged c).sketch = (a.shape, if flagged then none else some c) := by
  cases flagged with
  | true => exact Prod.ext rfl unbound
  | false =>
      cases a using AnnotatedNode.byKind with
      | text a binding => cases element
      | element a bindings => rfl
      | structural a directive bindings content => rfl

section Content
variable (content : Option AnnotatedId) (a : AnnotatedNode)

theorem AnnotatedNode.source_withContent : (a.withContent content).source = a.source := by
  cases a using AnnotatedNode.byKind <;> rfl

theorem AnnotatedNode.shape_withContent :
    (a.withContent content).shape = a.shape.withContent content := by
  cases a using AnnotatedNode.byKind <;> rfl

theorem AnnotatedNode.component?_withContent :
    (a.withContent content).component? = a.component? := by
  cases a using AnnotatedNode.byKind <;> rfl

end Content

/-! ## Plans -/

namespace Plan

section Skeleton
variable {d d' : Document} {node : NodeId} (skeleton : d'.skeleton = d.skeleton)
include skeleton

theorem underDeclaration_congr : underDeclaration d' node = underDeclaration d node := by
  rw [underDeclaration, underDeclaration, Document.parent?_of_skeleton node skeleton]
  split
  · rw [Document.isElement, Document.isElement, Document.tag?_of_skeleton _ skeleton]
  · rfl

theorem isEmptyBody_congr : isEmptyBody d' node = isEmptyBody d node := by
  rw [isEmptyBody, isEmptyBody, Document.children_of_skeleton node skeleton]
  congr 1
  funext child
  have same := Document.bareData_of_skeleton child skeleton
  generalize d'.data? child = data' at same ⊢
  generalize d.data? child = data at same ⊢
  cases data with
  | none => rw [Option.map_eq_none_iff.1 same]
  | some data =>
      obtain ⟨data', rfl, bare⟩ := Option.map_eq_some_iff.1 same
      cases data <;> cases data' <;> cases bare <;> rfl

end Skeleton

section Read
variable {d d' : Document} {node node' : NodeId}
  (under : underDeclaration d' node' = underDeclaration d node)
  (empty : isEmptyBody d' node' = isEmptyBody d node)
include under empty

theorem snd_ofDirectives_congr (isTemplate : Bool) (condition iterate : Option String) :
    (ofDirectives d' node' isTemplate condition iterate).2 =
      (ofDirectives d node isTemplate condition iterate).2 := by
  unfold ofDirectives
  rw [under, empty]
  cases condition with
  | some condition =>
      cases iterate with
      | some text => rfl
      | none => dsimp only; split <;> rfl
  | none =>
      cases iterate with
      | none => rfl
      | some text =>
          dsimp only
          split
          · rfl
          · split <;> rfl

/-- What is planned goes by the data of the node, by whether there is anything in it, and by whether
a declaration is above it. -/
theorem snd_read_congr (data : d'.data? node' = d.data? node) (tag : String) :
    (read d' node' tag).2 = (read d node tag).2 := by
  have value (name : String) : d'.attribute? node' name = d.attribute? node name := by
    rw [Document.attribute?, Document.attribute?, Document.attributes?, Document.attributes?, data]
  have has (name : String) : d'.hasAttribute node' name = d.hasAttribute node name := by
    rw [Document.hasAttribute, Document.hasAttribute, value]
  have candidate : isCandidate d' node' tag = isCandidate d node tag := by
    simp only [isCandidate, List.any_cons, List.any_nil, has]
  have condition : conditionOf d' node' = conditionOf d node := by
    simp only [conditionOf, value]
  unfold read
  rw [candidate, condition, value]
  split
  · rfl
  · dsimp only
    split
    · rfl
    · exact snd_ofDirectives_congr under empty _ _ _

end Read
end Plan

namespace Pass

def Entry.rename (rename : ComponentId → ComponentId) (entry : Entry) : Entry :=
  { entry with inner := entry.inner.rename rename }

/-- The annotation is none of a text and has not been bound to a component. -/
def Unbound (s : Pass) (id : AnnotatedId) : Prop :=
  ∀ a, s.annotations.get? id = some a → a.isText = false ∧ a.component? = none

variable {rename : ComponentId → ComponentId} {b b' : Basis} {kept : List NodeId}
  {s s' t t' : Pass} {id : AnnotatedId} {node : NodeId}

theorem Unbound.steady (unbound : s.Unbound id) (steady : Steady kept s t) : t.Unbound id := by
  intro a found
  obtain ⟨c, before, shape, component⟩ := steady.exists_get? found
  obtain ⟨element, none⟩ := unbound c before
  exact ⟨(AnnotatedNode.isText_of_shape shape).trans element, component.trans none⟩

theorem Unbound.update (unbound : s.Unbound id) (f : AnnotatedNode → AnnotatedNode)
    (kind : ∀ a, (f a).kind = a.kind) : (s.update id f).Unbound id := by
  intro a found
  rw [annotations_update, AnnotatedTree.get?_update, if_pos rfl] at found
  obtain ⟨c, before, rfl⟩ := Option.map_eq_some_iff.1 found
  obtain ⟨element, none⟩ := unbound c before
  refine ⟨?_, ?_⟩
  · rw [AnnotatedNode.isText, kind]
    exact element
  · rw [AnnotatedNode.component?, AnnotatedNode.bindings?, kind]
    exact none

theorem unbound_annotate (s : Pass) (node : NodeId) (parent : Option AnnotatedId)
    (kind : AnnotatedKind)
    (element : ({ source := node, parent, kind } : AnnotatedNode).isText = false)
    (none : ({ source := node, parent, kind } : AnnotatedNode).component? = none) :
    (s.annotate node parent kind).2.Unbound s.annotations.nodes.size := by
  intro a found
  have kinds := s.annotations.map_add AnnotatedNode.kind (fun _ _ => rfl) node parent kind
    s.annotations.nodes.size
  rw [annotations_annotate] at found
  rw [found, if_pos rfl] at kinds
  have same : a.kind = kind := Option.some.inj kinds
  refine ⟨?_, ?_⟩
  · rw [AnnotatedNode.isText, same]
    exact element
  · rw [AnnotatedNode.component?, AnnotatedNode.bindings?, same]
    exact none

theorem Edits.steady_of_document (edits : Edits id node s t) (same : t.document = s.document)
    (kept : List NodeId) : Steady kept s t where
  basis := (edits.steady List.not_mem_nil).basis
  skeleton := by rw [same]
  data _ _ := by rw [same]
  root := (edits.steady List.not_mem_nil).root
  size := (edits.steady List.not_mem_nil).size
  sketch := (edits.steady List.not_mem_nil).sketch

theorem snd_readIndentation_congr {inherited : Bool}
    (same : s'.document.attribute? node "indentation" = s.document.attribute? node "indentation") :
    (s'.readIndentation id node inherited).2 = (s.readIndentation id node inherited).2 := by
  unfold readIndentation
  rw [same]
  cases s.document.attribute? node "indentation" with
  | none => rfl
  | some value =>
      dsimp only
      split
      · rfl
      · split <;> rfl

namespace Alike

/-! ## Components -/

section Components
variable (renamed : b.Renamed rename b') (alike : Alike rename b b' kept s s')
include renamed alike

theorem find?_scope (tag : String) :
    s'.file.scope.find? tag = (s.file.scope.find? tag).map rename := by
  have scope := renamed.scope tag
  rw [← alike.basis, ← alike.basis'] at scope
  exact scope

theorem isTemplateOf_eq (owner : Option ComponentId) (node : NodeId) :
    s'.isTemplateOf (owner.map rename) node = s.isTemplateOf owner node := by
  rw [isTemplateOf_basis, isTemplateOf_basis, alike.basis, alike.basis', renamed.isTemplateOf]

theorem innerOwner_eq (node : NodeId) (tag : String) (owner : Option ComponentId) :
    s'.innerOwner node tag (owner.map rename) = (s.innerOwner node tag owner).map rename := by
  rw [innerOwner_basis, innerOwner_basis, alike.basis, alike.basis', renamed.innerOwner]

theorem componentName_eq (data : s'.document.data? node = s.document.data? node) (tag : String) :
    s'.componentName node tag = s.componentName node tag := by
  have contains : s'.file.scope.contains tag = s.file.scope.contains tag := by
    rw [OrderedMap.contains, OrderedMap.contains, alike.find?_scope renamed, Option.isSome_map]
  rw [componentName, componentName, contains, Document.attribute?_congr data]

/-- An element means the same component in both passes, and is bound to it where it is not
flagged. -/
theorem bindComponent (data : s'.document.data? node = s.document.data? node)
    (unbound : s.Unbound id) (unbound' : s'.Unbound id) (tag : String)
    (owner : Option ComponentId) :
    Alike rename b b' kept (s.bindComponent id node tag owner)
      (s'.bindComponent id node tag (owner.map rename)) := by
  have found' := alike.find?_scope renamed (s.componentName node tag)
  have bound (u : Pass) (c : ComponentId) (owner : Option ComponentId) :
      Steady kept (u.update id (·.bindUnless (u.components.hasConflict c) c))
        (if u.components.hasConflict c then u
          else (u.mapBindings id fun b => { b with component := some c }).use owner c) := by
    cases u.components.hasConflict c with
    | true => exact (Steady.update kept u id fun _ => rfl).symm
    | false => exact .use kept _ owner c
  unfold Pass.bindComponent
  rw [alike.componentName_eq renamed data]
  dsimp only
  cases found : s.file.scope.find? (s.componentName node tag) with
  | none =>
      rw [found, Option.map_none] at found'
      rw [found']
      dsimp only
      split
      · exact alike.steady (.reports kept s _) (.reports kept s' _)
      · exact alike
  | some c =>
      rw [found, Option.map_some] at found'
      rw [found']
      refine (alike.update id ?_ fun a a' present present' same => ?_).steady (bound s c owner)
        (bound s' (rename c) (owner.map rename))
      · intro a
        unfold AnnotatedNode.bindUnless
        split
        · rfl
        · cases a using AnnotatedNode.byKind <;> rfl
      · obtain ⟨element, none⟩ := unbound a present
        obtain ⟨element', none'⟩ := unbound' a' present'
        have flagged : s.components.hasConflict c = b.flagged c :=
          congrArg (·.flagged c) alike.basis
        have flagged' : s'.components.hasConflict (rename c) = b'.flagged (rename c) :=
          congrArg (·.flagged (rename c)) alike.basis'
        obtain ⟨shape, component⟩ :=
          Prod.mk.inj (AnnotatedNode.sketch_bindUnless element none (b.flagged c) c)
        obtain ⟨shape', component'⟩ := Prod.mk.inj
          (AnnotatedNode.sketch_bindUnless element' none' (b'.flagged (rename c)) (rename c))
        rw [flagged, flagged']
        refine ⟨shape'.trans (same.shape.trans shape.symm), some c, ?_, ?_, ?_⟩
        · rintro _ ⟨rfl⟩
          refine ⟨s.componentName node tag, ?_⟩
          rw [← alike.basis]
          exact found
        · rw [component, Basis.bound_some]
        · rw [component', Option.map_some, Basis.bound_some]

end Components

/-! ## Entering -/

theorem takeOverChildren (alike : Alike rename b b' kept s s') (id : AnnotatedId) :
    Alike rename b b' kept (s.takeOverChildren id) (s'.takeOverChildren id) := by
  refine alike.reshape id (fun _ => rfl) (fun a a' same => ?_) fun _ => rfl
  exact congrArg (fun a => { a with buildsChildren := true }) same

theorem markWhen (alike : Alike rename b b' kept s s') (isRoot : Bool) (unbound : s.Unbound id)
    (unbound' : s'.Unbound id) :
    let t := if isRoot = true then s.markRoot id else s
    let t' := if isRoot = true then s'.markRoot id else s'
    Alike rename b b' kept t t' ∧ t.document = s.document ∧ t'.document = s'.document ∧
      t.Unbound id ∧ t'.Unbound id := by
  cases isRoot with
  | false => exact ⟨alike, rfl, rfl, unbound, unbound'⟩
  | true =>
      refine ⟨alike.reshape id (fun _ => rfl) (fun a a' same => ?_) fun _ => rfl, rfl, rfl,
        unbound.update _ fun _ => rfl, unbound'.update _ fun _ => rfl⟩
      exact congrArg (fun a => { a with isRoot := true }) same

theorem indent (alike : Alike rename b b' kept s s')
    (data : s'.document.data? node = s.document.data? node) (id : AnnotatedId)
    (names : List String) (inherited : Bool) :
    let t := (s.stripPresent id node names).readIndentation id node inherited
    let t' := (s'.stripPresent id node names).readIndentation id node inherited
    Alike rename b b' kept t.1 t'.1 ∧ t'.2 = t.2 ∧ t.1.document = s.document ∧
      t'.1.document = s'.document := by
  intro t t'
  have unwritten (u : Pass) :
      ((u.stripPresent id node names).readIndentation id node inherited).1.document =
        u.document := by
    rw [document_readIndentation, document_stripPresent]
  have steady (u : Pass) : Steady kept u
      ((u.stripPresent id node names).readIndentation id node inherited).1 :=
    ((Edits.refl.stripPresent names).readIndentation inherited).steady_of_document (unwritten u) kept
  refine ⟨alike.steady (steady s) (steady s'), snd_readIndentation_congr ?_, unwritten s,
    unwritten s'⟩
  rw [document_stripPresent, document_stripPresent, Document.attribute?_congr data]

section Entering
variable (alike : Alike rename b b' kept s s') (visited : node ∉ kept)
include alike visited

theorem read (renamed : b.Renamed rename b')
    (data : s'.document.data? node = s.document.data? node) (unbound : s.Unbound id)
    (unbound' : s'.Unbound id) (tag : String) (owner : Option ComponentId) (inherited : Bool) :
    let t := (s.bindComponent id node tag owner).bindAttributes id node
    let t' := (s'.bindComponent id node tag (owner.map rename)).bindAttributes id node
    Alike rename b b' kept (t.readIndentation id node inherited).1
        (t'.readIndentation id node inherited).1 ∧
      (t'.readIndentation id node inherited).2 = (t.readIndentation id node inherited).2 := by
  intro t t'
  have bound := alike.bindComponent renamed data unbound unbound' tag owner
  have edits : Edits id node (s.bindComponent id node tag owner) t := Edits.refl.bindAttributes
  have edits' : Edits id node (s'.bindComponent id node tag (owner.map rename)) t' :=
    Edits.refl.bindAttributes
  have indentation (u v : Pass) (edits : Edits id node u v) :
      v.document.attribute? node "indentation" = u.document.attribute? node "indentation" := by
    obtain ⟨f, others, written⟩ := edits.document
    rw [written]
    exact u.document.attribute?_mapAttributes node node f fun attributes =>
      others attributes "indentation" (by decide)
  refine ⟨bound.steady ((edits.readIndentation inherited).steady visited)
    ((edits'.readIndentation inherited).steady visited), snd_readIndentation_congr ?_⟩
  rw [indentation _ _ edits, indentation _ _ edits', document_bindComponent, document_bindComponent,
    Document.attribute?_congr data]

theorem enterPlain (renamed : b.Renamed rename b') (inside : node < s.document.size)
    (data : s'.document.data? node = s.document.data? node) (around : Surroundings)
    (tag : String) :
    Alike rename b b' kept (s.enterPlain around node tag).1
        (s'.enterPlain (around.rename rename) node tag).1 ∧
      (s'.enterPlain (around.rename rename) node tag).2 =
        (s.enterPlain around node tag).2.rename rename := by
  have made := alike.annotate inside visited around.parent (.element {}) rfl
  have unbound := s.unbound_annotate node around.parent (.element {}) rfl rfl
  have unbound' := s'.unbound_annotate node around.parent (.element {}) rfl rfl
  have data' : (s'.annotate node around.parent (.element {})).2.document.data? node =
    (s.annotate node around.parent (.element {})).2.document.data? node := data
  have size := alike.tree.size
  unfold Pass.enterPlain Surroundings.rename
  dsimp only
  rw [annotate_eq s, annotate_eq s', size]
  rw [size] at unbound'
  dsimp only
  generalize (s.annotate node around.parent (.element {})).2 = start at *
  generalize (s'.annotate node around.parent (.element {})).2 = start' at *
  generalize s.annotations.nodes.size = id at *
  have owner := made.innerOwner_eq renamed node tag around.owner
  have template := made.isTemplateOf_eq renamed around.owner node
  rw [owner, template]
  generalize start.innerOwner node tag around.owner = innerOwner
  -- From here on only the root mark of the new annotation counts, not why it has one.
  obtain ⟨markedAlike, same, same', markedUnbound, markedUnbound'⟩ :=
    made.markWhen (tag = "body" || start.isTemplateOf around.owner node) unbound unbound'
  generalize (if (tag = "body" || start.isTemplateOf around.owner node) = true then
    start.markRoot id else start) = marked at *
  generalize (if (tag = "body" || start.isTemplateOf around.owner node) = true then
    start'.markRoot id else start') = marked' at *
  obtain ⟨readAlike, keepBlanks⟩ := markedAlike.read visited renamed
    (by rw [same, same', data']) markedUnbound markedUnbound' tag around.owner around.keepBlanks
  rw [keepBlanks]
  generalize ((marked.bindComponent id node tag around.owner).bindAttributes id node).readIndentation
    id node around.keepBlanks = read at *
  generalize ((marked'.bindComponent id node tag (around.owner.map rename)).bindAttributes id
    node).readIndentation id node around.keepBlanks = read' at *
  refine ⟨?_, rfl⟩
  have text : read'.1.hasBoundText node = read.1.hasBoundText node := by
    simp only [hasBoundText, Document.children_of_skeleton node readAlike.skeleton,
      Document.text?_of_skeleton _ readAlike.skeleton]
  rw [text]
  split
  · exact readAlike.takeOverChildren id
  · exact readAlike

/-- A split moves the attributes of a node to a new one, which is then still to be visited. -/
theorem splitContent {tag : String} (element : s.document.tag? node = some tag)
    (data : s'.document.data? node = s.document.data? node) :
    Alike rename b b' (s.document.size :: kept)
      (s.mapDocument fun _ => (Pass.splitContent s.document node).2)
      (s'.mapDocument fun _ => (Pass.splitContent s'.document node).2) where
  basis := (s.basis_mapDocument _).trans alike.basis
  basis' := (s'.basis_mapDocument _).trans alike.basis'
  skeleton := skeleton_splitContent alike.skeleton element
  data n member := by
    have element' := (Document.tag?_of_skeleton node alike.skeleton).trans element
    have size := Document.size_of_skeleton alike.skeleton
    rw [document_mapDocument, document_mapDocument]
    rcases List.mem_cons.1 member with rfl | member
    · have attributes := attributes?_splitContent_new element'
      have tags := tag?_splitContent element' s.document.size
      have tags' := tag?_splitContent element s.document.size
      rw [Document.attributes?_congr data, size] at attributes
      rw [size, if_pos rfl] at tags
      rw [if_pos rfl] at tags'
      exact Document.data?_eq_of_tag?_of_attributes? tags' (tags.trans tags'.symm)
        (attributes.trans (attributes?_splitContent_new element).symm)
    · have other : n ≠ node := fun same => visited (same ▸ member)
      have old : n ≠ s.document.size := Nat.ne_of_lt (alike.inside n member)
      rw [data?_splitContent_of_ne element other old,
        data?_splitContent_of_ne element' other (size ▸ old)]
      exact alike.data n member
  inside n member := by
    rw [document_mapDocument, size_splitContent element]
    rcases List.mem_cons.1 member with rfl | member
    · exact Nat.lt_succ_self _
    · exact Nat.lt_succ_of_lt (alike.inside n member)
  apart id a found := by
    rw [annotations_mapDocument] at found
    obtain ⟨inside, outside⟩ := alike.apart id a found
    rw [document_mapDocument, size_splitContent element]
    refine ⟨Nat.lt_succ_of_lt inside, fun member => ?_⟩
    rcases List.mem_cons.1 member with isNew | member
    · exact Nat.ne_of_lt inside isNew
    · exact outside member
  tree := by
    rw [annotations_mapDocument, annotations_mapDocument]
    exact alike.tree

theorem annotateStructural (inside : node < s.document.size) (around : Surroundings)
    (directive : Directive) : ∃ id t t',
      s.annotateStructural around node directive = (id, t) ∧
      s'.annotateStructural (around.rename rename) node directive = (id, t') ∧
      Alike rename b b' kept t t' ∧ t.Unbound id ∧ t'.Unbound id ∧
      t.document = s.document ∧ t'.document = s'.document := by
  have made := alike.annotate inside visited around.parent
    (.structural directive {} none) rfl
  have unbound := s.unbound_annotate node around.parent
    (.structural directive {} none) rfl rfl
  have unbound' := s'.unbound_annotate node around.parent
    (.structural directive {} none) rfl rfl
  have size := alike.tree.size
  rw [size] at unbound'
  unfold Pass.annotateStructural Surroundings.rename
  dsimp only
  rw [annotate_eq s, annotate_eq s', size]
  refine ⟨_, _, _, rfl, rfl, made.reshape _ (fun _ => rfl) (fun a a' same => ?_) fun _ => rfl,
    unbound.update _ fun _ => rfl, unbound'.update _ fun _ => rfl, rfl, rfl⟩
  exact congrArg (fun a => { a with buildsChildren := true }) same

theorem enterConditional (renamed : b.Renamed rename b') (inside : node < s.document.size)
    (data : s'.document.data? node = s.document.data? node) (around : Surroundings) {tag : String}
    (element : s.document.tag? node = some tag) (condition : String) :
    Alike rename b b' kept (s.enterConditional around node tag condition).1
        (s'.enterConditional (around.rename rename) node tag condition).1 ∧
      (s'.enterConditional (around.rename rename) node tag condition).2 =
        (s.enterConditional around node tag condition).2.rename rename := by
  obtain ⟨id, start, start', structural, structural', made, -, -, document, document'⟩ :=
    alike.annotateStructural visited inside around (.conditional condition)
  unfold Pass.enterConditional
  rw [structural, structural']
  dsimp only
  have data' : start'.document.data? node = start.document.data? node := by
    rw [document, document', data]
  obtain ⟨hosted, keepBlanks, same, same'⟩ :=
    made.indent data' id ["if", "instantiate", "template"] around.keepBlanks
  rw [document] at same
  rw [document'] at same'
  rw [show (around.rename rename).keepBlanks = around.keepBlanks from rfl, keepBlanks]
  generalize (start.stripPresent id node ["if", "instantiate", "template"]).readIndentation id node
    around.keepBlanks = read at *
  generalize (start'.stripPresent id node ["if", "instantiate", "template"]).readIndentation id
    node around.keepBlanks = read' at *
  by_cases template : tag = "template"
  · rw [if_pos template, if_pos template]
    exact ⟨hosted, rfl⟩
  · rw [if_neg template, if_neg template]
    dsimp only
    have element' : read.1.document.tag? node = some tag := by rw [same, element]
    have split := hosted.splitContent visited element' (by rw [same, same', data])
    have new : (Pass.splitContent read.1.document node).1 = read.1.document.size :=
      fst_splitContent element'
    have new' : (Pass.splitContent read'.1.document node).1 = read.1.document.size := by
      rw [fst_splitContent ((Document.tag?_of_skeleton node hosted.skeleton).trans element'),
        Document.size_of_skeleton hosted.skeleton]
    rw [new, new']
    have free : read.1.document.size ∉ kept := fun member =>
      Nat.lt_irrefl _ (hosted.inside _ member)
    have placed : read.1.document.size <
        (read.1.mapDocument fun _ => (Pass.splitContent read.1.document node).2).document.size :=
      split.inside _ List.mem_cons_self
    obtain ⟨entered, sameEntry⟩ :=
      (split.weaken fun n member => List.mem_cons_of_mem _ member).enterPlain free renamed placed
        (split.data _ List.mem_cons_self)
        { around with parent := some id, keepBlanks := read.2 } tag
    change Alike rename b b' kept _ (Pass.enterPlain _ { around.rename rename with
      parent := some id, keepBlanks := read.2 } _ _).1 at entered
    change (Pass.enterPlain _ { around.rename rename with
      parent := some id, keepBlanks := read.2 } _ _).2 = _ at sameEntry
    generalize Pass.enterPlain (read.1.mapDocument _) _ _ _ = outcome at *
    generalize Pass.enterPlain (read'.1.mapDocument _) _ _ _ = outcome' at *
    rw [sameEntry]
    have linked (content : Option AnnotatedId) := entered.reshape id
      (AnnotatedNode.source_withContent content)
      (fun a a' shape => by
        rw [AnnotatedNode.shape_withContent, AnnotatedNode.shape_withContent, shape])
      (AnnotatedNode.component?_withContent content)
    exact ⟨linked _, rfl⟩

theorem enterIteration (renamed : b.Renamed rename b') (inside : node < s.document.size)
    (data : s'.document.data? node = s.document.data? node) (around : Surroundings) (tag : String)
    (variableName items : String) :
    Alike rename b b' kept (s.enterIteration around node tag variableName items).1
        (s'.enterIteration (around.rename rename) node tag variableName items).1 ∧
      (s'.enterIteration (around.rename rename) node tag variableName items).2 =
        (s.enterIteration around node tag variableName items).2.rename rename := by
  obtain ⟨id, start, start', structural, structural', made, unbound, unbound', document,
    document'⟩ := alike.annotateStructural visited inside around (.iteration variableName items)
  unfold Pass.enterIteration
  rw [structural, structural']
  dsimp only
  have data' : start'.document.data? node = start.document.data? node := by
    rw [document, document', data]
  have steady (u : Pass) (names : List String) :
      Steady kept u ((u.strip id "iterate").stripPresent id node names) :=
    ((Edits.refl.strip "iterate").stripPresent names).steady_of_document
      (document_stripPresent _ _) kept
  by_cases template : tag = "template"
  · rw [if_pos template, if_pos template]
    have stripped := made.steady (steady start []) (steady start' [])
    obtain ⟨alike', keepBlanks, -⟩ := stripped.indent data' id [] around.keepBlanks
    exact ⟨alike', congrArg (fun keep => ({ opened := [id], inner :=
      { around.rename rename with parent := some id, keepBlanks := keep } } : Entry)) keepBlanks⟩
  · rw [if_neg template, if_neg template]
    have stripped := made.steady (steady start ["template"]) (steady start' ["template"])
    obtain ⟨alike', keepBlanks⟩ := stripped.read visited renamed
      (by rw [document_stripPresent, document_stripPresent]; exact data')
      (unbound.steady (steady start ["template"])) (unbound'.steady (steady start' ["template"])) tag
      around.owner around.keepBlanks
    exact ⟨alike', congrArg (fun keep => ({ opened := [id], inner :=
      { around.rename rename with parent := some id, keepBlanks := keep } } : Entry)) keepBlanks⟩

theorem enter (renamed : b.Renamed rename b') (inside : node < s.document.size)
    (data : s'.document.data? node = s.document.data? node) (around : Surroundings) {tag : String}
    (element : s.document.tag? node = some tag) :
    Alike rename b b' kept (s.enter around node tag).1 (s'.enter (around.rename rename) node tag).1 ∧
      (s'.enter (around.rename rename) node tag).2 =
        (s.enter around node tag).2.map (Entry.rename rename) := by
  unfold Pass.enter
  split
  · exact ⟨alike, rfl⟩
  · obtain ⟨reports, reported⟩ := foldl_report s node (Plan.read s.document node tag).1
    obtain ⟨reports', reported'⟩ := foldl_report s' node (Plan.read s'.document node tag).1
    have alike' := alike.steady (.reports kept s reports) (.reports kept s' reports')
    have placed : node < ({ s with reports } : Pass).document.size := inside
    have data' : ({ s' with reports := reports' } : Pass).document.data? node =
      ({ s with reports } : Pass).document.data? node := data
    have element' : ({ s with reports } : Pass).document.tag? node = some tag := element
    dsimp only
    rw [reported, reported', Plan.snd_read_congr (Plan.underDeclaration_congr alike.skeleton)
      (Plan.isEmptyBody_congr alike.skeleton) data]
    generalize ({ s with reports } : Pass) = u at *
    generalize ({ s' with reports := reports' } : Pass) = u' at *
    cases (Plan.read s.document node tag).2 with
    | dropped => exact ⟨alike', rfl⟩
    | plain =>
        obtain ⟨entered, entry⟩ := alike'.enterPlain visited renamed placed data' around tag
        dsimp only
        exact ⟨entered, congrArg some entry⟩
    | conditional condition =>
        obtain ⟨entered, entry⟩ :=
          alike'.enterConditional visited renamed placed data' around element' condition
        dsimp only
        exact ⟨entered, congrArg some entry⟩
    | iteration variableName items =>
        obtain ⟨entered, entry⟩ :=
          alike'.enterIteration visited renamed placed data' around tag variableName items
        dsimp only
        exact ⟨entered, congrArg some entry⟩

end Entering

/-! ## Texts -/

theorem showNew (alike : Alike rename b b' kept s s') (contents : String) (position : Position)
    (parent : Option AnnotatedId) (binding : Option Binding.Expr) :
    Alike rename b b' kept
      (((s.addText contents position).2.annotate (s.addText contents position).1 parent
        (.text binding)).2)
      (((s'.addText contents position).2.annotate (s'.addText contents position).1 parent
        (.text binding)).2) := by
  have size := Document.size_of_skeleton alike.skeleton
  have new : (s'.addText contents position).1 = (s.addText contents position).1 := size
  rw [new]
  refine (alike.addText contents position).annotate ?_ (fun member => ?_) parent _ rfl
  · rw [document_addText, Document.createText, Document.size_add]
    exact Nat.lt_succ_self _
  · exact Nat.lt_irrefl _ (alike.inside _ member)

theorem addLiteral (alike : Alike rename b b' kept s s') (parent : AnnotatedId)
    (keepBlanks : Bool) (position : Position) (text : String) :
    Alike rename b b' kept (s.addLiteral parent keepBlanks position text)
      (s'.addLiteral parent keepBlanks position text) := by
  unfold Pass.addLiteral
  dsimp only
  split
  · exact alike
  · exact alike.showNew _ _ _ _

theorem addPlaceholder (alike : Alike rename b b' kept s s') (parent : AnnotatedId)
    (position : Position) (expr : Binding.Expr) :
    Alike rename b b' kept (s.addPlaceholder parent position expr)
      (s'.addPlaceholder parent position expr) := by
  have shown := alike.showNew "" position (some parent) (some expr)
  have numbered (u : Pass) (id : AnnotatedId) (n : UInt64) : Steady kept u (u.draw.2.update id
      fun a => { a with identifier := some (textIdentifier n) }) :=
    (⟨rfl, rfl, fun _ _ => rfl, rfl, rfl, fun _ => rfl⟩ : Steady kept u u.draw.2).trans
      (.update kept _ id fun _ => rfl)
  exact shown.steady (numbered _ _ _) (numbered _ _ _)

theorem splitText (alike : Alike rename b b' kept s s') (parent : AnnotatedId) (keepBlanks : Bool)
    (position : Position) (segments : Binding.Segments) :
    Alike rename b b' kept (s.splitText parent keepBlanks position segments)
      (s'.splitText parent keepBlanks position segments) := by
  unfold Pass.splitText
  refine Alike.addLiteral ?_ parent keepBlanks position segments.tail
  generalize segments.bound = bound
  induction bound generalizing s s' with
  | nil => exact alike
  | cons first bound ih =>
      exact ih ((alike.addLiteral parent keepBlanks position first.1).addPlaceholder parent position
        first.2)

theorem showText (alike : Alike rename b b' kept s s') (visited : node ∉ kept)
    (inside : node < s.document.size) (parent : AnnotatedId) (keepBlanks : Bool) (text : String) :
    Alike rename b b' kept (s.showText node parent keepBlanks text)
      (s'.showText node parent keepBlanks text) := by
  unfold Pass.showText
  generalize shownText keepBlanks text = shown
  dsimp only
  cases shown == text with
  | true =>
      split
      · exact alike
      · exact alike.annotate inside visited (some parent) (.text none) rfl
  | false =>
      split
      · exact alike.setText visited shown
      · refine (alike.setText visited shown).annotate ?_ visited (some parent) (.text none) rfl
        rw [document_mapDocument, Document.size_setText]
        exact inside

theorem visitText (alike : Alike rename b b' kept s s') (visited : node ∉ kept)
    (inside : node < s.document.size) (around : Surroundings) (text : String) :
    Alike rename b b' kept (s.visitText around node text)
      (s'.visitText (around.rename rename) node text) := by
  unfold Pass.visitText Surroundings.rename
  dsimp only
  split
  · exact alike
  · next parent _ =>
    split
    · exact alike.showText visited inside parent around.keepBlanks text
    · rw [Document.position_of_skeleton node alike.skeleton]
      exact (alike.takeOverChildren parent).splitText parent _ _ _

/-! ## Walking -/

theorem identifyAll (alike : Alike rename b b' kept s s') (ids : List AnnotatedId) :
    Alike rename b b' kept (ids.foldl Pass.identify s) (ids.foldl Pass.identify s') := by
  induction ids generalizing s s' with
  | nil => exact alike
  | cons id ids ih =>
      refine ih (alike.steady (steady_identify s id fun n a found => (alike.apart n a found).2)
        (steady_identify s' id fun n a' found => ?_))
      obtain ⟨a, found, same⟩ := alike.tree.exists_get?' found
      rw [AnnotatedNode.source_of_shape same.shape]
      exact (alike.apart n a found).2

theorem visitForest (renamed : b.Renamed rename b') {f : Forest} {around : Surroundings}
    (alike : Alike rename b b' (f.preorder ++ kept) s s') (distinct : (f.preorder ++ kept).Nodup) :
    Alike rename b b' kept (s.visitForest f around) (s'.visitForest f (around.rename rename)) := by
  induction f generalizing around kept s s' with
  | nil => exact alike
  | cons node below rest ihBelow ihRest =>
      rw [Forest.preorder, List.cons_append, List.append_assoc] at alike distinct
      obtain ⟨visited, distinct⟩ := List.nodup_cons.1 distinct
      obtain ⟨-, distinctRest, -⟩ := List.nodup_append.1 distinct
      have inside := alike.inside node List.mem_cons_self
      have data := alike.data node List.mem_cons_self
      have ahead : Alike rename b b' (below.preorder ++ (rest.preorder ++ kept)) s s' :=
        alike.weaken fun n member => List.mem_cons_of_mem _ member
      have later : Alike rename b b' (rest.preorder ++ kept) s s' :=
        ahead.weaken fun n member => List.mem_append_right _ member
      rw [Pass.visitForest, Pass.visitForest, data]
      refine ihRest ?_ distinctRest
      split
      · next tag attributes here =>
        have element : s.document.tag? node = some tag := Document.tag?_eq_some.2 ⟨_, here⟩
        obtain ⟨entered, entry⟩ := ahead.enter visited renamed inside data around element
        generalize s.enter around node tag = outcome at *
        generalize s'.enter (around.rename rename) node tag = outcome' at *
        obtain ⟨t, left⟩ := outcome
        obtain ⟨t', left'⟩ := outcome'
        dsimp only at entered entry
        cases left with
        | none =>
            rw [Option.map_none] at entry
            subst entry
            exact entered.weaken fun n member => List.mem_append_right _ member
        | some entry' =>
            rw [Option.map_some] at entry
            subst entry
            exact (ihBelow entered distinct).identifyAll entry'.opened
      · next text here =>
        refine later.visitText (fun member => ?_) inside around text
        exact visited (List.mem_append_right _ member)
      · exact later

end Alike
end Pass

/-- Files that hold one document and see the same declarations are annotated alike. -/
theorem alike_annotateFile {rename : ComponentId → ComponentId} {s s' : Pass}
    (renamed : s.basis.Renamed rename s'.basis) (document : s'.document = s.document)
    (fresh : s.annotations = {}) (fresh' : s'.annotations = {})
    (wellFormed : s.document.WellFormed) (keepBlanks : Bool) :
    Pass.Alike rename s.basis s'.basis [] (annotateFile keepBlanks s)
      (annotateFile keepBlanks s') := by
  have fits := wellFormed.fits_bodyForest
  rw [annotateFile_eq, annotateFile_eq, document]
  refine Pass.Alike.visitForest renamed ⟨rfl, rfl, by rw [document], fun n _ => by rw [document],
    fun n member => ?_, fun id a found => ?_, ?_⟩ ?_
  · rw [List.append_nil] at member
    exact fits.inside n member
  · rw [fresh] at found
    cases found
  · rw [fresh, fresh']
    exact ⟨rfl, rfl, fun id => .none⟩
  · rw [List.append_nil]
    exact fits.distinct

end ComponentMarkup
