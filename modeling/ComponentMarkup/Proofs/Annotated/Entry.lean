import ComponentMarkup.Proofs.Annotated.Stripped
import ComponentMarkup.Proofs.Document.Split

/-!
Entering an element adds one annotation for it, or two when the element is split, and touches no
other annotation.
-/

namespace ComponentMarkup

/-- An annotation that was just made for `node` below `parent`. -/
structure AnnotatedNode.IsLeaf (parent : Option AnnotatedId) (node : NodeId)
    (directive : Option Directive) (builds : Bool) (a : AnnotatedNode) : Prop where
  source : a.source = node
  parent : a.parent = parent
  children : a.children = []
  hasQuery : a.hasQuery = false
  isText : a.isText = false
  directive? : a.directive? = directive
  identifier : a.identifier = if a.isRoot then some rootIdentifier else none
  buildsChildren : a.buildsChildren = builds
  hasDataBinding : a.hasDataBinding = (a.hasAttributes || (builds && !directive.isSome))

namespace AnnotatedNode.IsLeaf
variable {a : AnnotatedNode} {parent : Option AnnotatedId} {node : NodeId}
  {directive : Option Directive} {builds : Bool}

theorem revise (leaf : a.IsLeaf parent node directive builds) {g : AnnotatedNode → AnnotatedNode}
    (revision : Revision g) (unshared : (builds && !directive.isSome) = false) :
    (g a).IsLeaf parent node directive builds := by
  have outline := revision.outline a
  have root : (g a).isRoot = a.isRoot := by
    change (g a).outline.isRoot = a.outline.isRoot
    rw [outline]
  refine ⟨?_, ?_, ?_, ?_, (revision.isText a).trans leaf.isText,
    (revision.directive? a).trans leaf.directive?, ?_, ?_, ?_⟩
  · change (g a).outline.source = node
    rw [outline]
    exact leaf.source
  · change (g a).outline.parent = parent
    rw [outline]
    exact leaf.parent
  · change (g a).outline.children = []
    rw [outline]
    exact leaf.children
  · change (g a).outline.hasQuery = false
    rw [outline]
    exact leaf.hasQuery
  · rw [root, ← leaf.identifier]
    change (g a).outline.identifier = a.outline.identifier
    rw [outline]
  · change (g a).outline.buildsChildren = builds
    rw [outline]
    exact leaf.buildsChildren
  · have bound := leaf.hasDataBinding
    rw [unshared, Bool.or_false] at bound
    rw [unshared, Bool.or_false, revision.bound a leaf.isText bound]

theorem mapBindings (leaf : a.IsLeaf parent node directive builds) {f : Bindings → Bindings}
    (same : ∀ b, (f b).attributes = b.attributes) :
    (a.mapBindings f).IsLeaf parent node directive builds := by
  obtain ⟨source, above, children, query, shown, shape, identifier, builds, binding⟩ := leaf
  cases a using AnnotatedNode.byKind with
  | text a binding => cases shown
  | element a bindings =>
      refine ⟨source, above, children, query, rfl, shape, identifier, builds, ?_⟩
      simpa only [AnnotatedNode.mapBindings, hasAttributes, bindings?, same] using binding
  | structural a directive bindings content =>
      refine ⟨source, above, children, query, rfl, shape, identifier, builds, ?_⟩
      simpa only [AnnotatedNode.mapBindings, hasAttributes, bindings?, same] using binding

end AnnotatedNode.IsLeaf

namespace AnnotatedTree
variable {s t : AnnotatedTree} {parent : Option AnnotatedId} {id : AnnotatedId}
  {P Q : AnnotatedNode → Prop}

/-- `t` is `s` with one more annotation, `id` below `parent`, of which `P` holds. -/
structure Opened (parent : Option AnnotatedId) (id : AnnotatedId) (P : AnnotatedNode → Prop)
    (s t : AnnotatedTree) : Prop where
  fresh : id = s.nodes.size
  size : t.nodes.size = s.nodes.size + 1
  root : t.root = s.root.or (if parent = none then some id else none)
  here : ∃ a, t.get? id = some a ∧ P a
  elsewhere : ∀ other b, s.get? other = some b →
    ∃ b', t.get? other = some b' ∧ b'.core = b.core ∧
      b'.children = (if parent = some other then b.children ++ [id] else b.children) ∧
      b'.hasDataBinding = b.hasDataBinding ∧ b'.buildsChildren = b.buildsChildren ∧
      b'.hasQuery = b.hasQuery

namespace Opened

theorem add {source : NodeId} {kind : AnnotatedKind} (valid : ∀ q ∈ parent, q < s.nodes.size)
    (holds : P { source, parent, kind }) :
    Opened parent s.nodes.size P s (s.add source parent kind).2 where
  fresh := rfl
  size := s.size_add source parent kind
  root := s.root_add source parent kind
  here := ⟨_, s.get?_add_self source parent kind valid, holds⟩
  elsewhere other b found := by
    refine ⟨_, s.get?_add_of_lt source parent kind found, ?_⟩
    split <;> exact ⟨rfl, rfl, rfl, rfl, rfl⟩

theorem update (opened : Opened parent id P s t) (f : AnnotatedNode → AnnotatedNode)
    (gives : ∀ a : AnnotatedNode, P a → Q (f a)) : Opened parent id Q s (t.update id f) where
  fresh := opened.fresh
  size := (t.size_update id f).trans opened.size
  root := opened.root
  here := by
    obtain ⟨a, found, holds⟩ := opened.here
    exact ⟨f a, t.get?_update_self f found, gives a holds⟩
  elsewhere other b found := by
    have different : other ≠ id := by
      rw [opened.fresh]
      exact Nat.ne_of_lt (lt_size_of_get? found)
    rw [t.get?_update_of_ne f different]
    exact opened.elsewhere other b found

theorem updateOld (opened : Opened parent id P s t) {old : AnnotatedId} (different : id ≠ old)
    (f : AnnotatedNode → AnnotatedNode) (core : ∀ a, (f a).core = a.core)
    (children : ∀ a, (f a).children = a.children)
    (flags : ∀ a, (f a).hasDataBinding = a.hasDataBinding ∧
      (f a).buildsChildren = a.buildsChildren ∧ (f a).hasQuery = a.hasQuery) :
    Opened parent id P s (t.update old f) where
  fresh := opened.fresh
  size := (t.size_update old f).trans opened.size
  root := opened.root
  here := by
    obtain ⟨a, found, holds⟩ := opened.here
    exact ⟨a, (t.get?_update_of_ne f different).trans found, holds⟩
  elsewhere other b found := by
    obtain ⟨b', found', core', children', binding', builds', query'⟩ :=
      opened.elsewhere other b found
    by_cases same : other = old
    · subst same
      obtain ⟨binding, builds, query⟩ := flags b'
      exact ⟨f b', t.get?_update_self f found', (core b').trans core',
        (children b').trans children', binding.trans binding', builds.trans builds',
        query.trans query'⟩
    · exact ⟨b', (t.get?_update_of_ne f same).trans found', core', children', binding', builds',
        query'⟩

theorem hasQuery_eq (opened : Opened parent id P s t) (unset : ∀ a, P a → a.hasQuery = false)
    (n : AnnotatedId) : t.hasQuery n = s.hasQuery n := by
  cases before : s.get? n with
  | some b =>
      obtain ⟨b', after, -, -, -, -, query⟩ := opened.elsewhere n b before
      rw [AnnotatedTree.hasQuery_eq after, AnnotatedTree.hasQuery_eq before, query]
  | none =>
      have absent : s.hasQuery n = false := by
        rw [AnnotatedTree.hasQuery, before]
        rfl
      rw [absent]
      obtain ⟨a, here, holds⟩ := opened.here
      by_cases isLast : n = id
      · rw [isLast, AnnotatedTree.hasQuery_eq here, unset a holds]
      · have outside : t.get? n = none := by
          have notOld : ¬ n < s.nodes.size := fun inside => by
            obtain ⟨b, found⟩ := get?_isSome inside
            rw [before] at found
            cases found
          rw [opened.fresh] at isLast
          refine Array.getElem?_eq_none ?_
          rw [opened.size]
          exact Nat.lt_of_le_of_ne (Nat.le_of_not_lt notOld) (Ne.symm isLast)
        rw [AnnotatedTree.hasQuery, outside]
        rfl

end Opened
end AnnotatedTree

namespace Pass
variable {s t : Pass} {parent : Option AnnotatedId} {node : NodeId}

/-! ## The steps of entering -/

section Steps
variable {id : AnnotatedId} {directive : Option Directive} {builds : Bool} {t₀ : AnnotatedTree}
  (opened : t₀.Opened parent id (·.IsLeaf parent node directive builds) s.annotations)
include opened

theorem opened_edits (edits : Edits id node s t) (unshared : (builds && !directive.isSome) = false) :
    t₀.Opened parent id (·.IsLeaf parent node directive builds) t.annotations := by
  obtain ⟨g, f, reports, revision, -, rfl⟩ := edits.exists_update
  exact opened.update g fun _ leaf => leaf.revise revision unshared

theorem opened_bindComponent (tag : String) (owner : Option ComponentId) :
    t₀.Opened parent id (·.IsLeaf parent node directive builds)
      (s.bindComponent id node tag owner).annotations := by
  unfold bindComponent
  dsimp only
  split
  · split
    · exact opened
    · rw [annotations_use]
      exact opened.update _ fun _ leaf => leaf.mapBindings fun _ => rfl
  · split <;> exact opened

theorem opened_markRoot :
    t₀.Opened parent id (·.IsLeaf parent node directive builds) (s.markRoot id).annotations :=
  opened.update _ fun _ leaf =>
    ⟨leaf.source, leaf.parent, leaf.children, leaf.hasQuery, leaf.isText, leaf.directive?, rfl,
      leaf.buildsChildren, leaf.hasDataBinding⟩

end Steps

theorem opened_takeOverChildren {id : AnnotatedId} {t₀ : AnnotatedTree}
    (opened : t₀.Opened parent id (·.IsLeaf parent node none false) s.annotations) :
    t₀.Opened parent id (·.IsLeaf parent node none true) (s.takeOverChildren id).annotations :=
  opened.update _ fun _ leaf =>
    ⟨leaf.source, leaf.parent, leaf.children, leaf.hasQuery, leaf.isText, leaf.directive?,
      leaf.identifier, rfl, (Bool.or_true _).symm⟩

/-! ## Entering as a whole -/

/-- Whether the attributes of an element are read as bindings when it is annotated. -/
def readsAttributes (tag : String) : Option Directive → Bool
  | none => true
  | some (.conditional _) => false
  | some (.iteration ..) => tag != "template"

/-- `t` is `s` with an annotation for the element `node`, whose own attributes have been read. -/
structure EntersAs (parent : Option AnnotatedId) (node : NodeId) (tag : String)
    (directive : Option Directive) (s t : Pass) : Prop where
  counter : t.counter = s.counter
  document : ∃ f, Document.KeepsOthers "class" f ∧ t.document = s.document.mapAttributes node f
  tree : s.annotations.Opened parent s.annotations.nodes.size
    (·.IsLeaf parent node directive (directive.isSome || s.hasBoundText node)) t.annotations
  stripped : t.isStripped s.annotations.nodes.size "id" =
    (readsAttributes tag directive && s.document.bindsId node)

/-- Entering an element changes of other annotations what the nodes below them decide, and no more. -/
theorem EntersAs.exists_core {tag : String} {directive : Option Directive} {f : Document → Document}
    (enters : EntersAs parent node tag directive (s.mapDocument f) t) {id : AnnotatedId}
    {a : AnnotatedNode} (found : s.annotations.get? id = some a) :
    ∃ a', t.annotations.get? id = some a' ∧ a'.core = a.core := by
  obtain ⟨a', kept, core, -⟩ := enters.tree.elsewhere id a found
  exact ⟨a', kept, core⟩

theorem EntersAs.link {tag : String} {directive : Option Directive}
    (enters : EntersAs parent node tag directive s t) {host : AnnotatedId}
    (older : host < s.annotations.nodes.size) (content : Option AnnotatedId) :
    EntersAs parent node tag directive s
      (t.update host fun a => match a.kind with
        | .structural directive bindings _ =>
            { a with kind := .structural directive bindings content }
        | _ => a) where
  counter := enters.counter
  document := enters.document
  tree := by
    refine enters.tree.updateOld (Nat.ne_of_gt older) _ (fun a => ?_) (fun a => ?_) (fun a => ?_)
    all_goals
      cases a using AnnotatedNode.byKind
    all_goals first | rfl | exact ⟨rfl, rfl, rfl⟩
  stripped := by
    rw [← enters.stripped]
    refine t.isStripped_update _ _ (fun a => ?_) _ _
    cases a using AnnotatedNode.byKind <;> rfl

theorem annotate_eq (s : Pass) (node : NodeId) (parent : Option AnnotatedId)
    (kind : AnnotatedKind) :
    s.annotate node parent kind =
      (s.annotations.nodes.size, (s.annotate node parent kind).2) :=
  Prod.ext (s.fst_annotate node parent kind) rfl

theorem hasBoundText_mapAttributes {f : Attributes → Attributes} {other : NodeId}
    (same : t.document = s.document.mapAttributes other f) (node : NodeId) :
    t.hasBoundText node = s.hasBoundText node := by
  simp only [hasBoundText, same, Document.children_mapAttributes, Document.text?_mapAttributes]

@[simp] theorem document_bindComponent (id : AnnotatedId) (tag : String)
    (owner : Option ComponentId) : (s.bindComponent id node tag owner).document = s.document := by
  unfold bindComponent
  dsimp only
  split
  · split
    · rfl
    · rw [document_use]
      rfl
  · split <;> rfl

@[simp] theorem counter_bindComponent (id : AnnotatedId) (tag : String)
    (owner : Option ComponentId) : (s.bindComponent id node tag owner).counter = s.counter := by
  unfold bindComponent
  dsimp only
  split
  · split
    · rfl
    · rw [counter_use]
      rfl
  · split <;> rfl

@[simp] theorem isStripped_bindComponent (id : AnnotatedId) (tag : String)
    (owner : Option ComponentId) (name : String) :
    (s.bindComponent id node tag owner).isStripped id name = s.isStripped id name := by
  unfold bindComponent
  dsimp only
  split
  · split
    · rfl
    · rw [isStripped, annotations_use]
      exact s.isStripped_mapBindings id _ name
  · split <;> rfl

theorem entersAs_read {id : AnnotatedId} {read taken : Pass} {directive : Option Directive}
    (tag : String) (isNew : id = s.annotations.nodes.size)
    (tree : s.annotations.Opened parent id (·.IsLeaf parent node directive directive.isSome)
      t.annotations)
    (document : t.document = s.document) (counter : t.counter = s.counter)
    (edits : Edits id node t read)
    (stripped : read.isStripped id "id" = (readsAttributes tag directive && s.document.bindsId node))
    (taken_eq : taken =
      if directive.isNone && s.hasBoundText node then read.takeOverChildren id else read) :
    EntersAs parent node tag directive s taken := by
  subst isNew
  obtain ⟨f, others, written⟩ := edits.document
  have leaf := opened_edits tree edits (by cases directive <;> rfl)
  subst taken_eq
  split
  · next bound =>
    cases directive with
    | some directive => cases bound
    | none =>
        refine ⟨?_, ⟨f, others, ?_⟩, ?_, ?_⟩
        · exact edits.counter.trans counter
        · exact written.trans (by rw [document])
        · have : s.hasBoundText node = true := by simpa using bound
          rw [this]
          exact opened_takeOverChildren leaf
        · rw [← stripped]
          exact read.isStripped_takeOverChildren _ _ _
  · next unbound =>
    refine ⟨edits.counter.trans counter, ⟨f, others, written.trans (by rw [document])⟩, ?_, stripped⟩
    cases directive with
    | some directive => exact leaf
    | none =>
        have : s.hasBoundText node = false := by simpa using unbound
        rw [this]
        exact leaf

theorem entersAs_enterPlain {around : Surroundings} (node : NodeId) (tag : String)
    (valid : ∀ q ∈ around.parent, q < s.annotations.nodes.size) :
    EntersAs around.parent node tag none s (s.enterPlain around node tag).1 ∧
      (s.enterPlain around node tag).2.opened = [s.annotations.nodes.size] ∧
      (s.enterPlain around node tag).2.inner.parent = some s.annotations.nodes.size := by
  have added : s.annotations.Opened around.parent s.annotations.nodes.size
      (·.IsLeaf around.parent node none false)
      (s.annotate node around.parent (.element {})).2.annotations :=
    .add valid ⟨rfl, rfl, rfl, rfl, rfl, rfl, rfl, rfl, rfl⟩
  have unstripped : (s.annotate node around.parent (.element {})).2.isStripped
      s.annotations.nodes.size "id" = false := by
    rw [isStripped, annotations_annotate, s.annotations.get?_add_self node around.parent _ valid]
    rfl
  unfold enterPlain
  rw [annotate_eq]
  refine ⟨?_, rfl, rfl⟩
  dsimp only
  have document : (s.annotate node around.parent (.element {})).2.document = s.document := rfl
  have counter : (s.annotate node around.parent (.element {})).2.counter = s.counter := rfl
  generalize (s.annotate node around.parent (.element {})).2 = made at *
  generalize marked_eq : (if tag = "body" || made.isTemplateOf around.owner node then
    made.markRoot s.annotations.nodes.size else made) = marked
  have markedTree : s.annotations.Opened around.parent s.annotations.nodes.size
      (·.IsLeaf around.parent node none false) marked.annotations := by
    subst marked_eq
    split
    · exact opened_markRoot added
    · exact added
  have markedSame : marked.document = s.document ∧ marked.counter = s.counter ∧
      marked.isStripped s.annotations.nodes.size "id" = false := by
    subst marked_eq
    split
    · exact ⟨document, counter, (made.isStripped_markRoot _ _ _).trans unstripped⟩
    · exact ⟨document, counter, unstripped⟩
  obtain ⟨markedDocument, markedCounter, markedStripped⟩ := markedSame
  have bound := opened_bindComponent markedTree tag around.owner
  obtain ⟨a, found, -⟩ := bound.here
  have edits := (Edits.refl.bindAttributes : Edits s.annotations.nodes.size node
    (marked.bindComponent s.annotations.nodes.size node tag around.owner) _).readIndentation
      around.keepBlanks
  refine entersAs_read tag rfl bound ?_ ?_ edits ?_ ?_
  · rw [document_bindComponent, markedDocument]
  · rw [counter_bindComponent, markedCounter]
  · rw [isStripped_readIndentation, isStripped_bindAttributes _ _ _ found, isStripped_bindComponent,
      markedStripped, document_bindComponent, markedDocument]
    rfl
  · obtain ⟨f, -, written⟩ := edits.document
    rw [document_bindComponent, markedDocument] at written
    rw [hasBoundText_mapAttributes written]
    rfl

theorem opened_annotateStructural {around : Surroundings} (node : NodeId)
    (valid : ∀ q ∈ around.parent, q < s.annotations.nodes.size) (directive : Directive) :
    (s.annotateStructural around node directive).1 = s.annotations.nodes.size ∧
      s.annotations.Opened around.parent s.annotations.nodes.size
        (·.IsLeaf around.parent node (some directive) true)
        (s.annotateStructural around node directive).2.annotations ∧
      (s.annotateStructural around node directive).2.document = s.document ∧
      (s.annotateStructural around node directive).2.counter = s.counter ∧
      (s.annotateStructural around node directive).2.isStripped s.annotations.nodes.size "id" =
        false := by
  have added : s.annotations.Opened around.parent s.annotations.nodes.size
      (·.IsLeaf around.parent node (some directive) false)
      (s.annotate node around.parent (.structural directive {} none)).2.annotations :=
    .add valid ⟨rfl, rfl, rfl, rfl, rfl, rfl, rfl, rfl, rfl⟩
  unfold annotateStructural
  rw [annotate_eq]
  refine ⟨rfl, ?_, rfl, rfl, ?_⟩
  · exact added.update _ fun _ leaf =>
      ⟨leaf.source, leaf.parent, leaf.children, leaf.hasQuery, leaf.isText, leaf.directive?,
        leaf.identifier, rfl, leaf.hasDataBinding⟩
  · have found := s.annotations.get?_add_self node around.parent (.structural directive {} none)
      valid
    rw [isStripped, annotations_update, annotations_annotate,
      AnnotatedTree.get?_update_self _ _ found]
    rfl

@[simp] theorem document_stripPresent (id : AnnotatedId) (names : List String) :
    (s.stripPresent id node names).document = s.document := by
  unfold stripPresent
  induction names generalizing s with
  | nil => rfl
  | cons name names ih =>
      rw [List.foldl_cons, ih]
      split <;> rfl

@[simp] theorem document_readIndentation (id : AnnotatedId) (inherited : Bool) :
    (s.readIndentation id node inherited).1.document = s.document := by
  unfold readIndentation
  split
  · rfl
  · dsimp only
    split
    · rfl
    · split <;> rfl

theorem entersAs_enterIteration {around : Surroundings} (node : NodeId) (tag : String)
    (valid : ∀ q ∈ around.parent, q < s.annotations.nodes.size) (variableName items : String) :
    EntersAs around.parent node tag (some (.iteration variableName items)) s
        (s.enterIteration around node tag variableName items).1 ∧
      (s.enterIteration around node tag variableName items).2.opened =
        [s.annotations.nodes.size] ∧
      (s.enterIteration around node tag variableName items).2.inner.parent =
        some s.annotations.nodes.size := by
  obtain ⟨isNew, made, document, counter, unstripped⟩ :=
    opened_annotateStructural node valid (.iteration variableName items)
  unfold enterIteration
  generalize s.annotateStructural around node (.iteration variableName items) = structural at *
  obtain ⟨id, start⟩ := structural
  subst isNew
  refine ⟨?_, rfl, rfl⟩
  dsimp only at *
  have iterate : (start.strip s.annotations.nodes.size "iterate").isStripped
      s.annotations.nodes.size "id" = false := by
    rw [isStripped_strip_of_ne _ _ (by decide), unstripped]
  have made' : s.annotations.Opened around.parent s.annotations.nodes.size
      (·.IsLeaf around.parent node (some (.iteration variableName items)) true)
      (start.strip s.annotations.nodes.size "iterate").annotations :=
    opened_edits made ((Edits.refl : Edits _ node start _).strip "iterate") rfl
  by_cases template : tag = "template"
  · rw [if_pos template]
    have edits := (Edits.refl : Edits s.annotations.nodes.size node
      (start.strip s.annotations.nodes.size "iterate") _).readIndentation around.keepBlanks
    refine entersAs_read tag rfl made' document counter edits ?_ rfl
    rw [isStripped_readIndentation, iterate]
    simp [readsAttributes, template]
  · rw [if_neg template]
    have hosted := opened_edits made' ((Edits.refl : Edits s.annotations.nodes.size node
      (start.strip s.annotations.nodes.size "iterate") _).stripPresent ["template"]) rfl
    have bound := opened_bindComponent hosted tag around.owner
    obtain ⟨a, found, -⟩ := bound.here
    have edits := (Edits.refl.bindAttributes : Edits s.annotations.nodes.size node
      (((start.strip s.annotations.nodes.size "iterate").stripPresent s.annotations.nodes.size node
        ["template"]).bindComponent s.annotations.nodes.size node tag around.owner)
      _).readIndentation around.keepBlanks
    refine entersAs_read tag rfl bound ?_ ?_ edits ?_ rfl
    · rw [document_bindComponent, document_stripPresent]
      exact document
    · rw [counter_bindComponent]
      exact (Edits.refl.stripPresent ["template"]).counter.trans counter
    · rw [isStripped_readIndentation, isStripped_bindAttributes _ _ _ found,
        isStripped_bindComponent, isStripped_stripPresent _ _ _ (by decide), iterate,
        document_bindComponent, document_stripPresent]
      have reads : readsAttributes tag (some (.iteration variableName items)) = true := by
        simpa [readsAttributes] using template
      rw [reads, Bool.false_or, Bool.true_and]
      exact congrArg (·.bindsId node) document

theorem entersAs_enterConditional {around : Surroundings} (node : NodeId) (tag : String)
    (valid : ∀ q ∈ around.parent, q < s.annotations.nodes.size) (condition : String) :
    ∃ host : Pass, EntersAs around.parent node tag (some (.conditional condition)) s host ∧
      host.document = s.document ∧
      if tag = "template" then
        (s.enterConditional around node tag condition).1 = host ∧
          (s.enterConditional around node tag condition).2.opened =
            [s.annotations.nodes.size] ∧
          (s.enterConditional around node tag condition).2.inner.parent =
            some s.annotations.nodes.size
      else
        EntersAs (some s.annotations.nodes.size) (splitContent s.document node).1 tag none
            (host.mapDocument fun _ => (splitContent s.document node).2)
            (s.enterConditional around node tag condition).1 ∧
          (s.enterConditional around node tag condition).2.opened =
            [s.annotations.nodes.size + 1, s.annotations.nodes.size] ∧
          (s.enterConditional around node tag condition).2.inner.parent =
            some (s.annotations.nodes.size + 1) := by
  obtain ⟨isNew, made, document, counter, unstripped⟩ :=
    opened_annotateStructural node valid (.conditional condition)
  unfold enterConditional
  generalize s.annotateStructural around node (.conditional condition) = structural at *
  obtain ⟨id, start⟩ := structural
  subst isNew
  dsimp only at *
  have edits := ((Edits.refl : Edits s.annotations.nodes.size node start _).stripPresent
    ["if", "instantiate", "template"]).readIndentation around.keepBlanks
  have same : ((start.stripPresent s.annotations.nodes.size node
      ["if", "instantiate", "template"]).readIndentation s.annotations.nodes.size node
        around.keepBlanks).1.document = s.document := by
    rw [document_readIndentation, document_stripPresent, document]
  have hostStripped : ((start.stripPresent s.annotations.nodes.size node
      ["if", "instantiate", "template"]).readIndentation s.annotations.nodes.size node
        around.keepBlanks).1.isStripped s.annotations.nodes.size "id" = false := by
    rw [isStripped_readIndentation, isStripped_stripPresent _ _ _ (by decide), unstripped]
  have hostEnters := entersAs_read tag rfl made document counter edits hostStripped rfl
  generalize (start.stripPresent s.annotations.nodes.size node
    ["if", "instantiate", "template"]).readIndentation s.annotations.nodes.size node
      around.keepBlanks = read at *
  obtain ⟨host, keepBlanks⟩ := read
  refine ⟨host, hostEnters, same, ?_⟩
  by_cases template : tag = "template"
  · rw [if_pos template, if_pos template]
    exact ⟨rfl, rfl, rfl⟩
  · rw [if_neg template, if_neg template]
    dsimp only at *
    rw [same]
    have size : host.annotations.nodes.size = s.annotations.nodes.size + 1 := hostEnters.tree.size
    have valid' : ∀ q ∈ { around with parent := some s.annotations.nodes.size, keepBlanks }.parent,
        q < (host.mapDocument fun _ => (splitContent s.document node).2).annotations.nodes.size := by
      intro q isHost
      rw [← Option.some.inj isHost, annotations_mapDocument, size]
      exact Nat.lt_succ_self _
    obtain ⟨content, opened, inner⟩ :=
      entersAs_enterPlain (splitContent s.document node).1 tag valid'
    refine ⟨content.link (by rw [annotations_mapDocument, size]; exact Nat.lt_succ_self _) _, ?_, ?_⟩
    · rw [opened, annotations_mapDocument, size]
      rfl
    · rw [inner, annotations_mapDocument, size]

end Pass
end ComponentMarkup
