import ComponentMarkup.Proofs.Annotated.Sources
import ComponentMarkup.Proofs.Annotated.Steady
import Mathlib.Logic.Function.Basic

/-!
Which annotations are roots. That is settled when an element is entered, and only for an element
that is annotated as it is: a host and the node of an iteration are no roots.
-/

namespace ComponentMarkup

/-! ## Marks -/

/-- What is settled of an annotation when it is made. -/
structure Mark where
  source : NodeId
  isPlain : Bool
  isRoot : Bool

namespace AnnotatedNode

/-- Whether an annotation stands for an element without a directive. -/
def isPlain (a : AnnotatedNode) : Bool :=
  match a.kind with
  | .element _ => true
  | _ => false

def mark (a : AnnotatedNode) : Mark := ⟨a.source, a.isPlain, a.isRoot⟩

variable {a a' : AnnotatedNode}

theorem mark_of_core (same : a'.core = a.core) : a'.mark = a.mark := by
  have plain : a'.isPlain = a.isPlain :=
    eq_of_core (fun | .element _ => true | _ => false) (fun kind => by cases kind <;> rfl) same
  rw [mark, mark, source_of_core same, plain, isRoot_of_core same]

theorem mark_shape (a : AnnotatedNode) : a.shape.mark = a.mark := by
  cases a using AnnotatedNode.byKind <;> rfl

theorem mark_mapBindings (f : Bindings → Bindings) (a : AnnotatedNode) :
    (a.mapBindings f).mark = a.mark := by
  cases a using AnnotatedNode.byKind <;> rfl

theorem isText_of_isPlain (plain : a.isPlain = true) : a.isText = false := by
  cases a using AnnotatedNode.byKind with
  | element a bindings => rfl
  | structural a directive bindings content => rfl
  | text a binding => cases plain

theorem unplain_of_isStructural (structural : a.isStructural = true) :
    a.isPlain = false ∧ a.isText = false := by
  cases a using AnnotatedNode.byKind with
  | element a bindings => cases structural
  | structural a directive bindings content => exact ⟨rfl, rfl⟩
  | text a binding => cases structural

end AnnotatedNode

namespace Pass

def marks (s : Pass) (id : AnnotatedId) : Option Mark :=
  (s.annotations.get? id).map AnnotatedNode.mark

variable {s t u : Pass} {id : AnnotatedId} {node : NodeId} {tag : String} {m : Mark}

/-! ## Single steps -/

/-- The step from `s` to `t` neither makes an annotation nor changes a mark. -/
structure Keeps (s t : Pass) : Prop where
  basis : t.basis = s.basis
  size : t.annotations.nodes.size = s.annotations.nodes.size
  marks : t.marks = s.marks
  skeleton : t.document.skeleton = s.document.skeleton

/-- The step from `s` to `t` makes an annotation with the mark `m`. -/
structure Makes (m : Mark) (s t : Pass) : Prop where
  basis : t.basis = s.basis
  size : t.annotations.nodes.size = s.annotations.nodes.size + 1
  marks : t.marks = Function.update s.marks s.annotations.nodes.size (some m)
  skeleton : t.document.skeleton = s.document.skeleton

namespace Keeps

theorem refl (s : Pass) : Keeps s s := ⟨rfl, rfl, rfl, rfl⟩

theorem trans (first : Keeps s t) (second : Keeps t u) : Keeps s u where
  basis := second.basis.trans first.basis
  size := second.size.trans first.size
  marks := second.marks.trans first.marks
  skeleton := second.skeleton.trans first.skeleton

theorem update {f : AnnotatedNode → AnnotatedNode} (s : Pass) (id : AnnotatedId)
    (same : ∀ a, (f a).mark = a.mark) : Keeps s (s.update id f) where
  basis := rfl
  size := s.annotations.size_update id f
  marks := by
    funext n
    rw [Pass.marks, annotations_update, AnnotatedTree.get?_update]
    split
    · rw [Option.map_map]
      exact Option.map_congr fun a _ => same a
    · rfl
  skeleton := rfl

end Keeps

theorem Steady.keeps {kept : List NodeId} (steady : Steady kept s t) : Keeps s t where
  basis := steady.basis
  size := steady.size
  marks := by
    funext n
    have shown (u : Pass) : u.marks n =
        ((u.annotations.get? n).map AnnotatedNode.sketch).map fun sketch => sketch.1.mark := by
      rw [Option.map_map]
      exact Option.map_congr fun a _ => a.mark_shape.symm
    rw [shown, shown, steady.sketch]
  skeleton := steady.skeleton

theorem Edits.keeps (edits : Edits id node s t) : Keeps s t :=
  (edits.steady List.not_mem_nil).keeps

theorem keeps_identify (s : Pass) (id : AnnotatedId) : Keeps s (s.identify id) :=
  (s.steady_identify id fun _ _ _ => List.not_mem_nil).keeps

theorem keeps_foldl_identify (s : Pass) (ids : List AnnotatedId) :
    Keeps s (ids.foldl identify s) := by
  induction ids generalizing s with
  | nil => exact .refl s
  | cons id ids ih => exact (keeps_identify s id).trans (ih _)

theorem keeps_takeOverChildren (s : Pass) (id : AnnotatedId) : Keeps s (s.takeOverChildren id) :=
  .update s id fun _ => rfl

theorem keeps_bindComponent (s : Pass) (id : AnnotatedId) (node : NodeId) (tag : String)
    (owner : Option ComponentId) : Keeps s (s.bindComponent id node tag owner) := by
  unfold bindComponent
  dsimp only
  split
  · split
    · exact .refl s
    · next component _ _ =>
      apply Keeps.trans
      · apply Keeps.update s id
        exact AnnotatedNode.mark_mapBindings fun b => { b with component := some component }
      · exact (Steady.use [] _ owner component).keeps
  · split
    · exact (Steady.reports [] s _).keeps
    · exact .refl s

namespace Makes

theorem keeps (makes : Makes m s t) (keeps : Keeps t u) : Makes m s u where
  basis := keeps.basis.trans makes.basis
  size := keeps.size.trans makes.size
  marks := keeps.marks.trans makes.marks
  skeleton := keeps.skeleton.trans makes.skeleton

theorem annotate (s : Pass) (node : NodeId) (parent : Option AnnotatedId) (kind : AnnotatedKind) :
    Makes (AnnotatedNode.mark { source := node, parent, kind }) s (s.annotate node parent kind).2 where
  basis := rfl
  size := s.annotations.size_add node parent kind
  marks := by
    funext n
    rw [Function.update_apply]
    exact s.annotations.map_add AnnotatedNode.mark (fun _ _ => rfl) node parent kind n
  skeleton := rfl

theorem markRoot (makes : Makes m s t) :
    Makes { m with isRoot := true } s (t.markRoot s.annotations.nodes.size) where
  basis := makes.basis
  size := (t.annotations.size_update _ _).trans makes.size
  marks := by
    funext n
    have before := congrFun makes.marks n
    rw [Function.update_apply] at before ⊢
    rw [Pass.marks, Pass.markRoot, annotations_update, AnnotatedTree.get?_update]
    by_cases here : n = s.annotations.nodes.size
    · subst here
      rw [if_pos rfl] at before ⊢
      obtain ⟨a, found, rfl⟩ := Option.map_eq_some_iff.1 before
      rw [if_pos rfl, found]
      rfl
    · rw [if_neg here] at before
      rw [if_neg (Ne.symm here), if_neg here]
      exact before
  skeleton := makes.skeleton

end Makes

/-! ## Scopes of declarations -/

theorem basis_annotate (s : Pass) (node : NodeId) (parent : Option AnnotatedId)
    (kind : AnnotatedKind) : (s.annotate node parent kind).2.basis = s.basis := rfl

/-! ## Entering -/

/-- Whether an element is annotated as a root when it is annotated as it is. -/
def startsRoot (s : Pass) (owner : Option ComponentId) (node : NodeId) (tag : String) : Bool :=
  tag = "body" || s.isTemplateOf owner node

theorem makes_enterPlain (s : Pass) (around : Surroundings) (node : NodeId) (tag : String) :
    Makes ⟨node, true, s.startsRoot around.owner node tag⟩ s (s.enterPlain around node tag).1 := by
  have made := Makes.annotate s node around.parent (.element {})
  unfold enterPlain
  rw [annotate_eq]
  dsimp only
  have same : (s.annotate node around.parent (.element {})).2.startsRoot around.owner node tag =
      s.startsRoot around.owner node tag := rfl
  generalize (s.annotate node around.parent (.element {})).2 = start at *
  have marked : Makes ⟨node, true, s.startsRoot around.owner node tag⟩ s
      (if start.startsRoot around.owner node tag then start.markRoot s.annotations.nodes.size
        else start) := by
    rw [same]
    cases s.startsRoot around.owner node tag with
    | true => exact made.markRoot
    | false => exact made
  unfold startsRoot at marked
  generalize (if tag = "body" || start.isTemplateOf around.owner node then
    start.markRoot s.annotations.nodes.size else start) = begun at *
  have bound := marked.keeps
    (keeps_bindComponent begun s.annotations.nodes.size node tag around.owner)
  generalize begun.bindComponent s.annotations.nodes.size node tag around.owner = u at *
  have edits := (Edits.refl.bindAttributes :
    Edits s.annotations.nodes.size node u _).readIndentation around.keepBlanks
  have read := bound.keeps edits.keeps
  split
  · exact read.keeps (keeps_takeOverChildren _ _)
  · exact read

theorem owner_enterPlain (s : Pass) (around : Surroundings) (node : NodeId) (tag : String) :
    (s.enterPlain around node tag).2.inner.owner = s.innerOwner node tag around.owner := by
  unfold enterPlain
  rw [annotate_eq]
  dsimp only
  rw [innerOwner_basis, basis_annotate, ← innerOwner_basis]

theorem makes_annotateStructural (s : Pass) (around : Surroundings) (node : NodeId)
    (directive : Directive) :
    Makes ⟨node, false, false⟩ s (s.annotateStructural around node directive).2 :=
  (Makes.annotate s node around.parent (.structural directive {} none)).keeps
    (.update _ _ fun _ => rfl)

theorem makes_enterIteration (s : Pass) (around : Surroundings) (node : NodeId)
    (tag variableName items : String) :
    Makes ⟨node, false, false⟩ s (s.enterIteration around node tag variableName items).1 := by
  have made := makes_annotateStructural s around node (.iteration variableName items)
  unfold enterIteration
  generalize s.annotateStructural around node (.iteration variableName items) = structural at made
  obtain ⟨id, start⟩ := structural
  dsimp only at made ⊢
  have stripped := made.keeps (Edits.refl.strip "iterate" : Edits id node start _).keeps
  generalize start.strip id "iterate" = u at *
  have hosted := stripped.keeps (Edits.refl.stripPresent ["template"] : Edits id node u _).keeps
  generalize u.stripPresent id node ["template"] = v at *
  have bound := hosted.keeps (keeps_bindComponent v id node tag around.owner)
  generalize v.bindComponent id node tag around.owner = w at *
  have read := bound.keeps (Edits.refl.bindAttributes : Edits id node w _).keeps
  have indented (u : Pass) : Keeps u (u.readIndentation id node around.keepBlanks).1 :=
    (Edits.refl.readIndentation around.keepBlanks : Edits id node u _).keeps
  split
  · exact stripped.keeps (indented u)
  · exact read.keeps (indented _)

/-- An element below the declaration of `owner` is annotated as it is, as a structural node, or as a
host with the element that is split off; what is below it is below the declaration of `inner`. -/
inductive Marked (owner : Option ComponentId) (node : NodeId) (tag : String) (s t : Pass)
    (inner : Option ComponentId) : Prop
  | plain (makes : Makes ⟨node, true, s.startsRoot owner node tag⟩ s t)
      (below : inner = s.innerOwner node tag owner)
  | structural (makes : Makes ⟨node, false, false⟩ s t) (below : inner = owner)
  | split {host : Pass} (makes : Makes ⟨node, false, false⟩ s host)
      (content : Makes ⟨s.document.size, true, s.startsRoot owner s.document.size tag⟩
        (host.mapDocument fun _ => (splitContent s.document node).2) t)
      (below : inner = s.innerOwner s.document.size tag owner)

theorem marked_enterConditional {around : Surroundings} (element : s.document.tag? node = some tag)
    (condition : String) :
    Marked around.owner node tag s (s.enterConditional around node tag condition).1
      (s.enterConditional around node tag condition).2.inner.owner := by
  have made := makes_annotateStructural s around node (.conditional condition)
  have document : (s.annotateStructural around node (.conditional condition)).2.document =
    s.document := rfl
  unfold enterConditional
  generalize s.annotateStructural around node (.conditional condition) = structural at *
  obtain ⟨id, start⟩ := structural
  dsimp only at made document ⊢
  have edits := (Edits.refl.stripPresent ["if", "instantiate", "template"] :
    Edits id node start _).readIndentation around.keepBlanks
  have hosted := made.keeps edits.keeps
  have same : ((start.stripPresent id node ["if", "instantiate", "template"]).readIndentation id node
      around.keepBlanks).1.document = s.document := by
    rw [document_readIndentation, document_stripPresent, document]
  generalize (start.stripPresent id node ["if", "instantiate", "template"]).readIndentation id node
    around.keepBlanks = read at *
  obtain ⟨host, keepBlanks⟩ := read
  dsimp only at hosted same ⊢
  split
  · exact .structural hosted rfl
  · rw [same, fst_splitContent element]
    have basis := (host.basis_mapDocument fun _ => (splitContent s.document node).2).trans hosted.basis
    generalize divided : (host.mapDocument fun _ => (splitContent s.document node).2) = u at *
    have content := u.makes_enterPlain { around with parent := some id, keepBlanks }
      s.document.size tag
    have below := u.owner_enterPlain { around with parent := some id, keepBlanks }
      s.document.size tag
    -- The host leaves scope and declarations alone, so `s` can be asked about the content.
    rw [startsRoot, isTemplateOf_basis, basis, ← isTemplateOf_basis] at content
    rw [innerOwner_basis, basis, ← innerOwner_basis] at below
    generalize u.enterPlain _ s.document.size tag = outcome at *
    obtain ⟨v, entry⟩ := outcome
    rw [← divided] at content
    apply Marked.split hosted (content.keeps ?_) below
    apply Keeps.update
    intro a
    cases a using AnnotatedNode.byKind <;> rfl

theorem Marked.of_reports {owner inner : Option ComponentId} {reports : Diagnostics}
    (marked : Marked owner node tag { s with reports } t inner) : Marked owner node tag s t inner := by
  cases marked with
  | plain makes below =>
      exact .plain ⟨makes.basis, makes.size, makes.marks, makes.skeleton⟩ below
  | structural makes below =>
      exact .structural ⟨makes.basis, makes.size, makes.marks, makes.skeleton⟩ below
  | split makes content below =>
      exact .split ⟨makes.basis, makes.size, makes.marks, makes.skeleton⟩ content below

theorem marked_enter {around : Surroundings} {entry : Entry}
    (element : s.document.tag? node = some tag)
    (found : s.enter around node tag = (t, some entry)) :
    Marked around.owner node tag s t entry.inner.owner := by
  unfold enter at found
  split at found
  · cases found
  · obtain ⟨reports, same⟩ := foldl_report s node (Plan.read s.document node tag).1
    dsimp only at found
    rw [same] at found
    have element' : ({ s with reports } : Pass).document.tag? node = some tag := element
    suffices entered : Marked around.owner node tag { s with reports } t entry.inner.owner from
      entered.of_reports
    generalize ({ s with reports } : Pass) = s at *
    split at found
    · cases found
    · obtain ⟨rfl, isEntry⟩ := Prod.mk.inj found
      obtain rfl := Option.some.inj isEntry
      exact .plain (makes_enterPlain s around node tag) rfl
    · next condition _ =>
      obtain ⟨rfl, isEntry⟩ := Prod.mk.inj found
      obtain rfl := Option.some.inj isEntry
      exact marked_enterConditional element' condition
    · next variableName items _ =>
      obtain ⟨rfl, isEntry⟩ := Prod.mk.inj found
      obtain rfl := Option.some.inj isEntry
      exact .structural (makes_enterIteration s around node tag variableName items) rfl

theorem Marked.basis {owner inner : Option ComponentId} (marked : Marked owner node tag s t inner) :
    t.basis = s.basis := by
  cases marked with
  | plain makes _ => exact makes.basis
  | structural makes _ => exact makes.basis
  | @split host makes content _ =>
      exact content.basis.trans ((host.basis_mapDocument _).trans makes.basis)

/-! ## Walks -/

theorem basis_visitText (s : Pass) (around : Surroundings) (node : NodeId) (text : String) :
    (s.visitText around node text).basis = s.basis := by
  have kept {parent : AnnotatedId} {s t : Pass} (pieces : Pieces parent s t) :
      t.basis = s.basis := by
    induction pieces with
    | refl => rfl
    | literal _ _ _ ih => exact ih
    | placeholder _ _ _ ih => exact ih
  cases under : around.parent with
  | none => rw [visitText_of_none s node under]
  | some parent =>
      cases bound : Binding.hasBinding text with
      | true =>
          obtain ⟨m, position, expr, first, second⟩ := visitText_of_bound s node under bound
          have before := kept first
          exact (kept second).trans before
      | false =>
          obtain ⟨m, same, shown⟩ := visitText_of_unbound s node under bound
          have unread : m.basis = s.basis := by
            rcases same with rfl | ⟨_, rfl⟩ <;> rfl
          rcases shown with shown | shown
          · rw [shown, unread]
          · rw [shown]
            exact unread

/-- A walk leaves the declarations, the flags and the scope as they were. -/
theorem Visits.basis {f : Forest} {around : Surroundings} (visits : Visits f around s t) :
    t.basis = s.basis := by
  induction visits with
  | nil => rfl
  | passed _ _ ih => exact ih
  | text _ _ ih => exact ih.trans (basis_visitText _ _ _ _)
  | @element node below rest around s t tag attributes entry entered inside data found enters under
      later ihUnder ihLater =>
      have marked := marked_enter (Document.tag?_eq_some.2 ⟨_, data⟩) found
      rw [ihLater, (keeps_foldl_identify inside entry.opened).basis, ihUnder, marked.basis]

end Pass
end ComponentMarkup
