import ComponentMarkup.Proofs.Annotated.Identify
import ComponentMarkup.Proofs.Annotated.Texts
import ComponentMarkup.Proofs.Component
import ComponentMarkup.Proofs.Document.Relocated

/-!
Passes over two documents that have come to the same point and cannot be told apart by what they
have seen, whatever the numbers of their nodes are. Of one annotation, the host, only so much has to
agree as does not depend on the element it stands for.
-/

namespace ComponentMarkup

/-! ## Components -/

/-- A component without the nodes that declare it. -/
def Component.unplaced (c : Component) : Component := { c with element := 0, template := none }

namespace ComponentTable

/-- Tables that differ in nothing but where components are declared. -/
def Twin (t t' : ComponentTable) : Prop :=
  ∀ id, (t'.get? id).map Component.unplaced = (t.get? id).map Component.unplaced

variable {t t' : ComponentTable}

namespace Twin

theorem map_eq (twin : t.Twin t') (id : ComponentId) {α : Type} (g : Component → α)
    (blind : ∀ c : Component, g c.unplaced = g c) : (t'.get? id).map g = (t.get? id).map g := by
  have shown (u : ComponentTable) : (u.get? id).map g = ((u.get? id).map Component.unplaced).map g := by
    rw [Option.map_map]
    exact Option.map_congr fun c _ => (blind c).symm
  rw [shown, shown, twin]

theorem update (twin : t.Twin t') (id : ComponentId) {f : Component → Component}
    (blind : ∀ c : Component, (f c).unplaced = f c.unplaced) :
    (t.update id f).Twin (t'.update id f) := by
  intro n
  rw [get?_update, get?_update]
  split
  · have moved (o : Option Component) : (o.map f).map Component.unplaced =
        (o.map Component.unplaced).map f := by
      rw [Option.map_map, Option.map_map]
      exact Option.map_congr fun c _ => blind c
    rw [moved, moved, twin]
  · exact twin n

theorem hasConflict (twin : t.Twin t') (id : ComponentId) : t'.hasConflict id = t.hasConflict id := by
  rw [hasConflict_eq_map, hasConflict_eq_map, twin.map_eq id _ fun _ => rfl]

theorem tag (twin : t.Twin t') (id : ComponentId) : t'.tag id = t.tag id := by
  have shown (u : ComponentTable) : u.tag id = ((u.get? id).map Component.tag).getD "" := by
    rw [ComponentTable.tag]
    cases u.get? id <;> rfl
  rw [shown, shown, twin.map_eq id _ fun _ => rfl]

end Twin
end ComponentTable

/-- A file without what a pass over it works on. -/
def SourceFile.outer (f : SourceFile) : SourceFile := { f with document := .empty, annotations := {} }

/-! ## Annotations -/

namespace AnnotatedNode

/-- The annotation as one of another node. -/
def standingFor (n : NodeId) (a : AnnotatedNode) : AnnotatedNode := { a with source := n }

/-- What is seen of an annotation: all but its source, and the tag or the text of that. -/
structure Sight where
  node : AnnotatedNode
  tag : Option String
  text : Option String

def sight (d : Document) (a : AnnotatedNode) : Sight :=
  ⟨a.standingFor 0, d.tag? a.source, d.text? a.source⟩

/-- A host without what the element it stands for leaves on it. -/
def veiled (a : AnnotatedNode) : AnnotatedNode :=
  { a with source := 0, stripped := [], kind := a.kind.withoutContent }

/-- A change that goes by what is seen, also where the annotation is veiled. -/
structure Blind (f : AnnotatedNode → AnnotatedNode) : Prop where
  source : ∀ (a : AnnotatedNode) n, f (a.standingFor n) = (f a).standingFor n
  veiled : ∀ a, (f a).veiled = (f a.veiled).veiled

namespace Blind
variable {f : AnnotatedNode → AnnotatedNode}

theorem source_eq (blind : Blind f) (a : AnnotatedNode) : (f a).source = a.source := by
  have same := blind.source a a.source
  change f a = _ at same
  rw [same]
  rfl

theorem sight_eq (blind : Blind f) (d : Document) (a : AnnotatedNode) :
    (f a).sight d = { a.sight d with node := f (a.sight d).node } := by
  rw [sight, sight, blind.source_eq, blind.source]

theorem mapBindings (g : Bindings → Bindings) : Blind (·.mapBindings g) where
  source a n := by cases a using byKind <;> rfl
  veiled a := by cases a using byKind <;> rfl

theorem strip (name : String) : Blind (·.strip name) :=
  ⟨fun _ _ => rfl, fun a => by cases a using byKind <;> rfl⟩

end Blind

theorem veiled_strip (a : AnnotatedNode) (name : String) : (a.strip name).veiled = a.veiled := rfl

theorem veiled_withContent (content : Option AnnotatedId) (a : AnnotatedNode) :
    (a.withContent content).veiled = a.veiled := by
  cases a using byKind <;> rfl

end AnnotatedNode

namespace Pass

/-- What is seen of an annotation by those who do not know what the host stands for. -/
def seen (host : Option AnnotatedId) (s : Pass) (id : AnnotatedId) : Option AnnotatedNode.Sight :=
  (s.annotations.get? id).map fun a =>
    if host = some id then ⟨a.veiled, none, none⟩ else a.sight s.document

structure Twin (host : Option AnnotatedId) (s s' : Pass) : Prop where
  file : s'.file.outer = s.file.outer
  components : s.components.Twin s'.components
  counter : s'.counter = s.counter
  reports : s'.reports = s.reports
  root : s'.annotations.root = s.annotations.root
  size : s'.annotations.nodes.size = s.annotations.nodes.size
  seen : ∀ id, s'.seen host id = s.seen host id
  inside : ∀ id a, s.annotations.get? id = some a → a.source < s.document.size
  inside' : ∀ id a, s'.annotations.get? id = some a → a.source < s'.document.size

variable {host : Option AnnotatedId} {s s' t t' : Pass} {id : AnnotatedId} {node node' : NodeId}

theorem seen_mapDocument {f : Document → Document} (same : ∀ n a, s.annotations.get? n = some a →
      (f s.document).tag? a.source = s.document.tag? a.source ∧
        (f s.document).text? a.source = s.document.text? a.source)
    (id : AnnotatedId) : (s.mapDocument f).seen host id = s.seen host id := by
  rw [Pass.seen, Pass.seen, annotations_mapDocument, document_mapDocument]
  refine Option.map_congr fun a found => ?_
  rw [AnnotatedNode.sight, AnnotatedNode.sight, (same id a found).1, (same id a found).2]

theorem seen_update {f : AnnotatedNode → AnnotatedNode} (blind : AnnotatedNode.Blind f)
    (s : Pass) (id n : AnnotatedId) : (s.update id f).seen host n =
      if id = n then (s.seen host n).map fun sight =>
        { sight with node := if host = some n then (f sight.node).veiled else f sight.node }
      else s.seen host n := by
  rw [Pass.seen, Pass.seen, annotations_update, AnnotatedTree.get?_update, document_update]
  by_cases here : id = n
  · rw [if_pos here, if_pos here, Option.map_map, Option.map_map]
    refine Option.map_congr fun a _ => ?_
    by_cases isHost : host = some n
    · simp only [Function.comp_apply, isHost, if_true, blind.veiled a]
    · simp only [Function.comp_apply, isHost, if_false, blind.sight_eq]
  · rw [if_neg here, if_neg here]

namespace Twin

theorem path (twin : Twin host s s') : s'.file.path = s.file.path :=
  (congrArg SourceFile.path twin.file :)

theorem scope (twin : Twin host s s') : s'.file.scope = s.file.scope :=
  (congrArg SourceFile.scope twin.file :)

/-- Whoever does not know what the host stands for sees no less without a host. -/
theorem veil (twin : Twin none s s') (host : Option AnnotatedId) : Twin host s s' where
  file := twin.file
  components := twin.components
  counter := twin.counter
  reports := twin.reports
  root := twin.root
  size := twin.size
  seen id := by
    have hide (u : Pass) : u.seen host id = (u.seen none id).map fun sight =>
        if host = some id then ⟨sight.node.veiled, none, none⟩ else sight := by
      rw [Pass.seen, Pass.seen, Option.map_map]
      refine Option.map_congr fun a _ => ?_
      simp only [Function.comp_apply, reduceCtorEq, if_false]
      rfl
    rw [hide, hide, twin.seen]
  inside := twin.inside
  inside' := twin.inside'

theorem symm (twin : Twin host s s') : Twin host s' s where
  file := twin.file.symm
  components id := (twin.components id).symm
  counter := twin.counter.symm
  reports := twin.reports.symm
  root := twin.root.symm
  size := twin.size.symm
  seen id := (twin.seen id).symm
  inside := twin.inside'
  inside' := twin.inside

/-! ## Looking at annotations -/

theorem map_veiled (twin : Twin host s s') (id : AnnotatedId) :
    (s'.annotations.get? id).map AnnotatedNode.veiled =
      (s.annotations.get? id).map AnnotatedNode.veiled := by
  have hide (u : Pass) : (u.annotations.get? id).map AnnotatedNode.veiled =
      (u.seen host id).map fun sight => sight.node.veiled := by
    rw [Pass.seen, Option.map_map]
    refine Option.map_congr fun a _ => ?_
    by_cases isHost : host = some id
    · simp only [Function.comp_apply, isHost, if_true]
      cases a using AnnotatedNode.byKind <;> rfl
    · simp only [Function.comp_apply, isHost, if_false]
      rfl
  rw [hide, hide, twin.seen]

theorem map_eq (twin : Twin host s s') (id : AnnotatedId) {α : Type} (g : AnnotatedNode → α)
    (blind : ∀ a : AnnotatedNode, g a.veiled = g a) :
    (s'.annotations.get? id).map g = (s.annotations.get? id).map g := by
  have hide (u : Pass) : (u.annotations.get? id).map g =
      ((u.annotations.get? id).map AnnotatedNode.veiled).map g := by
    rw [Option.map_map]
    exact Option.map_congr fun a _ => (blind a).symm
  rw [hide, hide, twin.map_veiled]

/-- Annotations other than the host differ in nothing but their sources. -/
theorem get?_eq (twin : Twin host s s') (other : host ≠ some id) : ∃ n,
    s'.annotations.get? id = (s.annotations.get? id).map (AnnotatedNode.standingFor n) := by
  have same := twin.seen id
  rw [Pass.seen, Pass.seen] at same
  cases found' : s'.annotations.get? id with
  | none =>
      rw [found', Option.map_none, eq_comm, Option.map_eq_none_iff] at same
      exact ⟨0, by rw [same]; rfl⟩
  | some a' =>
      rw [found', Option.map_some, eq_comm] at same
      obtain ⟨a, found, sights⟩ := Option.map_eq_some_iff.1 same
      rw [if_neg other, if_neg other] at sights
      have nodes : a.standingFor 0 = a'.standingFor 0 := congrArg AnnotatedNode.Sight.node sights
      refine ⟨a'.source, ?_⟩
      rw [found, Option.map_some]
      exact congrArg some (congrArg (AnnotatedNode.standingFor a'.source) nodes).symm

theorem component?_eq (twin : Twin host s s') (other : host ≠ some id) :
    s'.component? id = s.component? id := by
  obtain ⟨n, same⟩ := twin.get?_eq other
  rw [component?, component?, same]
  cases s.annotations.get? id <;> rfl

theorem isStripped_eq (twin : Twin host s s') (other : host ≠ some id) (name : String) :
    s'.isStripped id name = s.isStripped id name := by
  obtain ⟨n, same⟩ := twin.get?_eq other
  rw [isStripped, isStripped, same]
  cases s.annotations.get? id <;> rfl

theorem hasBinding_eq (twin : Twin host s s') (other : host ≠ some id) (name : String) :
    s'.hasBinding id name = s.hasBinding id name := by
  obtain ⟨n, same⟩ := twin.get?_eq other
  rw [hasBinding, hasBinding, same]
  cases s.annotations.get? id <;> rfl

theorem parent?_eq (twin : Twin host s s') (id : AnnotatedId) :
    s'.annotations.parent? id = s.annotations.parent? id := by
  have shown (t : AnnotatedTree) : t.parent? id = ((t.get? id).map AnnotatedNode.parent).join := by
    rw [AnnotatedTree.parent?]
    cases t.get? id <;> rfl
  rw [shown, shown, twin.map_eq id _ fun _ => rfl]

theorem children_eq (twin : Twin host s s') (id : AnnotatedId) :
    s'.annotations.children id = s.annotations.children id := by
  rw [AnnotatedTree.children_eq_map, AnnotatedTree.children_eq_map, twin.map_eq id _ fun _ => rfl]

theorem isBuilt_eq (twin : Twin host s s') : s'.annotations.isBuilt = s.annotations.isBuilt := by
  funext id
  rw [AnnotatedTree.isBuilt, AnnotatedTree.isBuilt, twin.parent?_eq]
  cases s.annotations.parent? id with
  | none => rfl
  | some parent =>
      dsimp only
      rw [AnnotatedTree.buildsChildren_eq_map, AnnotatedTree.buildsChildren_eq_map,
        twin.map_eq parent _ fun _ => rfl]

/-! ## Single changes on both sides -/

theorem update (twin : Twin host s s') (id : AnnotatedId) {f : AnnotatedNode → AnnotatedNode}
    (blind : AnnotatedNode.Blind f) : Twin host (s.update id f) (s'.update id f) where
  file := twin.file
  components := twin.components
  counter := twin.counter
  reports := twin.reports
  root := twin.root
  size := by
    rw [annotations_update, annotations_update, AnnotatedTree.size_update, AnnotatedTree.size_update,
      twin.size]
  seen n := by rw [seen_update blind, seen_update blind, twin.seen]
  inside n a found := by
    rw [annotations_update, AnnotatedTree.get?_update] at found
    split at found
    · obtain ⟨b, before, rfl⟩ := Option.map_eq_some_iff.1 found
      rw [blind.source_eq]
      exact twin.inside n b before
    · exact twin.inside n a found
  inside' n a found := by
    rw [annotations_update, AnnotatedTree.get?_update] at found
    split at found
    · obtain ⟨b, before, rfl⟩ := Option.map_eq_some_iff.1 found
      rw [blind.source_eq]
      exact twin.inside' n b before
    · exact twin.inside' n a found

/-- What is veiled of the host may be changed on one side. -/
theorem update_left {k : AnnotatedId} (twin : Twin (some k) s s') {f : AnnotatedNode → AnnotatedNode}
    (veiled : ∀ a, (f a).veiled = a.veiled) (source : ∀ a, (f a).source = a.source) :
    Twin (some k) (s.update k f) s' where
  file := twin.file
  components := twin.components
  counter := twin.counter
  reports := twin.reports
  root := twin.root
  size := by rw [annotations_update, AnnotatedTree.size_update, twin.size]
  seen id := by
    rw [twin.seen, Pass.seen, Pass.seen, annotations_update, AnnotatedTree.get?_update]
    by_cases isHost : k = id
    · rw [if_pos isHost, Option.map_map]
      refine (Option.map_congr fun a _ => ?_).symm
      simp only [Function.comp_apply, isHost, if_true, veiled]
    · rw [if_neg isHost]
      rfl
  inside id a found := by
    rw [annotations_update, AnnotatedTree.get?_update] at found
    split at found
    · obtain ⟨b, before, rfl⟩ := Option.map_eq_some_iff.1 found
      rw [source]
      exact twin.inside id b before
    · exact twin.inside id a found
  inside' := twin.inside'

theorem stripPresent_left {k : AnnotatedId} (twin : Twin (some k) s s') (node : NodeId)
    (names : List String) : Twin (some k) (s.stripPresent k node names) s' := by
  unfold Pass.stripPresent
  induction names generalizing s with
  | nil => exact twin
  | cons name names ih =>
      rw [List.foldl_cons]
      split
      · exact ih (twin.update_left (AnnotatedNode.veiled_strip · name) fun _ => rfl)
      · exact ih twin

/-- Documents may be changed while what annotations stand for stays in sight. -/
theorem mapDocument (twin : Twin host s s') (f f' : Document → Document)
    (size : s.document.size ≤ (f s.document).size) (size' : s'.document.size ≤ (f' s'.document).size)
    (same : ∀ id a, s.annotations.get? id = some a →
      (f s.document).tag? a.source = s.document.tag? a.source ∧
        (f s.document).text? a.source = s.document.text? a.source)
    (same' : ∀ id a, s'.annotations.get? id = some a →
      (f' s'.document).tag? a.source = s'.document.tag? a.source ∧
        (f' s'.document).text? a.source = s'.document.text? a.source) :
    Twin host (s.mapDocument f) (s'.mapDocument f') where
  file := twin.file
  components := twin.components
  counter := twin.counter
  reports := twin.reports
  root := twin.root
  size := twin.size
  seen id := by
    rw [seen_mapDocument same, seen_mapDocument same', twin.seen]
  inside id a found := Nat.lt_of_lt_of_le (twin.inside id a found) size
  inside' id a found := Nat.lt_of_lt_of_le (twin.inside' id a found) size'

theorem mapAttributes (twin : Twin host s s') (node node' : NodeId) (f f' : Attributes → Attributes) :
    Twin host (s.mapDocument (·.mapAttributes node f)) (s'.mapDocument (·.mapAttributes node' f')) :=
  twin.mapDocument _ _ (Nat.le_of_eq (s.document.size_mapAttributes node f).symm)
    (Nat.le_of_eq (s'.document.size_mapAttributes node' f').symm)
    (fun _ _ _ => ⟨s.document.tag?_mapAttributes .., s.document.text?_mapAttributes ..⟩)
    fun _ _ _ => ⟨s'.document.tag?_mapAttributes .., s'.document.text?_mapAttributes ..⟩

theorem report (twin : Twin host s s') (problem : Problem)
    (position : s'.document.position node' = s.document.position node) :
    Twin host (s.report problem node) (s'.report problem node') :=
  { twin with
    reports := by
      change s'.reports ++ _ = s.reports ++ _
      rw [twin.reports, twin.path, position] }

theorem readIndentation (twin : Twin host s s')
    (held : s'.document.attribute? node' "indentation" = s.document.attribute? node "indentation")
    (position : s'.document.position node' = s.document.position node) (id : AnnotatedId)
    (inherited : Bool) :
    Twin host (s.readIndentation id node inherited).1 (s'.readIndentation id node' inherited).1 := by
  have stripped := twin.update id (.strip "indentation")
  unfold Pass.readIndentation
  rw [held]
  split
  · exact twin
  · dsimp only
    split
    · exact stripped
    · split
      · exact stripped
      · exact stripped.report _ position

theorem draw (twin : Twin host s s') : Twin host s.draw.2 s'.draw.2 :=
  { twin with counter := congrArg (· + 1) twin.counter }

theorem use (twin : Twin host s s') (owner : Option ComponentId) (component : ComponentId) :
    Twin host (s.use owner component) (s'.use owner component) := by
  cases owner with
  | none =>
      exact { twin with
        file := congrArg
          (fun f : SourceFile => { f with used := addNew f.used component }) twin.file }
  | some owner => exact { twin with components := twin.components.update owner fun _ => rfl }

/-- A new annotation, of which nothing differs that is seen. -/
theorem annotate (twin : Twin host s s') (parent : Option AnnotatedId) (kind : AnnotatedKind)
    (inside : node < s.document.size) (inside' : node' < s'.document.size)
    (shown : host ≠ some s.annotations.nodes.size → s'.document.tag? node' = s.document.tag? node ∧
      s'.document.text? node' = s.document.text? node) :
    Twin host (s.annotate node parent kind).2 (s'.annotate node' parent kind).2 := by
  let pushed (u : Pass) (n : NodeId) : Pass :=
    { u with file.annotations.nodes := u.annotations.nodes.push { source := n, parent, kind } }
  have after (u : Pass) (n : NodeId) (id : AnnotatedId) : (pushed u n).annotations.get? id =
      if id = u.annotations.nodes.size then some { source := n, parent, kind }
      else u.annotations.get? id := Array.getElem?_push
  have grown : Twin host (pushed s node) (pushed s' node') := by
    refine ⟨twin.file, twin.components, twin.counter, twin.reports, twin.root, ?_, fun id => ?_,
      fun id a found => ?_, fun id a found => ?_⟩
    · change (s'.annotations.nodes.push _).size = (s.annotations.nodes.push _).size
      rw [Array.size_push, Array.size_push, twin.size]
    · rw [Pass.seen, Pass.seen, after, after, twin.size]
      by_cases isNew : id = s.annotations.nodes.size
      · rw [if_pos isNew, if_pos isNew, Option.map_some, Option.map_some]
        by_cases isHost : host = some id
        · rw [if_pos isHost, if_pos isHost]
          rfl
        · obtain ⟨tag, text⟩ := shown (isNew ▸ isHost)
          rw [if_neg isHost, if_neg isHost]
          change some (AnnotatedNode.Sight.mk _ (s'.document.tag? node') (s'.document.text? node')) = _
          rw [tag, text]
          rfl
      · rw [if_neg isNew, if_neg isNew]
        exact twin.seen id
    · rw [after] at found
      split at found
      · obtain rfl := Option.some.inj found
        exact inside
      · exact twin.inside id a found
    · rw [after] at found
      split at found
      · obtain rfl := Option.some.inj found
        exact inside'
      · exact twin.inside' id a found
  cases parent with
  | none =>
      refine { grown with root := ?_ }
      rw [annotations_annotate, annotations_annotate, AnnotatedTree.root_add, AnnotatedTree.root_add,
        twin.root, twin.size]
  | some parent =>
      have blind : AnnotatedNode.Blind fun a =>
          { a with children := a.children ++ [s.annotations.nodes.size] } :=
        ⟨fun _ _ => rfl, fun a => by cases a using AnnotatedNode.byKind <;> rfl⟩
      have linked := grown.update parent blind
      unfold Pass.annotate AnnotatedTree.add
      dsimp only
      rw [show s'.file.annotations.nodes.size = s.annotations.nodes.size from twin.size]
      exact linked

/-! ## Identifiers -/

theorem markQuery (twin : Twin host s s') (id : AnnotatedId) :
    Twin host (s.markQuery id) (s'.markQuery id) := by
  have ancestors : s'.annotations.ancestors id = s.annotations.ancestors id :=
    AnnotatedTree.ancestors_congr fun n _ => twin.parent?_eq n
  unfold Pass.markQuery
  rw [ancestors, twin.isBuilt_eq]
  split
  · exact twin.update _ ⟨fun _ _ => rfl, fun a => by cases a using AnnotatedNode.byKind <;> rfl⟩
  · exact twin

theorem number (twin : Twin host s s') (id : AnnotatedId) (node node' : NodeId) :
    Twin host (s.number id node) (s'.number id node') := by
  have labelled (u u' : Pass) (identifier : String) (twin : Twin host u u') :
      Twin host (u.update id fun a => { a with identifier := some identifier })
        (u'.update id fun a => { a with identifier := some identifier }) :=
    twin.update id ⟨fun _ _ => rfl, fun a => by cases a using AnnotatedNode.byKind <;> rfl⟩
  have draws (u : Pass) : u.draw = (u.counter, u.draw.2) := rfl
  have drawn := twin.draw
  unfold Pass.number
  rw [draws s, draws s', twin.counter]
  generalize s.draw.2 = u at drawn ⊢
  generalize s'.draw.2 = u' at drawn ⊢
  dsimp only
  rw [drawn.isBuilt_eq]
  split
  · exact labelled _ _ _ drawn
  · exact labelled _ _ _ (drawn.mapAttributes node node' _ _)

theorem identify (twin : Twin host s s') (id : AnnotatedId) :
    Twin host (s.identify id) (s'.identify id) := by
  have needs := twin.map_eq id (fun a => a.identifier.isSome || !a.needsIdentifier) fun a => by
    cases a using AnnotatedNode.byKind <;> rfl
  unfold Pass.identify
  cases found : s.annotations.get? id with
  | none =>
      rw [found, Option.map_none, Option.map_eq_none_iff] at needs
      rw [needs]
      exact twin
  | some a =>
      rw [found, Option.map_some] at needs
      obtain ⟨a', found', same⟩ := Option.map_eq_some_iff.1 needs
      rw [found']
      dsimp only at same ⊢
      rw [same]
      split
      · exact twin
      · exact (twin.markQuery id).number id a.source a'.source

theorem identifyAll (twin : Twin host s s') (ids : List AnnotatedId) :
    Twin host (ids.foldl Pass.identify s) (ids.foldl Pass.identify s') := by
  induction ids generalizing s s' with
  | nil => exact twin
  | cons id ids ih => exact ih (twin.identify id)

/-! ## Texts -/

theorem takeOverChildren (twin : Twin host s s') (id : AnnotatedId) :
    Twin host (s.takeOverChildren id) (s'.takeOverChildren id) :=
  twin.update id ⟨fun _ _ => rfl, fun a => by cases a using AnnotatedNode.byKind <;> rfl⟩

/-- A new text below an annotation. -/
theorem addText (twin : Twin host s s') (parent : Option AnnotatedId) (contents : String)
    (position position' : Position) (binding : Option Binding.Expr) :
    Twin host
      ((s.addText contents position).2.annotate (s.addText contents position).1 parent
        (.text binding)).2
      ((s'.addText contents position').2.annotate (s'.addText contents position').1 parent
        (.text binding)).2 := by
  have old (d : Document) (position : Position) {n : NodeId} (inside : n < d.size) :
      (d.createText contents position).2.tag? n = d.tag? n ∧
        (d.createText contents position).2.text? n = d.text? n := by
    have same := Document.data?_congr (d.node?_add_of_lt (.text contents) position inside)
    exact ⟨Document.tag?_congr same, Document.text?_congr same⟩
  have new (d : Document) (position : Position) :
      (d.createText contents position).2.data? d.size = some (.text contents) := by
    rw [Document.createText, Document.data?_add, if_pos rfl]
  have added := twin.mapDocument (fun d => (d.createText contents position).2)
    (fun d => (d.createText contents position').2)
    (by rw [Document.createText, Document.size_add]; exact Nat.le_succ _)
    (by rw [Document.createText, Document.size_add]; exact Nat.le_succ _)
    (fun id a found => old _ _ (twin.inside id a found))
    fun id a found => old _ _ (twin.inside' id a found)
  refine added.annotate parent _ ?_ ?_ fun _ => ?_
  · rw [document_mapDocument, Document.createText, Document.size_add]
    exact Nat.lt_succ_self _
  · rw [document_mapDocument, Document.createText, Document.size_add]
    exact Nat.lt_succ_self _
  · have data := new s.document position
    have data' := new s'.document position'
    have same : (s'.document.createText contents position').2.data? s'.document.size =
        (s.document.createText contents position).2.data? s.document.size := data'.trans data.symm
    exact ⟨Document.tag?_of_data? same, Document.text?_of_data? same⟩

theorem addLiteral (twin : Twin host s s') (parent : AnnotatedId) (keepBlanks : Bool)
    (position position' : Position) (text : String) :
    Twin host (s.addLiteral parent keepBlanks position text)
      (s'.addLiteral parent keepBlanks position' text) := by
  unfold Pass.addLiteral
  dsimp only
  split
  · exact twin
  · exact twin.addText (some parent) _ position position' none

theorem addPlaceholder (twin : Twin host s s') (parent : AnnotatedId)
    (position position' : Position) (expr : Binding.Expr) :
    Twin host (s.addPlaceholder parent position expr)
      (s'.addPlaceholder parent position' expr) := by
  have added := twin.addText (some parent) "" position position' (some expr)
  have drawn := added.draw
  have last (u : Pass) (position : Position) : u.addPlaceholder parent position expr =
      ((u.addText "" position).2.annotate (u.addText "" position).1 (some parent)
        (.text (some expr))).2.draw.2.update u.annotations.nodes.size
          fun a => { a with identifier := some (textIdentifier u.counter) } := rfl
  rw [last, last, twin.size, twin.counter]
  exact drawn.update _ ⟨fun _ _ => rfl, fun a => by cases a using AnnotatedNode.byKind <;> rfl⟩

theorem splitText (twin : Twin host s s') (parent : AnnotatedId) (keepBlanks : Bool)
    (position position' : Position) (segments : Binding.Segments) :
    Twin host (s.splitText parent keepBlanks position segments)
      (s'.splitText parent keepBlanks position' segments) := by
  unfold Pass.splitText
  refine Twin.addLiteral ?_ parent keepBlanks position position' segments.tail
  generalize segments.bound = bound
  induction bound generalizing s s' with
  | nil => exact twin
  | cons first bound ih =>
      exact ih ((twin.addLiteral parent keepBlanks position position' first.1).addPlaceholder parent
        position position' first.2)

section Text
variable {contents : String} (data : s.document.data? node = some (.text contents))
  (data' : s'.document.data? node' = some (.text contents))
include data data'

/-- Rewriting a text that no annotation stands for. -/
theorem setText (twin : Twin host s s')
    (apart : ∀ id a, s.annotations.get? id = some a → a.source ≠ node)
    (apart' : ∀ id a, s'.annotations.get? id = some a → a.source ≠ node') (shown : String) :
    Twin host (s.mapDocument (·.setText node shown)) (s'.mapDocument (·.setText node' shown)) ∧
      (s.mapDocument (·.setText node shown)).document.data? node = some (.text shown) ∧
      (s'.mapDocument (·.setText node' shown)).document.data? node' = some (.text shown) := by
  have others (d : Document) (n : NodeId) {m : NodeId} (other : m ≠ n) :
      (d.setText n shown).tag? m = d.tag? m ∧ (d.setText n shown).text? m = d.text? m := by
    have same := Document.data?_congr (d.node?_setText_of_ne shown other)
    exact ⟨Document.tag?_congr same, Document.text?_congr same⟩
  have written (d : Document) (n : NodeId) (data : d.data? n = some (.text contents)) :
      (d.setText n shown).data? n = some (.text shown) := by
    obtain ⟨old, found, isText⟩ := Option.map_eq_some_iff.1 data
    rw [Document.setText, Document.data?, Document.node?_update, if_pos rfl, found, Option.map_some,
      Option.map_some, isText]
  refine ⟨twin.mapDocument _ _ ?_ ?_ (fun id a found => others _ _ (apart id a found))
    fun id a found => others _ _ (apart' id a found), written _ _ data, written _ _ data'⟩
  · exact Nat.le_of_eq (s.document.size_setText node shown).symm
  · exact Nat.le_of_eq (s'.document.size_setText node' shown).symm

theorem annotateText (twin : Twin host s s') (parent : AnnotatedId) :
    Twin host (s.annotate node (some parent) (.text none)).2
      (s'.annotate node' (some parent) (.text none)).2 := by
  have inside (d : Document) (n : NodeId) (data : d.data? n = some (.text contents)) : n < d.size := by
    obtain ⟨old, found, -⟩ := Option.map_eq_some_iff.1 data
    exact d.lt_size_of_node? found
  have same := data'.trans data.symm
  exact twin.annotate (some parent) (.text none) (inside _ _ data) (inside _ _ data') fun _ =>
    ⟨Document.tag?_of_data? same, Document.text?_of_data? same⟩

variable (apart : ∀ id a, s.annotations.get? id = some a → a.source ≠ node)
  (apart' : ∀ id a, s'.annotations.get? id = some a → a.source ≠ node')
include apart apart'

theorem showText (twin : Twin host s s') (parent : AnnotatedId) (keepBlanks : Bool) :
    Twin host (s.showText node parent keepBlanks contents)
      (s'.showText node' parent keepBlanks contents) := by
  unfold Pass.showText
  generalize shownText keepBlanks contents = shown
  dsimp only
  cases shown == contents with
  | true =>
      split
      · exact twin
      · exact twin.annotateText data data' parent
  | false =>
      obtain ⟨written, data, data'⟩ := twin.setText data data' apart apart' shown
      split
      · exact written
      · exact written.annotateText data data' parent

theorem visitText (twin : Twin host s s') (around : Surroundings) :
    Twin host (s.visitText around node contents) (s'.visitText around node' contents) := by
  unfold Pass.visitText
  cases around.parent with
  | none => exact twin
  | some parent =>
      dsimp only
      split
      · exact twin.showText data data' apart apart' parent around.keepBlanks
      · exact (twin.takeOverChildren parent).splitText parent _ _ _ _

end Text
end Twin
end Pass
end ComponentMarkup
