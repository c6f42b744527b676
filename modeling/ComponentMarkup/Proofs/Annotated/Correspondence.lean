import ComponentMarkup.Proofs.Annotated.Mirror
import ComponentMarkup.Proofs.Annotated.Sourced
import Mathlib.Data.List.DropRight

/-!
The annotations of a file correspond to its document: below the annotation of a node stand those of
the children of the node, in their order, with the pieces of a bound text in its place.

Nothing that a body holds is lost: it is annotated, or there is a reason why it is left out.
-/

namespace ComponentMarkup

/-- A piece of a bound text, on a text that was made for it. `before` is the document before. -/
def AnnotatedNode.IsSegment (before : Document) (a : AnnotatedNode) : Prop :=
  a.isText = true ∧ before.size ≤ a.source

/-- The annotations that stand below `parent` for the node `child`. -/
inductive SourceFile.Row (before : Document) (file : SourceFile) (parent : AnnotatedId)
    (child : NodeId) : List AnnotatedId → Prop
  | none (unbound : before.bindsText child = false) : Row before file parent child []
  | own {id : AnnotatedId} {a : AnnotatedNode} (unbound : before.bindsText child = false)
      (found : file.annotations.get? id = some a) (source : a.source = child) :
      Row before file parent child [id]
  | segments {ids : List AnnotatedId} {text : String} (keepBlanks : Bool)
      (isText : before.text? child = some text) (bound : Binding.hasBinding text = true)
      (pieces : List.Forall₂ (file.IsPiece before.size parent (before.position child)) ids
        ((Binding.scan text).shown keepBlanks)) :
      Row before file parent child ids

/-- The annotations of a file mirror its document, which was `before` when they were made. -/
structure SourceFile.Mirrors (before : Document) (file : SourceFile) : Prop where
  walk : file.annotations.walk = List.range file.annotations.nodes.size
  ordered : ∀ id p, file.annotations.parent? id = some p → p < id
  linked : ∀ p id, id ∈ file.annotations.children p ↔ file.annotations.parent? id = some p
  root : ∀ id a, file.annotations.get? id = some a → a.parent = none →
    file.annotations.root = some id
  distinct : ∀ id id' a a', file.annotations.get? id = some a →
    file.annotations.get? id' = some a' → a.source = a'.source → id = id'
  above : ∀ id a p b, file.annotations.get? id = some a → a.parent = some p →
    file.annotations.get? p = some b → ¬ a.IsSegment before →
      file.document.parent? a.source = some b.source
  rows : ∀ id a, file.annotations.get? id = some a → a.isText = false →
    ∃ rows, a.children = rows.flatten ∧
      List.Forall₂ (file.Row before id) (file.document.children a.source) rows

namespace Pass
variable {d : Document} {u : Pass} {place : Place} {f F : Forest} {id : AnnotatedId}
  {a : AnnotatedNode}

namespace Mirrors

/-- What is on top hangs below the annotation of the place, and stands for what is below its node. -/
theorem tops (mirrors : Mirrors d u place f F) : ∀ id ∈ F.tops, ∃ a,
    u.annotations.get? id = some a ∧ a.parent = place.parent ∧
      (¬ a.IsSegment d → u.document.parent? a.source = place.holder) := by
  induction mirrors with
  | nil => exact fun id impossible => nomatch impossible
  | passed => exact fun id impossible => nomatch impossible
  | append _ _ ihFirst ihLater =>
      intro id top
      rw [Forest.tops_append, List.mem_append] at top
      exact top.elim (ihFirst id) (ihLater id)
  | @text place parent node below old contents ids under found isText row same =>
      intro id top
      rw [Forest.tops_leaves] at top
      rw [under]
      cases row with
      | hidden => cases top
      | own unbound something after here source above kind leaf =>
          obtain rfl := List.mem_singleton.1 top
          exact ⟨_, here, above, fun _ => source ▸ Document.parent?_eq after⟩
      | cut bound after pieces =>
          obtain ⟨piece, -, a, here, above, kind, -, isNew, -⟩ := exists_isPiece_of_mem pieces top
          refine ⟨a, here, above, fun notSegment => absurd ⟨?_, isNew⟩ notSegment⟩
          rw [AnnotatedNode.isText, kind]
  | whole found element stands _ after _ _ =>
      intro id top
      obtain rfl := List.mem_singleton.1 top
      exact ⟨_, stands.found, stands.parent, fun _ => stands.source ▸ Document.parent?_eq after⟩
  | split found element stands _ content plain isNew after made _ _ =>
      intro id top
      obtain rfl := List.mem_singleton.1 top
      exact ⟨_, stands.found, stands.parent, fun _ => stands.source ▸ Document.parent?_eq after⟩

/-- The annotations on top are a row for each node on top. -/
theorem rows {p : AnnotatedId} (mirrors : Mirrors d u place f F) (under : place.parent = some p) :
    ∃ rows, F.tops = rows.flatten ∧ List.Forall₂ (u.file.Row d p) f.tops rows := by
  induction mirrors with
  | nil => exact ⟨[], rfl, .nil⟩
  | append _ _ ihFirst ihLater =>
      obtain ⟨rows, flat, aligned⟩ := ihFirst under
      obtain ⟨rows', flat', aligned'⟩ := ihLater under
      refine ⟨rows ++ rows', ?_, ?_⟩
      · rw [Forest.tops_append, flat, flat', List.flatten_append]
      · rw [Forest.tops_append]
        exact List.rel_append aligned aligned'
  | @passed place node below silent left same =>
      refine ⟨[[]], rfl, .cons (.none ?_) .nil⟩
      rw [Document.bindsText, silent]
  | @text place parent node below old contents ids above found isText row same =>
      obtain rfl : parent = p := Option.some.inj (above.symm.trans under)
      have shown : d.text? node = some contents := by
        rw [Document.text?, Document.data?_eq found, isText]
      have binds : d.bindsText node = Binding.hasBinding contents := by
        rw [Document.bindsText, shown]
      refine ⟨[ids], ?_, .cons ?_ .nil⟩
      · rw [Forest.tops_leaves]
        exact (List.append_nil ids).symm
      · cases row with
        | hidden unbound => exact .none (binds.trans unbound)
        | own unbound something after here source => exact .own (binds.trans unbound) here source
        | cut bound after pieces =>
            refine .segments place.keepBlanks shown bound ?_
            rw [Document.position, found]
            exact pieces
  | whole found element stands _ after _ _ =>
      exact ⟨[[_]], rfl, .cons (.own (bindsText_of_element (Document.tag?_eq found element)) stands.found
        stands.source) .nil⟩
  | split found element stands _ content plain isNew after made _ _ =>
      exact ⟨[[_]], rfl, .cons (.own (bindsText_of_element (Document.tag?_eq found element)) stands.found
        stands.source) .nil⟩

/-- What stands below the annotation `id` of `a`. -/
structure Heads (d : Document) (u : Pass) (id : AnnotatedId) (a : AnnotatedNode) : Prop where
  below : ∀ child ∈ a.children, ∃ b, u.annotations.get? child = some b ∧ b.parent = some id ∧
    (¬ b.IsSegment d → u.document.parent? b.source = some a.source)
  rows : a.isText = false → ∃ rows, a.children = rows.flatten ∧
    List.Forall₂ (u.file.Row d id) (u.document.children a.source) rows

theorem heads_of_stands {parent : Option AnnotatedId} {content : Option AnnotatedId} {node : NodeId}
    {keepBlanks : Bool} {below : Forest} {after : Node}
    (stands : u.Stands parent node content F.tops id a)
    (inside : Mirrors d u ⟨some id, some node, keepBlanks⟩ below F)
    (found : u.document.node? node = some after) (children : after.children = below.tops) :
    Heads d u id a := by
  refine ⟨fun child member => ?_, fun _ => ?_⟩
  · rw [stands.children] at member
    rw [stands.source]
    exact inside.tops child member
  · rw [stands.children, stands.source, Document.children_eq found, children]
    exact inside.rows rfl

theorem heads (mirrors : Mirrors d u place f F) (follows : f.Follows d.children) :
    ∀ id ∈ F.preorder, ∃ a, u.annotations.get? id = some a ∧ Heads d u id a := by
  induction mirrors with
  | nil => exact fun id impossible => nomatch impossible
  | passed => exact fun id impossible => nomatch impossible
  | append _ _ ihFirst ihLater =>
      intro id member
      rw [Forest.preorder_append, List.mem_append] at member
      exact member.elim (ihFirst follows.left id) (ihLater follows.right id)
  | @text place parent node below old contents ids under found isText row same =>
      intro id member
      rw [Forest.preorder_leaves] at member
      -- A text has nothing below it.
      have leaf (a : AnnotatedNode) (binding : Option Binding.Expr) (kind : a.kind = .text binding)
          (childless : a.children = []) : Heads d u id a := by
        refine ⟨fun child member => ?_, fun element => ?_⟩
        · rw [childless] at member
          cases member
        · rw [AnnotatedNode.isText, kind] at element
          cases element
      cases row with
      | hidden => cases member
      | own unbound something after here source above kind childless =>
          obtain rfl := List.mem_singleton.1 member
          exact ⟨_, here, leaf _ _ kind childless⟩
      | cut bound after pieces =>
          obtain ⟨piece, -, a, here, -, kind, childless, -⟩ := exists_isPiece_of_mem pieces member
          exact ⟨a, here, leaf a _ kind childless⟩
  | @whole place node below F old tag attributes id a found element stands _ after inside ih =>
      intro n member
      rw [Forest.mem_preorder_tree] at member
      rcases member with rfl | member
      · refine ⟨a, stands.found, heads_of_stands stands inside after ?_⟩
        exact (Document.children_eq found).symm.trans follows.1.symm
      · exact ih follows.2.1 n member
  | @split place node new below F old tag attributes id inner a b found element stands _ content
      plain isNew after made inside ih =>
      intro n member
      rw [Forest.mem_preorder_tree, Forest.mem_preorder_tree] at member
      rcases member with rfl | rfl | member
      · refine ⟨a, stands.found, fun child isChild => ?_, fun _ => ⟨[[inner]], ?_, ?_⟩⟩
        · rw [stands.children] at isChild
          obtain rfl := List.mem_singleton.1 isChild
          rw [stands.source]
          exact ⟨b, content.found, content.parent, fun _ => content.source ▸ Document.parent?_eq made⟩
        · exact stands.children
        · rw [stands.source, Document.children_eq after]
          refine .cons (.own ?_ content.found content.source) .nil
          rw [Document.bindsText, Document.text?, Document.data?, d.node?_eq_none isNew]
          rfl
      · refine ⟨b, content.found, heads_of_stands content inside made ?_⟩
        exact (Document.children_eq found).symm.trans follows.1.symm
      · exact ih follows.2.1 n member

end Mirrors
end Pass

open Pass in
/-- The annotations that a first pass leaves mirror the document. -/
theorem mirrors_file_annotateFile (keepBlanks : Bool) {s : Pass} (fresh : s.annotations = {})
    (wellFormed : s.document.WellFormed) :
    (annotateFile keepBlanks s).file.Mirrors s.document := by
  obtain ⟨F, grown, mirrors⟩ := mirrors_annotateFile keepBlanks fresh wellFormed
  obtain ⟨G, grown', few⟩ := grown_annotateFile keepBlanks s
  have walkable := walkable_bodyForest fresh wellFormed
  have sourced := (visits_annotateFile keepBlanks s).sourced walkable
  have heads := mirrors.heads walkable.fits.follows
  have isNew (id : AnnotatedId) : s.annotations.nodes.size ≤ id := by
    rw [fresh]
    exact Nat.zero_le id
  have tree := grown.tree
  have tree' := grown'.tree
  rw [fresh] at tree tree'
  generalize annotateFile keepBlanks s = t at *
  have whole {id : AnnotatedId} (inside : id < t.annotations.nodes.size) :
      ∃ a, t.annotations.get? id = some a ∧ Pass.Mirrors.Heads s.document t id a :=
    heads id (tree.mem_preorder.2 ⟨Nat.zero_le id, inside⟩)
  have linked (p id : AnnotatedId) (child : id ∈ t.annotations.children p) :
      ∃ b, t.annotations.get? id = some b ∧ b.parent = some p ∧
        ∀ a, t.annotations.get? p = some a → ¬ b.IsSegment s.document →
          t.document.parent? b.source = some a.source := by
    have inside : p < t.annotations.nodes.size := by
      by_contra outside
      have absent : t.annotations.get? p = none := Array.getElem?_eq_none (Nat.le_of_not_lt outside)
      rw [AnnotatedTree.children, absent] at child
      cases child
    obtain ⟨a, found, heads⟩ := whole inside
    rw [AnnotatedTree.children_eq found] at child
    obtain ⟨b, below, under, source⟩ := heads.below id child
    refine ⟨b, below, under, fun a' found' => ?_⟩
    obtain rfl := Option.some.inj (found.symm.trans found')
    exact source
  have top_or_child {H : Forest} (grows : AnnotatedTree.Grows none H {} t.annotations)
      {id : AnnotatedId} (inside : id < t.annotations.nodes.size) :
      id ∈ H.tops ∨ ∃ q, id ∈ t.annotations.children q :=
    (grows.follows.top_or_child (grows.mem_preorder.2 ⟨Nat.zero_le id, inside⟩)).imp_right
      (Exists.imp fun _ => And.right)
  -- A node with a parent is no top, so the parent has it among its children.
  have child_of {p id : AnnotatedId} {a : AnnotatedNode} (found : t.annotations.get? id = some a)
      (under : a.parent = some p) : id ∈ t.annotations.children p := by
    rcases top_or_child tree (AnnotatedTree.lt_size_of_get? found) with top | ⟨q, child⟩
    · obtain ⟨b, found', above, -⟩ := mirrors.tops id top
      obtain rfl := Option.some.inj (found.symm.trans found')
      cases above.symm.trans under
    · obtain ⟨b, found', above, -⟩ := linked q id child
      obtain rfl := Option.some.inj (found.symm.trans found')
      obtain rfl := Option.some.inj (above.symm.trans under)
      exact child
  refine ⟨tree'.walk_eq few, fun id p under => ?_, fun p id => ⟨fun child => ?_, fun under => ?_⟩,
    fun id a found top => ?_, fun id id' a a' found found' => ?_, fun id a p b found under above => ?_,
    fun id a found => ?_⟩
  · exact tree.above id p (Nat.zero_le id) under
  · obtain ⟨b, found, above, -⟩ := linked p id child
    exact (AnnotatedTree.parent?_eq found).trans above
  · obtain ⟨a, found, above⟩ := Option.bind_eq_some_iff.1 under
    exact child_of found above
  · rcases top_or_child tree' (AnnotatedTree.lt_size_of_get? found) with isTop | ⟨q, child⟩
    · have root : t.annotations.root = G.tops.head? := by
        rw [tree'.root, if_pos rfl]
        rfl
      change t.annotations.root = some id
      rw [root]
      rw [Nat.le_one_iff_eq_zero_or_eq_one, List.length_eq_zero_iff, List.length_eq_one_iff] at few
      obtain none | ⟨only, single⟩ := few
      · rw [none] at isTop
        cases isTop
      · rw [single] at isTop ⊢
        rw [List.mem_singleton.1 isTop]
        rfl
    · obtain ⟨b, found', above, -⟩ := linked q id child
      obtain rfl := Option.some.inj (found.symm.trans found')
      cases top.symm.trans above
  · exact sourced.apart id id' a a' (isNew id) (isNew id') found found'
  · obtain ⟨a', found', -, source⟩ := linked p id (child_of found under)
    obtain rfl := Option.some.inj (found.symm.trans found')
    exact source b above
  · obtain ⟨a', found', heads⟩ := whole (AnnotatedTree.lt_size_of_get? found)
    obtain rfl := Option.some.inj (found'.symm.trans found)
    exact heads.rows

/-! ## Coverage of the body -/

/-! ## Blanks -/

theorem Text.isMarkupBlank_of_compacted {text : String} (nothing : Text.compacted text = "") :
    text.toList.all Text.isMarkupBlank = true := by
  have empty : compact text.toList = [] := by
    have shown := congrArg String.toList nothing
    rwa [compacted, String.toList_ofList] at shown
  generalize text.toList = cs at empty
  rw [compact] at empty
  split at empty
  · next core =>
    have blank : ∀ c ∈ cs.dropWhile isMarkupBlank, isMarkupBlank c = true := by
      rw [List.isEmpty_iff, List.reverse_eq_nil_iff, List.dropWhile_eq_nil_iff] at core
      exact fun c member => core c (List.mem_reverse.2 member)
    have rest : cs.dropWhile isMarkupBlank = [] :=
      (List.dropWhile_idempotent _ _).symm.trans (List.dropWhile_eq_nil_iff.2 blank)
    rw [List.dropWhile_eq_nil_iff] at rest
    exact List.all_eq_true.2 rest
  · next core =>
    obtain ⟨prior, -⟩ := List.append_eq_nil_iff.1 empty
    rw [(List.append_eq_nil_iff.1 prior).2] at core
    exact absurd rfl core

theorem isMarkupBlank_of_shownText {keepBlanks : Bool} {text : String}
    (nothing : shownText keepBlanks text = "") : text.toList.all Text.isMarkupBlank = true := by
  cases keepBlanks with
  | true =>
      obtain rfl : text = "" := nothing
      rfl
  | false => exact Text.isMarkupBlank_of_compacted nothing

/-! ## Coverage -/

/-- An element is annotated, and so is what was split off it, which is below it. -/
def SourceFile.ShowsElement (file : SourceFile) (node : NodeId) : Prop :=
  ∃ id a, file.annotations.get? id = some a ∧ a.isText = false ∧ a.source = node ∧
    ∀ inner ∈ a.content?, ∃ b, file.annotations.get? inner = some b ∧ b.isText = false ∧
      b.parent = some id ∧ file.document.parent? b.source = some node

/-- A text has an annotation of its own, or one for each piece that it is cut into. -/
def SourceFile.ShowsText (before : Document) (file : SourceFile) (node : NodeId) (text : String) :
    Prop :=
  (∃ id a, file.annotations.get? id = some a ∧ a.isText = true ∧ a.source = node) ∨
    Binding.hasBinding text = true ∧ ∃ parent keepBlanks ids,
      List.Forall₂ (file.IsPiece before.size parent (before.position node)) ids
        ((Binding.scan text).shown keepBlanks)

/-- The node is left out, or it is below an element that is. -/
def Document.Omits (d : Document) (path : Path) (reports : Diagnostics) (node : NodeId) : Prop :=
  ∃ top tag, d.tag? top = some tag ∧ d.LeftOut path reports top tag ∧
    node ∈ (d.forest top).preorder

/-- What became of a node of `before` in the file. -/
structure SourceFile.Covers (before : Document) (file : SourceFile) (reports : Diagnostics)
    (node : NodeId) : Prop where
  element : (before.tag? node).isSome = true →
    file.ShowsElement node ∨ before.Omits file.path reports node
  text : ∀ text, before.text? node = some text → file.ShowsText before node text ∨
    before.Omits file.path reports node ∨
    Binding.hasBinding text = false ∧ text.toList.all Text.isMarkupBlank = true

namespace Pass
variable {d : Document} {u : Pass} {place : Place} {f F : Forest} {node : NodeId} {old : Node}
  {tag : String} {attributes : Attributes}

theorem covers_of_showsElement (found : d.node? node = some old)
    (element : old.data = .element tag attributes) (shown : u.file.ShowsElement node) :
    u.file.Covers d u.reports node where
  element _ := .inl shown
  text text isText := by
    rw [Document.text?, Document.data?_eq found, element] at isText
    cases isText

/-- Every node of a forest that is walked is annotated or left out for a reason. -/
theorem Mirrors.covers (mirrors : Mirrors d u place f F) (fits : d.Fits f) :
    ∀ n ∈ d.reached f, u.file.Covers d u.reports n := by
  induction mirrors with
  | nil => exact fun n impossible => nomatch impossible
  | append _ _ ihFirst ihLater =>
      intro n member
      rw [Document.reached_append, List.mem_append] at member
      exact member.elim (ihFirst fits.left n) (ihLater fits.right n)
  | @passed place node below silent left same =>
      intro n member
      cases element : d.tag? node with
      | some tag =>
          have omits : d.Omits u.file.path u.reports n := by
            refine ⟨node, tag, element, left tag element, ?_⟩
            rw [Document.forest_eq_of_fits fits rfl]
            exact Document.mem_preorder_of_mem_reached member
          exact ⟨fun _ => .inr omits, fun _ _ => .inr (.inl omits)⟩
      | none =>
          rw [Document.reached, element] at member
          obtain rfl := List.mem_singleton.1 member
          refine ⟨fun isElement => ?_, fun text isText => ?_⟩
          · rw [element] at isElement
            cases isElement
          · rw [silent] at isText
            cases isText
  | @text place parent node below old contents ids under found isText row same =>
      intro n member
      have plain : d.tag? node = none := by rw [Document.tag?, Document.data?_eq found, isText]
      rw [Document.reached, plain] at member
      obtain rfl := List.mem_singleton.1 member
      refine ⟨fun isElement => ?_, fun text shown => ?_⟩
      · rw [plain] at isElement
        cases isElement
      · rw [Document.text?, Document.data?_eq found, isText] at shown
        obtain rfl := Option.some.inj shown
        cases row with
        | hidden unbound nothing =>
            exact .inr (.inr ⟨unbound, isMarkupBlank_of_shownText nothing⟩)
        | own unbound something after here source above kind =>
            exact .inl (.inl ⟨_, _, here, by rw [AnnotatedNode.isText, kind], source⟩)
        | cut bound after pieces =>
            refine .inl (.inr ⟨bound, parent, place.keepBlanks, ids, ?_⟩)
            rw [Document.position, found]
            exact pieces
  | whole found element stands _ after _ ih =>
      intro n member
      rw [Document.reached_cons (Document.tag?_eq found element), List.mem_cons] at member
      rcases member with rfl | member
      · refine covers_of_showsElement found element ⟨_, _, stands.found, stands.element, stands.source,
          fun inner isContent => ?_⟩
        rw [stands.content] at isContent
        cases isContent
      · exact ih fits.under n member
  | split found element stands _ content _ isNew after made _ ih =>
      intro n member
      rw [Document.reached_cons (Document.tag?_eq found element), List.mem_cons] at member
      rcases member with rfl | member
      · refine covers_of_showsElement found element ⟨_, _, stands.found, stands.element, stands.source,
          fun inner isContent => ?_⟩
        rw [stands.content] at isContent
        obtain rfl := Option.some.inj isContent
        refine ⟨_, content.found, content.element, content.parent, ?_⟩
        rw [content.source]
        exact Document.parent?_eq made
      · exact ih fits.under n member

end Pass

/-- Of all that is reached in the body of a file, a first pass loses nothing without a reason. -/
theorem covers_file_annotateFile (keepBlanks : Bool) {s : Pass} (fresh : s.annotations = {})
    (wellFormed : s.document.WellFormed) : ∀ n ∈ s.document.reached s.document.bodyForest,
      (annotateFile keepBlanks s).file.Covers s.document (annotateFile keepBlanks s).reports n := by
  obtain ⟨F, -, mirrors⟩ := mirrors_annotateFile keepBlanks fresh wellFormed
  exact mirrors.covers wellFormed.fits_bodyForest

end ComponentMarkup
