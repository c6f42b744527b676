import ComponentMarkup.Proofs.Annotated.Descent
import ComponentMarkup.Proofs.Annotated.Mirror
import ComponentMarkup.Proofs.Annotated.Sourced
import Mathlib.Data.List.Nodup

/-!
The elements that a pass makes: one for each condition whose host is not shown itself.
-/

namespace ComponentMarkup

/-! ## Roles -/

namespace SourceFile

/-- A host that is not shown itself: what it shows is on an element below it. -/
def optsIn (file : SourceFile) (a : AnnotatedNode) : Bool :=
  (file.document.tag? a.source).any (Pass.splits · a.directive?)

/-- The annotation `inner` of `b` stands for the element that was made for the host `id` of `a`. -/
structure Content (before : Document) (file : SourceFile) (id : AnnotatedId) (a : AnnotatedNode)
    (inner : AnnotatedId) (b : AnnotatedNode) : Prop where
  optsIn : file.optsIn a = true
  link : a.content? = some inner
  found : file.annotations.get? inner = some b
  children : a.children = [inner]
  parent : b.parent = some id
  plain : ∃ bindings, b.kind = .element bindings
  new : before.size ≤ b.source
  tag : file.document.tag? b.source = file.document.tag? a.source
  under : file.document.parent? b.source = some a.source

/-- What one of the annotations `made` stands for: a text, an element that is shown itself, a host,
or what a host shows. -/
inductive Role (before : Document) (file : SourceFile) (made : List AnnotatedId) (id : AnnotatedId)
    (a : AnnotatedNode) : Prop
  | text (isText : a.isText = true) (silent : file.document.tag? a.source = none)
  | shown (element : a.isText = false) (old : a.source < before.size)
      (whole : file.optsIn a = false) (unlinked : a.content? = none)
  | host {inner : AnnotatedId} {b : AnnotatedNode} (old : a.source < before.size)
      (member : inner ∈ made) (content : file.Content before id a inner b)
  | content {host : AnnotatedId} {b : AnnotatedNode} (member : host ∈ made)
      (found : file.annotations.get? host = some b) (content : file.Content before host b id a)

end SourceFile

variable {d : Document} {file : SourceFile} {made made' : List AnnotatedId} {id : AnnotatedId}
  {a : AnnotatedNode}

theorem SourceFile.Role.mono (role : file.Role d made id a) (more : ∀ id ∈ made, id ∈ made') :
    file.Role d made' id a := by
  cases role with
  | text isText silent => exact .text isText silent
  | shown element old whole unlinked => exact .shown element old whole unlinked
  | host old member content => exact .host old (more _ member) content
  | content member found content => exact .content (more _ member) found content

theorem AnnotatedNode.exists_kind_of_plain (element : a.isText = false)
    (plain : a.directive? = none) : ∃ bindings, a.kind = .element bindings := by
  cases a using AnnotatedNode.byKind with
  | element a bindings => exact ⟨bindings, rfl⟩
  | structural => cases plain
  | text => cases element

namespace Pass
variable {s t u : Pass} {place : Place} {f F : Forest}

theorem Mirrors.role (mirrors : Mirrors d u place f F) : ∀ id ∈ F.preorder,
    ∃ a, u.annotations.get? id = some a ∧ u.file.Role d F.preorder id a := by
  have part {made made' : List AnnotatedId} {id : AnnotatedId} (more : ∀ n ∈ made, n ∈ made')
      (holds : ∃ a, u.annotations.get? id = some a ∧ u.file.Role d made id a) :
      ∃ a, u.annotations.get? id = some a ∧ u.file.Role d made' id a := by
    obtain ⟨a, found, role⟩ := holds
    exact ⟨a, found, role.mono more⟩
  induction mirrors with
  | nil => exact fun id impossible => nomatch impossible
  | passed => exact fun id impossible => nomatch impossible
  | append _ _ ihFirst ihLater =>
      intro id member
      rw [Forest.preorder_append] at member ⊢
      rcases List.mem_append.1 member with member | member
      · exact part (fun n => List.mem_append_left _) (ihFirst id member)
      · exact part (fun n => List.mem_append_right _) (ihLater id member)
  | text under found isText row same =>
      intro id member
      rw [Forest.preorder_leaves] at member
      have silent {n : NodeId} {node : Node} {contents : String}
          (after : u.document.node? n = some node) (data : node.data = .text contents) :
          u.document.tag? n = none := by
        rw [Document.tag?, Document.data?_eq after, data]
      cases row with
      | hidden => cases member
      | own unbound something after here source above kind =>
          obtain rfl := List.mem_singleton.1 member
          exact ⟨_, here, .text (by rw [AnnotatedNode.isText, kind]) (source ▸ silent after rfl)⟩
      | cut bound after pieces =>
          obtain ⟨piece, -, a, here, -, kind, -, -, made⟩ := exists_isPiece_of_mem pieces member
          exact ⟨a, here, .text (by rw [AnnotatedNode.isText, kind]) (silent made rfl)⟩
  | @whole place node below F old tag attributes id a found data stands unsplit after _ ih =>
      intro n member
      rw [Forest.mem_preorder_tree] at member
      rcases member with rfl | member
      · refine ⟨a, stands.found, .shown stands.element ?_ ?_ stands.content⟩
        · rw [stands.source]
          exact d.lt_size_of_node? found
        · have tagged : u.file.document.tag? a.source = some tag := by
            rw [stands.source]
            exact Document.tag?_eq after rfl
          rw [SourceFile.optsIn, tagged]
          exact unsplit
      · exact part (fun m among => Forest.mem_preorder_tree.2 (.inr among)) (ih n member)
  | @split place node new below F old tag attributes id inner a b found data stands splits content
      plain isNew after made _ ih =>
      intro n member
      have tagged : u.file.document.tag? a.source = some tag := by
        rw [stands.source]
        exact Document.tag?_eq after rfl
      have tagged' : u.file.document.tag? b.source = some tag := by
        rw [content.source]
        exact Document.tag?_eq made rfl
      have isContent : u.file.Content d id a inner b := by
        refine ⟨?_, stands.content, content.found, stands.children, content.parent,
          AnnotatedNode.exists_kind_of_plain content.element plain, content.source ▸ isNew,
          tagged'.trans tagged.symm, ?_⟩
        · rw [SourceFile.optsIn, tagged]
          exact splits
        · rw [content.source, stands.source]
          exact Document.parent?_eq made
      have among {m : AnnotatedId} (inside : m = id ∨ m = inner ∨ m ∈ F.preorder) :
          m ∈ (Forest.cons id (.cons inner F .nil) .nil).preorder := by
        rwa [Forest.mem_preorder_tree, Forest.mem_preorder_tree]
      rw [Forest.mem_preorder_tree, Forest.mem_preorder_tree] at member
      rcases member with rfl | rfl | member
      · refine ⟨a, stands.found, .host ?_ (among (.inr (.inl rfl))) isContent⟩
        rw [stands.source]
        exact d.lt_size_of_node? found
      · exact ⟨b, content.found, .content (among (.inl rfl)) stands.found isContent⟩
      · exact part (fun m inside => among (.inr (.inr inside))) (ih n member)

end Pass

/-! ## Numbers of annotations -/

namespace SourceFile

/-- An annotation of an element, be it shown or a host. -/
def isElement (file : SourceFile) (id : AnnotatedId) : Bool :=
  (file.annotations.get? id).any (!·.isText)

def isHost (file : SourceFile) (id : AnnotatedId) : Bool :=
  (file.annotations.get? id).any file.optsIn

/-- The element that a host shows. -/
def contentNode? (file : SourceFile) (id : AnnotatedId) : Option NodeId := do
  let a ← file.annotations.get? id
  let inner ← a.content?
  let b ← file.annotations.get? inner
  some b.source

theorem isElement_eq (found : file.annotations.get? id = some a) :
    file.isElement id = !a.isText := by
  rw [isElement, found]
  rfl

theorem isHost_eq (found : file.annotations.get? id = some a) : file.isHost id = file.optsIn a := by
  rw [isHost, found]
  rfl

theorem contentNode?_eq {inner : AnnotatedId} {b : AnnotatedNode}
    (found : file.annotations.get? id = some a) (content : file.Content d id a inner b) :
    file.contentNode? id = some b.source := by
  rw [contentNode?, found]
  change (a.content?.bind _) = _
  rw [content.link]
  change ((file.annotations.get? inner).bind _) = _
  rw [content.found]
  rfl

theorem Content.isElement {inner : AnnotatedId} {b : AnnotatedNode}
    (content : file.Content d id a inner b) : (file.document.tag? b.source).isSome = true := by
  have opts := content.optsIn
  rw [content.tag]
  unfold SourceFile.optsIn at opts
  cases held : file.document.tag? a.source with
  | none =>
      rw [held] at opts
      cases opts
  | some tag => rfl

/-- Of all annotations just the hosts opt in. -/
theorem Role.of_optsIn (role : file.Role d made id a) (opts : file.optsIn a = true) :
    a.source < d.size ∧ ∃ inner ∈ made, ∃ b, file.Content d id a inner b := by
  cases role with
  | text isText silent =>
      rw [optsIn, silent] at opts
      cases opts
  | shown element old whole unlinked => exact nomatch opts.symm.trans whole
  | host old member content => exact ⟨old, _, member, _, content⟩
  | content member found content =>
      obtain ⟨bindings, plain⟩ := content.plain
      have undirected : a.directive? = none := by rw [AnnotatedNode.directive?, plain]
      rw [optsIn, undirected] at opts
      cases held : file.document.tag? a.source <;> rw [held] at opts <;> cases opts

end SourceFile

namespace Pass
variable {s t u : Pass} {place : Place} {f F : Forest}

/-- There are no more annotations of elements than there are elements and hosts. -/
theorem Mirrors.countP_isElement_le (mirrors : Mirrors d u place f F) :
    F.preorder.countP u.file.isElement ≤
      f.preorder.countP (fun n => (d.tag? n).isSome) + F.preorder.countP u.file.isHost := by
  induction mirrors with
  | nil => exact Nat.zero_le _
  | passed => exact Nat.zero_le _
  | append _ _ ihFirst ihLater =>
      simp only [Forest.preorder_append, List.countP_append]
      omega
  | @text place parent node below old contents ids under found isText row same =>
      have none : ∀ id ∈ (Forest.leaves ids).preorder, ¬u.file.isElement id = true := by
        intro id member
        rw [Forest.preorder_leaves] at member
        obtain ⟨a, here, isText⟩ := row.isText member
        rw [SourceFile.isElement_eq here, isText]
        exact Bool.false_ne_true
      rw [List.countP_eq_zero.2 none]
      exact Nat.zero_le _
  | @whole place node below F old tag attributes id a found data stands unsplit after _ ih =>
      have tagged := Document.tag?_eq found data
      simp only [Forest.preorder, List.append_nil, List.countP_cons, tagged, stands.element,
        SourceFile.isElement_eq stands.found]
      simp only [Bool.not_false, if_true, Option.isSome_some]
      omega
  | @split place node new below F old tag attributes id inner a b found data stands splits content
      plain isNew after made _ ih =>
      have tagged := Document.tag?_eq found data
      have tagged' : u.file.document.tag? a.source = some tag := by
        rw [stands.source]
        exact Document.tag?_eq after rfl
      have opts : u.file.optsIn a = true := by
        rw [SourceFile.optsIn, tagged']
        exact splits
      simp only [Forest.preorder, List.append_nil, List.countP_cons, tagged, opts, stands.element,
        content.element, SourceFile.isElement_eq stands.found, SourceFile.isElement_eq content.found,
        SourceFile.isHost_eq stands.found]
      simp only [Bool.not_false, if_true, Option.isSome_some]
      omega

/-! ## What a pass adds -/

/-- The annotations that `t` has and `s` has not, where `s` has become `t`. -/
def newAnnotations (s t : Pass) : List AnnotatedId :=
  List.range' s.annotations.nodes.size (t.annotations.nodes.size - s.annotations.nodes.size)

/-- The elements that have been added to the document. -/
def newElements (s t : Pass) : List NodeId :=
  (List.range' s.document.size (t.document.size - s.document.size)).filter
    fun n => (t.document.tag? n).isSome

theorem mem_newElements (grows : s.document.size ≤ t.document.size) {n : NodeId} :
    n ∈ newElements s t ↔ s.document.size ≤ n ∧ (t.document.tag? n).isSome = true := by
  rw [newElements, List.mem_filter, List.mem_range'_1, Nat.add_sub_cancel' grows]
  refine ⟨fun ⟨inside, element⟩ => ⟨inside.1, element⟩, fun ⟨isNew, element⟩ => ?_⟩
  refine ⟨⟨isNew, ?_⟩, element⟩
  obtain ⟨tag, element⟩ := Option.isSome_iff_exists.1 element
  exact Document.lt_size_of_tag? element

/-- What a pass over a document adds: every annotation has its role, each host has an element of its
own that was made for it, and there are no other new elements. -/
structure DividesOnce (s t : Pass) : Prop where
  roles : ∀ id ∈ newAnnotations s t, ∃ a, t.annotations.get? id = some a ∧
    t.file.Role s.document (newAnnotations s t) id a
  contents : (((newAnnotations s t).filter t.file.isHost).map t.file.contentNode?).Perm
    ((newElements s t).map some)
  bounded : (newAnnotations s t).countP t.file.isElement ≤
    s.document.bodyForest.preorder.countP (fun n => (s.document.tag? n).isSome) +
      (newAnnotations s t).countP t.file.isHost

section Contents
variable (roles : ∀ id ∈ newAnnotations s t, ∃ a, t.annotations.get? id = some a ∧
  t.file.Role s.document (newAnnotations s t) id a)
include roles

theorem exists_content (host : id ∈ (newAnnotations s t).filter t.file.isHost) :
    ∃ a, ∃ inner ∈ newAnnotations s t, ∃ b, t.file.Content s.document id a inner b ∧
      t.file.contentNode? id = some b.source := by
  obtain ⟨member, host⟩ := List.mem_filter.1 host
  obtain ⟨a, found, role⟩ := roles id member
  rw [SourceFile.isHost_eq found] at host
  obtain ⟨-, inner, member', b, content⟩ := role.of_optsIn host
  exact ⟨a, inner, member', b, content, SourceFile.contentNode?_eq found content⟩

variable (sourced : Sourced f s t)
include sourced

/-- A new element has been annotated, and no annotation but that of a content is on a new element. -/
theorem exists_host {n : NodeId} (isNew : s.document.size ≤ n)
    (element : (t.document.tag? n).isSome = true) :
    ∃ id ∈ (newAnnotations s t).filter t.file.isHost, t.file.contentNode? id = some n := by
  obtain ⟨tag, element⟩ := Option.isSome_iff_exists.1 element
  obtain ⟨id, a, late, found, rfl⟩ := sourced.made n isNew (Document.lt_size_of_tag? element)
  have inside := AnnotatedTree.lt_size_of_get? found
  have among : id ∈ newAnnotations s t := by
    rw [newAnnotations, List.mem_range'_1,
      Nat.add_sub_cancel' (Nat.le_of_lt (Nat.lt_of_le_of_lt late inside))]
    exact ⟨late, inside⟩
  obtain ⟨a', found', role⟩ := roles id among
  obtain rfl := Option.some.inj (found.symm.trans found')
  cases role with
  | text isText silent => exact nomatch element.symm.trans silent
  | shown isElement old whole unlinked => exact absurd old (Nat.not_lt_of_ge isNew)
  | host old member content => exact absurd old (Nat.not_lt_of_ge isNew)
  | @content host b member found' content =>
      refine ⟨host, List.mem_filter.2 ⟨member, ?_⟩, SourceFile.contentNode?_eq found' content⟩
      rw [SourceFile.isHost_eq found']
      exact content.optsIn

theorem contents_perm (grows : s.document.size ≤ t.document.size) :
    (((newAnnotations s t).filter t.file.isHost).map t.file.contentNode?).Perm
      ((newElements s t).map some) := by
  have isNew {id : AnnotatedId} (member : id ∈ newAnnotations s t) :
      s.annotations.nodes.size ≤ id := (List.mem_range'_1.1 member).1
  refine (List.perm_ext_iff_of_nodup ?_ ?_).2 fun n => ⟨fun member => ?_, fun member => ?_⟩
  · refine List.Nodup.map_on (fun id host id' host' same => ?_)
      (List.Nodup.filter _ List.nodup_range')
    -- Hosts that show one element have one annotation for it, whose parent they both are.
    obtain ⟨a, inner, member, b, content, shows⟩ := exists_content roles host
    obtain ⟨a', inner', member', b', content', shows'⟩ := exists_content roles host'
    have sources : b.source = b'.source := Option.some.inj (shows.symm.trans (same.trans shows'))
    obtain rfl := sourced.apart inner inner' b b' (isNew member) (isNew member') content.found
      content'.found sources
    obtain rfl := Option.some.inj (content.found.symm.trans content'.found)
    exact Option.some.inj (content.parent.symm.trans content'.parent)
  · exact List.Nodup.map (fun _ _ => Option.some.inj) (List.Nodup.filter _ List.nodup_range')
  · obtain ⟨id, host, rfl⟩ := List.mem_map.1 member
    obtain ⟨a, inner, -, b, content, shows⟩ := exists_content roles host
    rw [shows]
    exact List.mem_map_of_mem ((mem_newElements grows).2 ⟨content.new, content.isElement⟩)
  · obtain ⟨n, isNewElement, rfl⟩ := List.mem_map.1 member
    obtain ⟨isNewNode, element⟩ := (mem_newElements grows).1 isNewElement
    obtain ⟨id, host, shows⟩ := exists_host roles sourced isNewNode element
    exact List.mem_map.2 ⟨id, host, shows⟩

end Contents

theorem divides_annotateFile (keepBlanks : Bool) (closed : s.annotations.Closed)
    (wellFormed : s.document.WellFormed) : DividesOnce s (annotateFile keepBlanks s) := by
  obtain ⟨F, grown, mirrors⟩ := mirrors_of_closed keepBlanks closed wellFormed
  have walkable := walkable_of_closed closed wellFormed
  have visits := visits_annotateFile keepBlanks s
  have sourced := visits.sourced walkable
  obtain ⟨f', covers⟩ := visits.covers walkable.valid walkable.fits
  have numbered := grown.tree.numbered
  have roles := mirrors.role
  have bounded := mirrors.countP_isElement_le
  rw [numbered] at roles bounded
  exact ⟨roles, contents_perm roles sourced covers.reworks.size, bounded⟩

end Pass

/-- The pass over a well-formed document ends, with whatever annotations there are before, although
it puts elements into the document on its way. It comes by no node twice, and it divides every host
once. -/
theorem annotateFile_ends {s : Pass} (keepBlanks : Bool) (wellFormed : s.document.WellFormed)
    (closed : s.annotations.Closed) :
    (∃ seen, (∀ levels, 2 * s.document.bodyForest.depth ≤ levels →
        s.descendBody levels keepBlanks = some (annotateFile keepBlanks s, seen)) ∧
      seen.Nodup ∧
      (seen.filter (· < s.document.size)).Sublist s.document.bodyForest.preorder) ∧
    Pass.DividesOnce s (annotateFile keepBlanks s) := by
  obtain ⟨seen, trail, ends⟩ :=
    Pass.descendBody_eq keepBlanks (walkable_of_closed closed wellFormed) wellFormed
  exact ⟨⟨seen, ends, trail.distinct, trail.ordered⟩,
    Pass.divides_annotateFile keepBlanks closed wellFormed⟩

/-- `<body><div template if="a"><p template if="b">x</p></div></body>`. -/
def nestedConditions : Document where
  nodes := #[
    { data := .document, children := [1] },
    { data := .element "body" {}, parent := some 0, children := [2] },
    { data := .element "div" ⟨[("template", ""), ("if", "a")]⟩, parent := some 1, children := [3] },
    { data := .element "p" ⟨[("template", ""), ("if", "b")]⟩, parent := some 2, children := [4] },
    { data := .text "x", parent := some 3 }]

theorem annotateFile_ends_nestedConditions :
    let s : Pass :=
      { file := { path := ⟨"a.html"⟩, isEntry := true, document := nestedConditions }
        components := {}
        counter := 0 }
    s.document.WellFormed ∧ s.annotations.Closed ∧
      (∃ seen, (∀ levels, 2 * s.document.bodyForest.depth ≤ levels →
          s.descendBody levels true = some (annotateFile true s, seen)) ∧
        seen.Nodup ∧
        (seen.filter (· < s.document.size)).Sublist s.document.bodyForest.preorder) ∧
      Pass.DividesOnce s (annotateFile true s) := by
  intro s
  have checked : nestedConditions.Checked fun n => n := by decide
  have wellFormed : s.document.WellFormed := .of_checked checked
  exact ⟨wellFormed, AnnotatedTree.closed_empty,
    annotateFile_ends true wellFormed AnnotatedTree.closed_empty⟩

end ComponentMarkup
