import ComponentMarkup.Proofs.Annotated.Frame
import ComponentMarkup.Proofs.Binding.Segments
import Mathlib.Algebra.GroupWithZero.Nat
import Mathlib.Data.List.Pairwise

/-!
What each text of a document has become among the annotations: a row of literals and placeholders
below the annotation of the node that holds the text, cut under the mode that is in effect there.
-/

namespace ComponentMarkup

namespace Binding

/-- A piece of a text as it stood in the text: a literal as it is, an expression in its markers. -/
def pieceSource : String × Option Expr → String
  | (literal, none) => literal
  | (_, some expr) => String.ofList expr.source

theorem join_shownLiteral (literal : String) :
    String.join ((Segments.shownLiteral true literal).map pieceSource) = literal := by
  unfold Segments.shownLiteral shownText
  rw [if_pos rfl]
  split
  · next empty => exact (String.isEmpty_iff.1 empty).symm
  · simp [pieceSource]

/-- Where blanks are kept, the pieces of a text put together again are the text. -/
theorem join_shown_scan (text : String) :
    String.join (((scan text).shown true).map pieceSource) = text := by
  have joined (bound : List (String × Expr)) (tail : String) :
      String.join (((⟨bound, tail⟩ : Segments).shown true).map pieceSource) =
        interleave (bound.map Prod.fst ++ [tail])
          ((bound.map Prod.snd).map fun expr => String.ofList expr.source) := by
    induction bound with
    | nil => exact join_shownLiteral tail
    | cons segment bound ih =>
        rw [Segments.shown] at ih ⊢
        rw [List.flatMap_cons, List.append_assoc, List.map_append, String.join_append, ih,
          List.map_append, String.join_append, join_shownLiteral]
        simp [interleave, pieceSource]
  exact (joined (scan text).bound (scan text).tail).trans (interleave_scan text)

/-- A text without bindings is one literal. -/
theorem shown_scan_of_unbound (keepBlanks : Bool) {text : String}
    (unbound : hasBinding text = false) :
    (scan text).shown keepBlanks = Segments.shownLiteral keepBlanks text := by
  have empty : (scan text).bound = [] := by
    have none := isEmpty_bound_scan text
    rw [unbound] at none
    exact List.isEmpty_iff.1 none
  have tail : (scan text).tail = text := by
    have whole := interleave_scan text
    rw [Segments.texts, Segments.exprs, empty] at whole
    exact whole
  rw [Segments.shown, empty, tail]
  rfl

end Binding

namespace SourceFile

/-- The annotation `id` shows a piece of a text below `parent`: a literal, or the place of an
expression under a number that was drawn for it. -/
def ShowsPiece (file : SourceFile) (parent id : AnnotatedId)
    (piece : String × Option Binding.Expr) : Prop :=
  ∃ a, file.annotations.get? id = some a ∧ a.parent = some parent ∧ a.kind = .text piece.2 ∧
    file.document.text? a.source = some piece.1 ∧
    match piece.2 with
    | none => a.identifier = none
    | some _ => ∃ n ∈ file.numbers, a.identifier = some (textIdentifier n)

/-- What an annotation stands for in the text it was cut from. -/
def textSource (file : SourceFile) (id : AnnotatedId) : String :=
  match file.annotations.get? id with
  | none => ""
  | some a =>
      match a.kind with
      | .text (some expr) => String.ofList expr.source
      | _ => (file.document.text? a.source).getD ""

/-- What the child `child` contributes to the annotation `parent`, in whose document it was before:
a text its pieces, and another node no text. -/
structure Contributes (before : Document) (file : SourceFile) (parent : AnnotatedId)
    (keepBlanks : Bool) (child : NodeId) (row : List AnnotatedId) : Prop where
  pieces : ∀ text, before.text? child = some text →
    List.Forall₂ (file.ShowsPiece parent) row ((Binding.scan text).shown keepBlanks)
  unbound : ∀ text, before.text? child = some text → Binding.hasBinding text = false →
    ∀ id ∈ row, ∃ a, file.annotations.get? id = some a ∧ a.source = child
  whole : keepBlanks = true → ∀ text, before.text? child = some text →
    String.join (row.map file.textSource) = text
  other : before.text? child = none →
    ∀ id ∈ row, ∃ a, file.annotations.get? id = some a ∧ a.isText = false

/-- Below every annotation stand the contributions of the children of its node. Those are the
children the node had before, or those of the host it was split off. -/
structure CutsTexts (before : Document) (keepBlanks : Bool) (file : SourceFile) : Prop where
  rows : ∀ id a, file.annotations.get? id = some a → a.isText = false →
    ∃ rows, a.children = rows.flatten ∧
      List.Forall₂ (file.Contributes before id
        (file.annotations.keepsBlanks before keepBlanks (some id)))
        (file.document.children a.source) rows
  whole : ∀ id a, file.annotations.get? id = some a → a.isText = false → a.content? = none →
    a.source < before.size → file.document.children a.source = before.children a.source
  split : ∀ id a inner, file.annotations.get? id = some a → a.content? = some inner →
    ∃ b, file.annotations.get? inner = some b ∧ b.parent = some id ∧ a.children = [inner] ∧
      file.document.children b.source = before.children a.source
  fresh : file.numbers.length < 2 ^ 64 → ∀ id id' a a' n, file.annotations.get? id = some a →
    file.annotations.get? id' = some a' → a.identifier = some (textIdentifier n) →
      a'.identifier.bind identifierNumber? = some n → id' = id

theorem textSource_of_showsPiece {file : SourceFile} {parent id : AnnotatedId}
    {piece : String × Option Binding.Expr} (shows : file.ShowsPiece parent id piece) :
    file.textSource id = Binding.pieceSource piece := by
  obtain ⟨literal, expr⟩ := piece
  obtain ⟨a, found, -, kind, contents, -⟩ := shows
  rw [textSource, found]
  dsimp only at kind contents ⊢
  rw [kind, contents]
  cases expr <;> rfl

/-- A row of pieces that kept their blanks is the text they were cut from. -/
theorem join_textSource {file : SourceFile} {parent : AnnotatedId} {row : List AnnotatedId}
    {text : String}
    (pieces : List.Forall₂ (file.ShowsPiece parent) row ((Binding.scan text).shown true)) :
    String.join (row.map file.textSource) = text := by
  have same : row.map file.textSource =
      ((Binding.scan text).shown true).map Binding.pieceSource := by
    generalize (Binding.scan text).shown true = shown at pieces
    induction pieces with
    | nil => rfl
    | cons shows _ ih => rw [List.map_cons, List.map_cons, textSource_of_showsPiece shows, ih]
  rw [same, Binding.join_shown_scan]

end SourceFile

namespace Pass
variable {d : Document} {u : Pass} {place : Place} {f F : Forest} {id p : AnnotatedId}
  {a : AnnotatedNode} {node : NodeId} {text : String} {row : List AnnotatedId} {byDefault : Bool}

/-- Every annotation is labelled and is counted where its number is read. -/
def Listed (u : Pass) : Prop :=
  ∀ id a, u.annotations.get? id = some a → id ∈ u.annotations.forest.postorder ∧ a.Labelled

theorem showsPiece_of_listed (listed : u.Listed) (found : u.annotations.get? id = some a)
    (under : a.parent = some p) {piece : String × Option Binding.Expr} (kind : a.kind = .text piece.2)
    (contents : u.document.text? a.source = some piece.1) : u.file.ShowsPiece p id piece := by
  refine ⟨a, found, under, kind, contents, ?_⟩
  obtain ⟨counted, labelled⟩ := listed id a found
  unfold AnnotatedNode.Labelled AnnotatedNode.isText AnnotatedNode.isPlaceholder at labelled
  rw [kind] at labelled
  cases shape : piece.2 with
  | none =>
      cases identifier : a.identifier with
      | none => rfl
      | some other =>
          rw [identifier, shape] at labelled
          cases labelled.2.1
  | some expr =>
      cases identifier : a.identifier with
      | none =>
          rw [identifier, shape] at labelled
          cases labelled.2
      | some other =>
          rw [identifier] at labelled
          obtain ⟨-, -, n, rfl⟩ := labelled
          refine ⟨n, List.mem_filterMap.2 ⟨id, counted, ?_⟩, rfl⟩
          have number := AnnotatedTree.number?_eq found
          rw [identifier, Option.bind_some, identifierNumber?_textIdentifier] at number
          exact number

/-- A text on its own node, or cut into pieces, contributes what its scan says. -/
theorem contributes_of_textRow {keepBlanks : Bool} {old : Node} (listed : u.Listed)
    (found : d.node? node = some old) (isText : old.data = .text text) {holder : Option NodeId}
    (textRow : TextRow u d.size p keepBlanks node { old with parent := holder } text row) :
    u.file.Contributes d p keepBlanks node row := by
  have shown : d.text? node = some text := by
    rw [Document.text?, Document.data?_eq found, isText]
  have pieces : List.Forall₂ (u.file.ShowsPiece p) row ((Binding.scan text).shown keepBlanks) := by
    cases textRow with
    | hidden unbound nothing after =>
        rw [Binding.shown_scan_of_unbound keepBlanks unbound, Binding.Segments.shownLiteral, nothing]
        exact .nil
    | @own id a unbound something after here source under kind leaf =>
        rw [Binding.shown_scan_of_unbound keepBlanks unbound, Binding.Segments.shownLiteral,
          if_neg (by rwa [String.isEmpty_iff])]
        refine .cons (showsPiece_of_listed listed here under kind ?_) .nil
        rw [source, Document.text?, Document.data?_eq after]
    | cut bound after pieces =>
        refine pieces.imp fun id piece isPiece => ?_
        obtain ⟨a, here, under, kind, -, -, made⟩ := isPiece
        refine showsPiece_of_listed listed here under kind ?_
        have data : u.document.data? a.source = some (.text piece.1) := Document.data?_eq made
        rw [Document.text?, data]
  refine ⟨fun other isOther => ?_, fun other isOther unbound id member => ?_,
    fun kept other isOther => ?_, fun silent => ?_⟩
  · obtain rfl := Option.some.inj (shown.symm.trans isOther)
    exact pieces
  · obtain rfl := Option.some.inj (shown.symm.trans isOther)
    cases textRow with
    | hidden => cases member
    | own _ _ _ here source =>
        obtain rfl := List.mem_singleton.1 member
        exact ⟨_, here, source⟩
    | cut bound =>
        rw [unbound] at bound
        cases bound
  · obtain rfl := Option.some.inj (shown.symm.trans isOther)
    subst kept
    exact SourceFile.join_textSource pieces
  · rw [shown] at silent
    cases silent

theorem contributes_of_silent {keepBlanks : Bool} (silent : d.text? node = none)
    (elements : ∀ id ∈ row, ∃ a, u.annotations.get? id = some a ∧ a.isText = false) :
    u.file.Contributes d p keepBlanks node row := by
  have impossible {text : String} (shown : d.text? node = some text) : False := by
    rw [silent] at shown
    cases shown
  exact ⟨fun _ shown => (impossible shown).elim, fun _ shown => (impossible shown).elim,
    fun _ _ shown => (impossible shown).elim, fun _ => elements⟩

namespace Mirrors

/-- The annotations on top are the contributions of the nodes on top. -/
theorem contributions (mirrors : Mirrors d u place f F) (listed : u.Listed)
    (under : place.parent = some p) : ∃ rows, F.tops = rows.flatten ∧
      List.Forall₂ (u.file.Contributes d p place.keepBlanks) f.tops rows := by
  induction mirrors with
  | nil => exact ⟨[], rfl, .nil⟩
  | append _ _ ihFirst ihLater =>
      obtain ⟨rows, flat, aligned⟩ := ihFirst under
      obtain ⟨rows', flat', aligned'⟩ := ihLater under
      refine ⟨rows ++ rows', ?_, ?_⟩
      · rw [Forest.tops_append, flat, flat', List.flatten_append]
      · rw [Forest.tops_append]
        exact List.rel_append aligned aligned'
  | passed silent left same =>
      refine ⟨[[]], rfl, .cons (contributes_of_silent silent ?_) .nil⟩
      exact fun id impossible => nomatch impossible
  | @text place parent node below old contents ids above found isText textRow same =>
      obtain rfl : parent = p := Option.some.inj (above.symm.trans under)
      refine ⟨[ids], ?_, .cons (contributes_of_textRow listed found isText textRow) .nil⟩
      rw [Forest.tops_leaves]
      exact (List.append_nil ids).symm
  | @whole place node below F old tag attributes id a found element stands _ after inside _ =>
      have silent : d.text? node = none := by
        rw [Document.text?, Document.data?_eq found, element]
      refine ⟨[[id]], rfl, .cons (contributes_of_silent silent ?_) .nil⟩
      exact List.forall_mem_singleton.2 ⟨a, stands.found, stands.element⟩
  | @split place node new below F old tag attributes id inner a b found element stands _ content
      plain isNew after made inside _ =>
      have silent : d.text? node = none := by
        rw [Document.text?, Document.data?_eq found, element]
      refine ⟨[[id]], rfl, .cons (contributes_of_silent silent ?_) .nil⟩
      exact List.forall_mem_singleton.2 ⟨a, stands.found, stands.element⟩

/-- What stands below the annotation `id` of `a`, and where the children of its node are. -/
structure Holds (d : Document) (u : Pass) (byDefault : Bool) (id : AnnotatedId)
    (a : AnnotatedNode) : Prop where
  rows : ∃ rows, a.children = rows.flatten ∧ List.Forall₂
    (u.file.Contributes d id (u.annotations.keepsBlanks d byDefault (some id)))
    (u.document.children a.source) rows
  whole : a.content? = none → a.source < d.size →
    u.document.children a.source = d.children a.source
  split : ∀ inner, a.content? = some inner → ∃ b, u.annotations.get? inner = some b ∧
    b.parent = some id ∧ a.children = [inner] ∧ u.document.children b.source = d.children a.source

theorem holds (mirrors : Mirrors d u place f F) (listed : u.Listed)
    (ordered : ∀ id p, u.annotations.parent? id = some p → p < id)
    (follows : f.Follows d.children)
    (mode : u.annotations.keepsBlanks d byDefault place.parent = place.keepBlanks) :
    ∀ id ∈ F.preorder, ∀ a, u.annotations.get? id = some a → a.isText = false →
      Holds d u byDefault id a := by
  induction mirrors with
  | nil => exact fun id impossible => nomatch impossible
  | passed => exact fun id impossible => nomatch impossible
  | append _ _ ihFirst ihLater =>
      intro id member
      rw [Forest.preorder_append, List.mem_append] at member
      exact member.elim (ihFirst follows.left mode id) (ihLater follows.right mode id)
  | text under found isText textRow same =>
      intro id member a here element
      rw [Forest.preorder_leaves] at member
      obtain ⟨b, here', isText'⟩ := textRow.isText member
      obtain rfl := Option.some.inj (here'.symm.trans here)
      rw [isText'] at element
      cases element
  | @whole place node below F old tag attributes id a found element stands _ after inside ih =>
      have here : u.annotations.keepsBlanks d byDefault (some id) =
          d.keepsBlanks node place.keepBlanks := by
        rw [AnnotatedTree.keepsBlanks_eq stands.found stands.element, stands.source, stands.parent,
          mode]
        exact fun p isParent => ordered id p ((AnnotatedTree.parent?_eq stands.found).trans isParent)
      have children : u.document.children node = d.children node :=
        (Document.children_eq after).trans (Document.children_eq found).symm
      intro n member b present isElement
      rw [Forest.mem_preorder_tree] at member
      rcases member with rfl | member
      · obtain rfl := Option.some.inj (stands.found.symm.trans present)
        refine ⟨?_, fun _ _ => stands.source ▸ children, fun inner isContent => ?_⟩
        · obtain ⟨rows, flat, aligned⟩ := inside.contributions listed rfl
          rw [stands.children, stands.source, children, ← follows.1, here]
          exact ⟨rows, flat, aligned⟩
        · rw [stands.content] at isContent
          cases isContent
      · exact ih follows.2.1 here n member b present isElement
  | @split place node new below F old tag attributes id inner a b found element stands _ content
      plain isNew after made inside ih =>
      have outer : u.annotations.keepsBlanks d byDefault (some id) =
          d.keepsBlanks node place.keepBlanks := by
        rw [AnnotatedTree.keepsBlanks_eq stands.found stands.element, stands.source, stands.parent,
          mode]
        exact fun p isParent => ordered id p ((AnnotatedTree.parent?_eq stands.found).trans isParent)
      -- The new element was nowhere before, so the mode below it is that below the host.
      have here : u.annotations.keepsBlanks d byDefault (some inner) =
          d.keepsBlanks node place.keepBlanks := by
        rw [AnnotatedTree.keepsBlanks_eq content.found content.element, content.source,
          content.parent, outer, Document.keepsBlanks, Document.attribute?_eq_none isNew]
        exact fun p isParent =>
          ordered inner p ((AnnotatedTree.parent?_eq content.found).trans isParent)
      have children : u.document.children new = d.children node :=
        (Document.children_eq made).trans (Document.children_eq found).symm
      intro n member c present isElement
      rw [Forest.mem_preorder_tree, Forest.mem_preorder_tree] at member
      rcases member with rfl | rfl | member
      · obtain rfl := Option.some.inj (stands.found.symm.trans present)
        refine ⟨⟨[[inner]], stands.children, ?_⟩, fun whole => ?_, fun other isContent => ?_⟩
        · rw [stands.source, Document.children_eq after]
          refine .cons (contributes_of_silent ?_ ?_) .nil
          · rw [Document.text?, Document.data?, d.node?_eq_none isNew]
            rfl
          · exact List.forall_mem_singleton.2 ⟨b, content.found, content.element⟩
        · rw [stands.content] at whole
          cases whole
        · obtain rfl := Option.some.inj (stands.content.symm.trans isContent)
          refine ⟨b, content.found, content.parent, stands.children, ?_⟩
          rw [content.source, stands.source, children]
      · obtain rfl := Option.some.inj (content.found.symm.trans present)
        refine ⟨?_, fun _ inside => ?_, fun other isContent => ?_⟩
        · obtain ⟨rows, flat, aligned⟩ := inside.contributions listed rfl
          rw [content.children, content.source, children, ← follows.1, here]
          exact ⟨rows, flat, aligned⟩
        · rw [content.source] at inside
          exact absurd inside (Nat.not_lt_of_ge isNew)
        · rw [content.content] at isContent
          cases isContent
      · exact ih follows.2.1 here n member c present isElement

end Mirrors
end Pass

/-- Numbers that are drawn less than once around are different. -/
theorem nodup_drawnFrom (c : UInt64) {count : Nat} (few : count < 2 ^ 64) :
    (drawnFrom c count).Nodup := by
  refine List.Nodup.map_on (fun i member j member' same => ?_) List.nodup_range
  have below := Nat.lt_trans (List.mem_range.1 member) few
  have below' := Nat.lt_trans (List.mem_range.1 member') few
  have same := congrArg UInt64.toNat ((UInt64.add_right_inj c).1 same)
  rwa [UInt64.toNat_ofNat_of_lt' below, UInt64.toNat_ofNat_of_lt' below'] at same

/-- Where the results are different, so is what they come from. -/
theorem eq_of_nodup_filterMap {α β : Type} {f : α → Option β} {l : List α} {a a' : α} {b : β}
    (distinct : (l.filterMap f).Nodup) (member : a ∈ l) (member' : a' ∈ l) (result : f a = some b)
    (result' : f a' = some b) : a' = a := by
  rw [List.Nodup, List.pairwise_filterMap] at distinct
  have symmetric : Std.Symm fun a a' => ∀ b, f a = some b → ∀ b', f a' = some b' → b ≠ b' :=
    ⟨fun _ _ apart b here b' there => (apart b' there b here).symm⟩
  by_contra different
  exact distinct.forall member member' (Ne.symm different) b result b result' rfl

open Pass in
/-- A first pass cuts each text of the document under the mode that is in effect where it stands. -/
theorem cutsTexts_annotateFile (keepBlanks : Bool) {s : Pass} (fresh : s.annotations = {})
    (wellFormed : s.document.WellFormed) :
    (annotateFile keepBlanks s).file.CutsTexts s.document keepBlanks := by
  obtain ⟨F, grown, mirrors⟩ := mirrors_annotateFile keepBlanks fresh wellFormed
  have walkable := walkable_bodyForest fresh wellFormed
  have mirrored := mirrors_file_annotateFile keepBlanks fresh wellFormed
  have listed : (annotateFile keepBlanks s).Listed := fun id a found => by
    obtain ⟨reached, labelled⟩ := labelled_annotateFile keepBlanks fresh found
    exact ⟨(Forest.postorder_perm_preorder _).mem_iff.2 reached, labelled⟩
  obtain ⟨count, -, numbers⟩ := numbers_annotateFile keepBlanks fresh
  have tree := grown.tree
  rw [fresh] at tree
  generalize annotateFile keepBlanks s = t at *
  have all {id : AnnotatedId} {a : AnnotatedNode} (found : t.annotations.get? id = some a) :
      id ∈ F.preorder :=
    tree.mem_preorder.2 ⟨Nat.zero_le id, AnnotatedTree.lt_size_of_get? found⟩
  have holds : ∀ id ∈ F.preorder, ∀ a, t.annotations.get? id = some a → a.isText = false →
      Pass.Mirrors.Holds s.document t keepBlanks id a :=
    mirrors.holds listed mirrored.ordered walkable.fits.follows rfl
  refine ⟨fun id a found element => (holds id (all found) a found element).rows,
    fun id a found element => (holds id (all found) a found element).whole,
    fun id a inner found split => ?_, fun few id id' a a' n found found' here there => ?_⟩
  · have element : a.isText = false := by
      cases a using AnnotatedNode.byKind with
      | text a binding => cases split
      | _ => rfl
    exact (holds id (all found) a found element).split inner split
  · have distinct : t.file.numbers.Nodup := by
      rw [numbers] at few ⊢
      exact nodup_drawnFrom _ (by simpa [drawnFrom] using few)
    refine eq_of_nodup_filterMap distinct (listed id a found).1 (listed id' a' found').1
      (b := n) ?_ ?_
    · rw [AnnotatedTree.number?_eq found, here, Option.bind_some, identifierNumber?_textIdentifier]
    · exact (AnnotatedTree.number?_eq found').trans there

end ComponentMarkup
