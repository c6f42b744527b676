import ComponentMarkup.Proofs.Annotated.Texts
import Mathlib.Data.List.Forall2

/-!
The row of annotations that a text turns into, in full: none, one for its own node, or one for each
piece that a bound text is cut into.
-/

namespace ComponentMarkup

namespace Binding.Segments

/-- A literal as it is shown, if anything of it is left. -/
def shownLiteral (keepBlanks : Bool) (text : String) : List (String × Option Expr) :=
  if (shownText keepBlanks text).isEmpty then [] else [(shownText keepBlanks text, none)]

/-- The pieces that a bound text is cut into: literals, and an empty text for each expression. -/
def shown (keepBlanks : Bool) (s : Segments) : List (String × Option Expr) :=
  s.bound.flatMap (fun segment => shownLiteral keepBlanks segment.1 ++ [("", some segment.2)]) ++
    shownLiteral keepBlanks s.tail

end Binding.Segments

/-- The annotation `id` stands for a piece of a text, on a node from `first` on that no other node
holds. -/
def SourceFile.IsPiece (file : SourceFile) (first : NodeId) (parent : AnnotatedId)
    (position : Position) (id : AnnotatedId) (piece : String × Option Binding.Expr) : Prop :=
  ∃ a, file.annotations.get? id = some a ∧ a.parent = some parent ∧ a.kind = .text piece.2 ∧
    a.children = [] ∧ first ≤ a.source ∧
    file.document.node? a.source = some { data := .text piece.1, position }

namespace Pass

/-- `t` is `s` with the pieces behind the children of `parent`. -/
structure Adds (parent : AnnotatedId) (position : Position)
    (pieces : List (String × Option Binding.Expr)) (s t : Pass) : Prop where
  size : t.annotations.nodes.size = s.annotations.nodes.size + pieces.length
  nodes : t.document.size = s.document.size + pieces.length
  old : ∀ n < s.document.size, t.document.node? n = s.document.node? n
  elsewhere : ∀ id < s.annotations.nodes.size, id ≠ parent →
    t.annotations.get? id = s.annotations.get? id
  children : t.annotations.children parent = s.annotations.children parent ++
    List.range' s.annotations.nodes.size pieces.length
  row : List.Forall₂ (t.file.IsPiece s.document.size parent position)
    (List.range' s.annotations.nodes.size pieces.length) pieces
  source : ∀ id a, s.annotations.nodes.size ≤ id → t.annotations.get? id = some a →
    a.source = s.document.size + (id - s.annotations.nodes.size)

variable {s t u : Pass} {parent id : AnnotatedId} {position : Position} {node first : NodeId}
  {keepBlanks : Bool} {piece : String × Option Binding.Expr}
  {pieces pieces' : List (String × Option Binding.Expr)} {ids : List AnnotatedId}

theorem isPiece_mono {first' : NodeId} (holds : t.file.IsPiece first parent position id piece)
    (fewer : first' ≤ first)
    (tree : u.annotations.get? id = t.annotations.get? id)
    (document : ∀ n, first ≤ n → n < t.document.size → u.document.node? n = t.document.node? n) :
    u.file.IsPiece first' parent position id piece := by
  obtain ⟨a, found, under, kind, leaf, new, node⟩ := holds
  refine ⟨a, tree.trans found, under, kind, leaf, Nat.le_trans fewer new, ?_⟩
  exact (document a.source new (t.document.lt_size_of_node? node)).trans node

theorem forall₂_isPiece_mono {first' : NodeId}
    (row : List.Forall₂ (t.file.IsPiece first parent position) ids pieces) (fewer : first' ≤ first)
    (tree : ∀ id ∈ ids, u.annotations.get? id = t.annotations.get? id)
    (document : ∀ n, first ≤ n → n < t.document.size → u.document.node? n = t.document.node? n) :
    List.Forall₂ (u.file.IsPiece first' parent position) ids pieces := by
  induction row with
  | nil => exact .nil
  | cons holds _ ih =>
      exact .cons (isPiece_mono holds fewer (tree _ List.mem_cons_self) document)
        (ih fun id member => tree id (List.mem_cons_of_mem _ member))

theorem exists_isPiece_of_mem {file : SourceFile}
    (row : List.Forall₂ (file.IsPiece first parent position) ids pieces) (member : id ∈ ids) :
    ∃ piece ∈ pieces, file.IsPiece first parent position id piece := by
  induction row with
  | nil => cases member
  | cons holds _ ih =>
      rcases List.mem_cons.1 member with rfl | member
      · exact ⟨_, List.mem_cons_self, holds⟩
      · obtain ⟨piece, among, isPiece⟩ := ih member
        exact ⟨piece, List.mem_cons_of_mem _ among, isPiece⟩

namespace Adds

theorem nil (parent : AnnotatedId) (position : Position) (s : Pass) : Adds parent position [] s s where
  size := rfl
  nodes := rfl
  old _ _ := rfl
  elsewhere _ _ _ := rfl
  children := (List.append_nil _).symm
  row := .nil
  source _ _ isNew found := absurd (AnnotatedTree.lt_size_of_get? found) (Nat.not_lt_of_ge isNew)

theorem trans (first : Adds parent position pieces s t) (second : Adds parent position pieces' t u)
    (inside : parent < s.annotations.nodes.size) :
    Adds parent position (pieces ++ pieces') s u := by
  have split : List.range' s.annotations.nodes.size (pieces ++ pieces').length =
      List.range' s.annotations.nodes.size pieces.length ++
        List.range' t.annotations.nodes.size pieces'.length := by
    rw [List.length_append, first.size, List.range'_append_1]
  refine ⟨?_, ?_, fun n old => ?_, fun id old other => ?_, ?_, ?_, fun id a isNew found => ?_⟩
  · rw [second.size, first.size, List.length_append, Nat.add_assoc]
  · rw [second.nodes, first.nodes, List.length_append, Nat.add_assoc]
  · have early : n < t.document.size := by
      rw [first.nodes]
      exact Nat.lt_add_right _ old
    rw [second.old n early, first.old n old]
  · have early : id < t.annotations.nodes.size := by
      rw [first.size]
      exact Nat.lt_add_right _ old
    rw [second.elsewhere id early other, first.elsewhere id old other]
  · rw [second.children, first.children, split, List.append_assoc]
  · rw [split]
    refine List.rel_append (forall₂_isPiece_mono first.row (Nat.le_refl _) (fun id member => ?_)
      fun n _ early => second.old n early) (forall₂_isPiece_mono second.row ?_ (fun _ _ => rfl)
      fun _ _ _ => rfl)
    · obtain ⟨isNew, early⟩ := List.mem_range'_1.1 member
      refine second.elsewhere id (by rwa [first.size]) ?_
      exact fun same => Nat.not_lt_of_ge isNew (same ▸ inside)
    · rw [first.nodes]
      exact Nat.le_add_right _ _
  · rcases Nat.lt_or_ge id t.annotations.nodes.size with early | late
    · rw [second.elsewhere id early fun same => Nat.not_lt_of_ge isNew (same ▸ inside)] at found
      exact first.source id a isNew found
    · have early : s.annotations.nodes.size + pieces.length ≤ id := first.size ▸ late
      rw [second.source id a late found, first.nodes, first.size, Nat.add_assoc,
        ← Nat.sub_sub, Nat.add_sub_cancel' (Nat.le_sub_of_add_le' early)]

/-- A piece on a new text, whose annotation is made and perhaps labelled. -/
theorem single (inside : parent < s.annotations.nodes.size) (contents : String)
    (binding : Option Binding.Expr) (label : AnnotatedNode → AnnotatedNode)
    (labels : ∀ a, (label a).source = a.source ∧ (label a).parent = a.parent ∧
      (label a).kind = a.kind ∧ (label a).children = a.children)
    (document : t.document = (s.document.createText contents position).2)
    (tree : t.annotations = ((s.annotations.add s.document.size (some parent) (.text binding)).2.update
      s.annotations.nodes.size label)) :
    Adds parent position [(contents, binding)] s t := by
  have valid : ∀ q ∈ some parent, q < s.annotations.nodes.size := fun q isParent =>
    Option.some.inj isParent ▸ inside
  have made := s.annotations.get?_add_self s.document.size (some parent) (.text binding) valid
  have here : t.annotations.get? s.annotations.nodes.size =
      some (label { source := s.document.size, parent := some parent, kind := .text binding }) := by
    rw [tree]
    exact AnnotatedTree.get?_update_self _ label made
  have older (n : AnnotatedId) (old : n < s.annotations.nodes.size) :
      t.annotations.get? n =
        (s.annotations.add s.document.size (some parent) (.text binding)).2.get? n := by
    rw [tree]
    exact AnnotatedTree.get?_update_of_ne _ label (Nat.ne_of_lt old)
  have size : t.annotations.nodes.size = s.annotations.nodes.size + 1 := by
    rw [tree, AnnotatedTree.size_update, AnnotatedTree.size_add]
  refine ⟨size, ?_, fun n old => ?_, fun n old other => ?_, ?_, ?_, fun n a isNew found => ?_⟩
  · rw [document]
    exact s.document.size_add _ _
  · rw [document]
    exact s.document.node?_add_of_lt _ _ old
  · obtain ⟨a, found⟩ := AnnotatedTree.get?_isSome old
    rw [older n old, AnnotatedTree.get?_add_of_lt _ _ _ _ found, found,
      if_neg fun same => other (Option.some.inj same).symm]
  · obtain ⟨a, found⟩ := AnnotatedTree.get?_isSome inside
    have after := older parent inside
    rw [AnnotatedTree.get?_add_of_lt _ _ _ _ found, if_pos rfl] at after
    rw [AnnotatedTree.children_eq after, AnnotatedTree.children_eq found]
    rfl
  · obtain ⟨source, under, kind, leaf⟩ := labels
      { source := s.document.size, parent := some parent, kind := .text binding }
    refine .cons ⟨_, here, under, kind, leaf, Nat.le_of_eq source.symm, ?_⟩ .nil
    rw [source]
    change t.document.node? s.document.size = _
    rw [document]
    exact (s.document.node?_add _ _ _).trans (if_pos rfl)
  · have last := AnnotatedTree.lt_size_of_get? found
    rw [size] at last
    obtain rfl := Nat.le_antisymm isNew (Nat.le_of_lt_succ last)
    obtain rfl := Option.some.inj (here.symm.trans found)
    rw [Nat.sub_self]
    exact (labels _).1

theorem addLiteral (inside : parent < s.annotations.nodes.size) (text : String) :
    Adds parent position (Binding.Segments.shownLiteral keepBlanks text) s
      (s.addLiteral parent keepBlanks position text) := by
  unfold Pass.addLiteral Binding.Segments.shownLiteral
  dsimp only
  split
  · exact .nil parent position s
  · refine .single inside _ none id (fun _ => ⟨rfl, rfl, rfl, rfl⟩) rfl ?_
    rw [AnnotatedTree.update, modify_id]
    rfl

theorem addPlaceholder (inside : parent < s.annotations.nodes.size) (expr : Binding.Expr) :
    Adds parent position [("", some expr)] s (s.addPlaceholder parent position expr) :=
  .single inside "" (some expr)
    (fun a => { a with identifier := some (textIdentifier s.counter) })
    (fun _ => ⟨rfl, rfl, rfl, rfl⟩) rfl (s.annotations_addPlaceholder parent position expr)

theorem splitText (inside : parent < s.annotations.nodes.size) (segments : Binding.Segments) :
    Adds parent position (segments.shown keepBlanks) s
      (s.splitText parent keepBlanks position segments) := by
  have all (bound : List (String × Binding.Expr)) (s : Pass)
      (inside : parent < s.annotations.nodes.size) :
      Adds parent position (bound.flatMap fun segment =>
          Binding.Segments.shownLiteral keepBlanks segment.1 ++ [("", some segment.2)]) s
        (bound.foldl (fun s segment =>
          (s.addLiteral parent keepBlanks position segment.1).addPlaceholder parent position
            segment.2) s) := by
    induction bound generalizing s with
    | nil => exact .nil parent position s
    | cons segment bound ih =>
        have literal : Adds parent position (Binding.Segments.shownLiteral keepBlanks segment.1) s
            (s.addLiteral parent keepBlanks position segment.1) := addLiteral inside segment.1
        have later : parent < (s.addLiteral parent keepBlanks position segment.1).annotations.nodes.size :=
          literal.size ▸ Nat.lt_add_right _ inside
        have placed := literal.trans (addPlaceholder later segment.2) inside
        refine placed.trans (ih _ ?_) inside
        exact placed.size ▸ Nat.lt_add_right _ inside
  have bound := all segments.bound s inside
  exact bound.trans (addLiteral (bound.size ▸ Nat.lt_add_right _ inside) segments.tail) inside

end Adds

/-! ## Texts as a whole -/

/-- What the text `text` on `node`, as it stood before, has become below the annotation `parent`. -/
inductive TextRow (u : Pass) (first : NodeId) (parent : AnnotatedId) (keepBlanks : Bool)
    (node : NodeId) (old : Node) (text : String) : List AnnotatedId → Prop
  | hidden (unbound : Binding.hasBinding text = false) (nothing : shownText keepBlanks text = "")
      (after : u.document.node? node = some { old with data := .text "" }) :
      TextRow u first parent keepBlanks node old text []
  | own {id : AnnotatedId} {a : AnnotatedNode} (unbound : Binding.hasBinding text = false)
      (something : shownText keepBlanks text ≠ "")
      (after : u.document.node? node =
        some { old with data := .text (shownText keepBlanks text) })
      (found : u.annotations.get? id = some a) (source : a.source = node)
      (under : a.parent = some parent) (kind : a.kind = .text none) (leaf : a.children = []) :
      TextRow u first parent keepBlanks node old text [id]
  | cut {ids : List AnnotatedId} (bound : Binding.hasBinding text = true)
      (after : u.document.node? node = some old)
      (pieces : List.Forall₂ (u.file.IsPiece first parent old.position) ids
        ((Binding.scan text).shown keepBlanks)) :
      TextRow u first parent keepBlanks node old text ids

theorem TextRow.isText {old : Node} {text : String}
    (row : TextRow u first parent keepBlanks node old text ids) (member : id ∈ ids) :
    ∃ a, u.annotations.get? id = some a ∧ a.isText = true := by
  cases row with
  | hidden => cases member
  | own unbound something after found source under kind =>
      obtain rfl := List.mem_singleton.1 member
      exact ⟨_, found, by rw [AnnotatedNode.isText, kind]⟩
  | cut bound after pieces =>
      obtain ⟨piece, -, a, found, -, kind, -⟩ := exists_isPiece_of_mem pieces member
      exact ⟨a, found, by rw [AnnotatedNode.isText, kind]⟩

theorem TextRow.mono {first' : NodeId} {old : Node} {text : String}
    (row : TextRow t first parent keepBlanks node old text ids) (fewer : first' ≤ first)
    (same : u.document.node? node = t.document.node? node)
    (tree : ∀ id ∈ ids, u.annotations.get? id = t.annotations.get? id)
    (document : ∀ n, first ≤ n → n < t.document.size → u.document.node? n = t.document.node? n) :
    TextRow u first' parent keepBlanks node old text ids := by
  cases row with
  | hidden unbound nothing after => exact .hidden unbound nothing (same.trans after)
  | own unbound something after found source under kind leaf =>
      exact .own unbound something (same.trans after)
        ((tree _ List.mem_cons_self).trans found) source under kind leaf
  | cut bound after pieces =>
      exact .cut bound (same.trans after) (forall₂_isPiece_mono pieces fewer tree document)

theorem node?_setText {d : Document} {old : Node} {text : String}
    (found : d.node? node = some old) (isText : old.data = .text text) (contents : String) :
    (d.setText node contents).node? node = some { old with data := .text contents } := by
  rw [Document.setText, Document.node?_update, if_pos rfl, found, Option.map_some]
  simp only [isText]

/-- A bound text is cut when the annotation above it has taken over its children. -/
theorem adds_visitText {around : Surroundings} {text : String} (under : around.parent = some parent)
    (inside : parent < s.annotations.nodes.size) (bound : Binding.hasBinding text = true) :
    Adds parent (s.document.position node) ((Binding.scan text).shown around.keepBlanks)
      (s.takeOverChildren parent) (s.visitText around node text) := by
  have some : (Binding.scan text).bound.isEmpty = false := by
    rw [Binding.isEmpty_bound_scan, bound]
    rfl
  have whole : s.visitText around node text = (s.takeOverChildren parent).splitText parent
      around.keepBlanks (s.document.position node) (Binding.scan text) := by
    rw [visitText, under]
    exact if_neg (by rw [some]; exact Bool.false_ne_true)
  rw [whole]
  refine .splitText ?_ (Binding.scan text)
  rwa [takeOverChildren, annotations_update, AnnotatedTree.size_update]

/-- Visiting a text below `parent` hangs its row behind the children of `parent`. -/
theorem textRow_visitText {around : Surroundings} {old : Node} {text : String}
    (under : around.parent = some parent) (inside : parent < s.annotations.nodes.size)
    (found : s.document.node? node = some old) (isText : old.data = .text text) :
    ∃ ids, TextRow (s.visitText around node text) s.document.size parent around.keepBlanks node old
        text ids ∧
      ids = List.range' s.annotations.nodes.size
        ((s.visitText around node text).annotations.nodes.size - s.annotations.nodes.size) ∧
      (s.visitText around node text).annotations.children parent =
        s.annotations.children parent ++ ids := by
  cases bound : Binding.hasBinding text with
  | true =>
      have position : s.document.position node = old.position := by
        rw [Document.position, found]
      have size : (s.takeOverChildren parent).annotations.nodes.size = s.annotations.nodes.size := by
        rw [takeOverChildren, annotations_update, AnnotatedTree.size_update]
      have taken : (s.takeOverChildren parent).annotations.children parent =
          s.annotations.children parent := by
        obtain ⟨a, here⟩ := AnnotatedTree.get?_isSome inside
        rw [takeOverChildren, annotations_update,
          AnnotatedTree.children_eq (AnnotatedTree.get?_update_self _ _ here),
          AnnotatedTree.children_eq here]
      have adds : Adds parent (s.document.position node) ((Binding.scan text).shown around.keepBlanks)
          (s.takeOverChildren parent) (s.visitText around node text) :=
        adds_visitText under inside bound
      rw [position] at adds
      have grown := adds.size
      rw [size] at grown
      refine ⟨_, .cut bound ?_ adds.row, ?_, ?_⟩
      · rw [adds.old node (s.document.lt_size_of_node? found)]
        exact found
      · rw [size, grown, Nat.add_sub_cancel_left]
      · rw [adds.children, taken]
  | false =>
      have whole : s.visitText around node text = s.showText node parent around.keepBlanks text := by
        rw [visitText, under]
        exact if_pos ((Binding.isEmpty_bound_scan text).trans (by rw [bound]; rfl))
      have written : ∃ m : Pass, m.annotations = s.annotations ∧ m.document.node? node =
          some { old with data := .text (shownText around.keepBlanks text) } ∧
          s.showText node parent around.keepBlanks text =
            if (shownText around.keepBlanks text).isEmpty then m
            else (m.annotate node (some parent) (.text none)).2 := by
        unfold showText
        dsimp only
        by_cases same : (shownText around.keepBlanks text == text) = true
        · refine ⟨s, rfl, ?_, by rw [if_pos same]⟩
          rw [eq_of_beq same, found, ← isText]
        · refine ⟨s.mapDocument (·.setText node (shownText around.keepBlanks text)), rfl, ?_,
            by rw [if_neg same]⟩
          exact node?_setText found isText _
      obtain ⟨m, tree, after, shown⟩ := written
      rw [whole, shown]
      by_cases nothing : (shownText around.keepBlanks text).isEmpty = true
      · have empty : shownText around.keepBlanks text = "" := by simpa using nothing
        rw [if_pos nothing]
        rw [empty] at after
        refine ⟨[], .hidden bound empty after, ?_, ?_⟩
        · rw [tree, Nat.sub_self]
          rfl
        · rw [tree, List.append_nil]
      · have something : shownText around.keepBlanks text ≠ "" := by simpa using nothing
        rw [if_neg nothing]
        have valid : ∀ q ∈ some parent, q < m.annotations.nodes.size := fun q isParent =>
          Option.some.inj isParent ▸ tree ▸ inside
        obtain ⟨a, here⟩ := AnnotatedTree.get?_isSome inside
        have here' : m.annotations.get? parent = some a := by rw [tree, here]
        have grown := AnnotatedTree.get?_add_of_lt m.annotations node (some parent) (.text none) here'
        rw [if_pos rfl] at grown
        refine ⟨[m.annotations.nodes.size], .own bound something after
          (m.annotations.get?_add_self node (some parent) (.text none) valid) rfl rfl rfl rfl, ?_, ?_⟩
        · rw [annotations_annotate, AnnotatedTree.size_add, tree, Nat.add_sub_cancel_left]
          rfl
        · rw [annotations_annotate, AnnotatedTree.children_eq grown,
            AnnotatedTree.children_eq here]

end Pass
end ComponentMarkup
