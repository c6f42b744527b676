import ComponentMarkup.Proofs.Annotated.Correspondence
import ComponentMarkup.Proofs.Annotated.Counted
import ComponentMarkup.Proofs.Document.Ancestors
import ComponentMarkup.Proofs.Linking.Scope

/-!
What a file and the components that it declares use, told by the document that a pass leaves.
-/

namespace ComponentMarkup

/-! ## What counts for whom -/

namespace SourceFile

/-- The component that the file declares with a node. -/
def declaredBy (file : SourceFile) (t : ComponentTable) (node : NodeId) : Option ComponentId :=
  file.declared.find? fun id => (t.get? id).any (·.element == node)

/-- The component that is declared by a node which is annotated as it is. -/
def opens (file : SourceFile) (t : ComponentTable) (node : NodeId) : Option ComponentId :=
  if file.annotations.nodes.any fun a => a.source == node && a.isPlain then file.declaredBy t node
  else none

/-- The component whose declaration is the nearest one around a node that is annotated as it is. -/
def ownerOf (file : SourceFile) (t : ComponentTable) (node : NodeId) : Option ComponentId :=
  (file.document.ancestors node).findSome? (file.opens t)

/-- What the nodes below the declaration of `owner` are bound to, or those below none, in the order
in which the walk comes by it first. -/
def usesOf (file : SourceFile) (t : ComponentTable) (owner : Option ComponentId) :
    List ComponentId :=
  (file.annotations.walk.filterMap fun id => (file.annotations.get? id).bind fun a =>
    if file.ownerOf t a.source = owner then a.component? else none).eraseDups

/-- What nodes are bound to counts for the declarations they are below, and else for the file. -/
structure CountsUses (file : SourceFile) (t : ComponentTable) : Prop where
  outside : file.used = file.usesOf t none
  inside : ∀ id ∈ file.declared, ∃ c, t.get? id = some c ∧ c.used = file.usesOf t (some id)

theorem declaredBy_congr {t u : ComponentTable} (agrees : t.Agrees u) (file : SourceFile) :
    file.declaredBy u = file.declaredBy t := by
  funext node
  refine congrArg (file.declared.find? ·) (funext fun id => ?_)
  have shown (v : ComponentTable) : (v.get? id).any (·.element == node) =
      ((v.get? id).map Component.declaration).any (·.element == node) := by
    cases v.get? id <;> rfl
  rw [shown, shown, agrees]

theorem CountsUses.congr {t u : ComponentTable} {file : SourceFile} (counts : file.CountsUses t)
    (agrees : t.Agrees u)
    (used : ∀ id ∈ file.declared,
      (u.get? id).map Component.used = (t.get? id).map Component.used) : file.CountsUses u := by
  have usesOf : file.usesOf u = file.usesOf t := by
    unfold SourceFile.usesOf ownerOf opens
    rw [declaredBy_congr agrees]
  refine ⟨usesOf ▸ counts.outside, fun id declared => ?_⟩
  obtain ⟨c, present, uses⟩ := counts.inside id declared
  have same := used id declared
  rw [present, Option.map_some] at same
  obtain ⟨c', present', same⟩ := Option.map_eq_some_iff.1 same
  exact ⟨c', present', usesOf ▸ same.trans uses⟩

end SourceFile

/-! ## Above the body -/

namespace Document
variable {d e : Document} {n q : NodeId}

theorem IsLine.congr {above : List NodeId} (line : d.IsLine n above)
    (same : ∀ q ∈ n :: above, e.parent? q = d.parent? q) : e.IsLine n above := by
  induction above generalizing n with
  | nil =>
      intro p isParent
      rw [same n List.mem_cons_self] at isParent
      exact line p isParent
  | cons parent above ih =>
      refine ⟨(same n List.mem_cons_self).trans line.1, line.2.1, ih line.2.2 fun q member => ?_⟩
      exact same q (List.mem_cons_of_mem _ member)

/-- What is below a node of a forest is in the forest, so that nothing above other nodes is. -/
theorem IsLine.outside {above : List NodeId} {f : Forest} (line : d.IsLine n above)
    (wellFormed : d.WellFormed) (follows : f.Follows d.children) (inside : n < d.size)
    (apart : n ∉ f.preorder) : ∀ a ∈ n :: above, a < d.size ∧ a ∉ f.preorder := by
  induction above generalizing n with
  | nil => exact List.forall_mem_singleton.2 ⟨inside, apart⟩
  | cons parent above ih =>
      have isChild := (wellFormed.linked parent n).2 line.1
      have further : parent ∉ f.preorder := fun member =>
        apart (follows.mem_of_mem_children member isChild)
      exact List.forall_mem_cons.2
        ⟨⟨inside, apart⟩, ih line.2.2 (lt_size_of_mem_children isChild) further⟩

/-- The body is found from the root on, so that the root is in it only if it is the body. -/
theorem WellFormed.body_eq_root (wellFormed : d.WellFormed) (member : root ∈ d.bodyForest.preorder) :
    d.findElement? "body" = some root := by
  obtain ⟨level, leveled⟩ := wellFormed.leveled
  have reached {x y : NodeId} (inside : y ∈ (d.forest x).preorder) :
      ∃ steps, level y = level x + steps ∧ d.above steps y = some x := by
    rw [forest, Forest.forestTo_eq_unfold] at inside
    have based : ∀ id ∈ [x], level id = level x := by simp
    obtain ⟨steps, height, id, isTop, reached⟩ :=
      above_of_mem_unfold wellFormed.linked leveled based inside
    exact ⟨steps, height, (List.mem_singleton.1 isTop) ▸ reached⟩
  unfold bodyForest at member
  cases found : d.findElement? "body" with
  | none =>
      rw [found] at member
      cases member
  | some body =>
      rw [found] at member
      obtain ⟨steps, height, here⟩ := reached member
      obtain ⟨steps', height', -⟩ := reached (List.mem_of_find?_eq_some found)
      obtain rfl : steps = 0 := by omega
      exact here.symm

end Document

/-! ## The line above a node -/

namespace Pass
variable {d : Document} {u : Pass} {place : Place} {f F : Forest} {id : AnnotatedId}
  {a : AnnotatedNode} {node n : NodeId} {parent : Option AnnotatedId}

/-- The line above a node shows the declaration that the tree of annotations shows above `below`. -/
def Shown (u : Pass) (below : Option AnnotatedId) (node : NodeId) : Prop :=
  ∃ above, u.document.IsLine node above ∧
    above.findSome? (u.file.opens u.components) = u.ownerFrom below

theorem Shown.below (shown : u.Shown parent node) (closed : u.annotations.Closed)
    (found : u.annotations.get? id = some a) (under : a.parent = parent)
    (opens : u.file.opens u.components node = u.declaredAt id)
    (top : node = Document.root → parent = none ∧ u.declaredAt id = none)
    (isChild : u.document.parent? n = some node) : u.Shown (some id) n := by
  obtain ⟨above, line, owner⟩ := shown
  have inner := ownerFrom_cons closed id
  rw [AnnotatedTree.parent?_eq found, under] at inner
  by_cases isRoot : node = Document.root
  · obtain ⟨rfl, undeclared⟩ := top isRoot
    refine ⟨[], fun p isParent => ?_, ?_⟩
    · exact (Option.some.inj (isParent.symm.trans isChild)).trans isRoot
    · rw [inner, undeclared]
      rfl
  · refine ⟨node :: above, ⟨isChild, isRoot, line⟩, ?_⟩
    rw [inner, ← owner, ← opens, List.findSome?_cons]
    cases u.file.opens u.components node <;> rfl

theorem Mirrors.shown (mirrors : Mirrors d u place f F) (closed : u.annotations.Closed)
    (opens : ∀ id a, u.annotations.get? id = some a →
      u.file.opens u.components a.source = u.declaredAt id)
    (distinct : f.preorder.Nodup)
    (top : Document.root ∈ f.preorder → Document.root ∈ f.tops ∧ place.parent = none ∧
      u.file.opens u.components Document.root = none)
    (outside : ∀ n, u.document.parent? n = place.holder → u.Shown place.parent n) :
    ∀ id ∈ F.preorder, ∀ a, u.annotations.get? id = some a → a.isText = false →
      u.Shown a.parent a.source := by
  -- The root is at most the node on top of a tree.
  have rootless {node : NodeId} {below : Forest} (fresh : node ∉ below.preorder)
      (isTop : Document.root ∈ (Forest.cons node below .nil).preorder →
        Document.root ∈ (Forest.cons node below .nil).tops) :
      Document.root ∉ below.preorder := by
    intro member
    have same := List.mem_singleton.1 (isTop (Forest.mem_preorder_tree.2 (.inr member)))
    exact fresh (same ▸ member)
  induction mirrors with
  | nil => exact fun id impossible => nomatch impossible
  | passed => exact fun id impossible => nomatch impossible
  | @append place f g F G _ _ ihFirst ihLater =>
      rw [Forest.preorder_append] at distinct top
      rw [Forest.tops_append] at top
      obtain ⟨distinctFirst, distinctLater, apart⟩ := List.nodup_append.1 distinct
      intro id member
      rw [Forest.preorder_append, List.mem_append] at member
      rcases member with member | member
      · refine ihFirst distinctFirst (fun inside => ?_) outside id member
        obtain ⟨isTop, rest⟩ := top (List.mem_append_left _ inside)
        refine ⟨(List.mem_append.1 isTop).resolve_right fun later => ?_, rest⟩
        exact apart _ inside _ (Forest.mem_preorder_of_mem_tops later) rfl
      · refine ihLater distinctLater (fun inside => ?_) outside id member
        obtain ⟨isTop, rest⟩ := top (List.mem_append_right _ inside)
        refine ⟨(List.mem_append.1 isTop).resolve_left fun first => ?_, rest⟩
        exact apart _ (Forest.mem_preorder_of_mem_tops first) _ inside rfl
  | text under found isText textRow same =>
      intro id member a here element
      rw [Forest.preorder_leaves] at member
      obtain ⟨b, here', isText'⟩ := textRow.isText member
      obtain rfl := Option.some.inj (here'.symm.trans here)
      rw [isText'] at element
      cases element
  | @whole place node below F old tag attributes id a found element stands _ after inside ih =>
      obtain ⟨fresh, distinctBelow⟩ := List.nodup_cons.1 distinct
      rw [Forest.preorder, List.append_nil] at fresh distinctBelow
      have here := outside node (Document.parent?_eq after)
      have opened := opens id a stands.found
      rw [stands.source] at opened
      intro n member b present isElement
      rw [Forest.mem_preorder_tree] at member
      rcases member with rfl | member
      · obtain rfl := Option.some.inj (stands.found.symm.trans present)
        rw [stands.parent, stands.source]
        exact here
      · refine ih distinctBelow (fun member => ?_) (fun child isChild => ?_) n member b present
          isElement
        · exact absurd member (rootless fresh fun inside => (top inside).1)
        · refine here.below closed stands.found stands.parent opened (fun isRoot => ?_) isChild
          obtain ⟨-, under, undeclared⟩ := top (isRoot ▸ List.mem_cons_self)
          exact ⟨under, opened ▸ isRoot ▸ undeclared⟩
  | @split place node new below F old tag attributes id inner a b found element stands _ content
      plain isNew after made inside ih =>
      obtain ⟨fresh, distinctBelow⟩ := List.nodup_cons.1 distinct
      rw [Forest.preorder, List.append_nil] at fresh distinctBelow
      have here := outside node (Document.parent?_eq after)
      have opened := opens id a stands.found
      have opened' := opens inner b content.found
      rw [stands.source] at opened
      rw [content.source] at opened'
      have under : u.Shown (some id) new := by
        refine here.below closed stands.found stands.parent opened (fun isRoot => ?_)
          (Document.parent?_eq made)
        obtain ⟨-, under, undeclared⟩ := top (isRoot ▸ List.mem_cons_self)
        exact ⟨under, opened ▸ isRoot ▸ undeclared⟩
      have inner_ne : new ≠ Document.root := by
        have old := d.lt_size_of_node? found
        exact Nat.ne_of_gt (Nat.lt_of_lt_of_le (Nat.zero_lt_of_lt old) isNew)
      intro n member c present isElement
      rw [Forest.mem_preorder_tree, Forest.mem_preorder_tree] at member
      rcases member with rfl | rfl | member
      · obtain rfl := Option.some.inj (stands.found.symm.trans present)
        rw [stands.parent, stands.source]
        exact here
      · obtain rfl := Option.some.inj (content.found.symm.trans present)
        rw [content.parent, content.source]
        exact under
      · refine ih distinctBelow (fun member => ?_) (fun child isChild => ?_) n member c present
          isElement
        · exact absurd member (rootless fresh fun inside => (top inside).1)
        · exact under.below closed content.found content.parent opened'
            (fun isRoot => absurd isRoot inner_ne) isChild

theorem declaredBy_file (t : Pass) : t.file.declaredBy t.components = t.basis.declaredBy := by
  funext node
  refine congrArg (t.file.declared.find? ·) (funext fun id => ?_)
  change _ = ((t.components.get? id).map Component.declaration).any _
  cases t.components.get? id <;> rfl

/-- An annotation decides alone whether its source counts as a declaration. -/
theorem opens_eq {t : Pass} (distinct : ∀ id id' a a', t.annotations.get? id = some a →
      t.annotations.get? id' = some a' → a.source = a'.source → id = id')
    (found : t.annotations.get? id = some a) :
    t.file.opens t.components a.source = t.declaredAt id := by
  have plain : (t.annotations.nodes.any fun b => b.source == a.source && b.isPlain) = a.isPlain := by
    rw [Bool.eq_iff_iff, Array.any_eq_true]
    constructor
    · rintro ⟨n, inside, held⟩
      rw [Bool.and_eq_true, beq_iff_eq] at held
      have present : t.annotations.get? n = some t.annotations.nodes[n] :=
        Array.getElem?_eq_getElem inside
      obtain rfl := distinct n id _ a present found held.1
      rw [← Option.some.inj (present.symm.trans found)]
      exact held.2
    · intro plain
      obtain ⟨inside, here⟩ := Array.getElem?_eq_some_iff.1 found
      refine ⟨id, inside, ?_⟩
      rw [here, plain, beq_self_eq_true]
      rfl
  rw [SourceFile.opens, declaredBy_file, declaredAt, marks, found]
  change (if (t.annotations.nodes.any _) = true then _ else _) = _
  rw [plain]
  rfl

theorem opens_eq_none {t : Pass} (unseen : ∀ id a, t.annotations.get? id = some a → a.source ≠ n) :
    t.file.opens t.components n = none := by
  refine if_neg fun held => ?_
  obtain ⟨id, inside, held⟩ := Array.any_eq_true.1 held
  rw [Bool.and_eq_true, beq_iff_eq] at held
  exact unseen id _ (Array.getElem?_eq_getElem inside) held.1

end Pass

/-! ## A file annotated once -/

section File
variable {s : Pass} {id : AnnotatedId} {a : AnnotatedNode} (keepBlanks : Bool)
  (fresh : s.annotations = {}) (wellFormed : s.document.WellFormed)
  (elements : ∀ y c, s.basis.declaredBy y = some c → s.document.tag? y = some "element")
include fresh wellFormed elements

/-- The document shows the declarations above an element that the tree of annotations shows. -/
theorem ownerOf_annotateFile
    (found : (annotateFile keepBlanks s).annotations.get? id = some a) (element : a.isText = false) :
    (annotateFile keepBlanks s).file.ownerOf (annotateFile keepBlanks s).components a.source =
      (annotateFile keepBlanks s).ownerFrom
        ((annotateFile keepBlanks s).annotations.parent? id) := by
  have visits := visits_annotateFile keepBlanks s
  have walkable := walkable_bodyForest fresh wellFormed
  have linked := mirrors_file_annotateFile keepBlanks fresh wellFormed
  obtain ⟨F, grown, mirrors⟩ := mirrors_annotateFile keepBlanks fresh wellFormed
  obtain ⟨f', covers⟩ := visits.covers walkable.valid walkable.fits
  have sourced := visits.sourced walkable
  have isNew (n : AnnotatedId) : s.annotations.nodes.size ≤ n := by
    rw [fresh]
    exact Nat.zero_le n
  generalize annotateFile keepBlanks s = t at *
  have unseen {n : NodeId} (inside : n < s.document.size)
      (apart : n ∉ s.document.bodyForest.preorder) : t.file.opens t.components n = none := by
    refine Pass.opens_eq_none fun id a found same => ?_
    rcases sourced.located id a (isNew id) found with member | ⟨new, -⟩
    · exact apart (same ▸ member)
    · exact absurd inside (Nat.not_lt.2 (same ▸ new))
  have top (member : Document.root ∈ s.document.bodyForest.preorder) :
      Document.root ∈ s.document.bodyForest.tops ∧
        t.file.opens t.components Document.root = none := by
    have isBody := wellFormed.body_eq_root member
    have tagged : s.document.tag? Document.root = some "body" := by
      simpa [Document.isElement] using List.find?_some isBody
    refine ⟨?_, ?_⟩
    · rw [Document.bodyForest, isBody]
      dsimp only
      rw [(wellFormed.forest_spec (Document.lt_size_of_tag? tagged)).1]
      exact List.mem_cons_self
    · rw [SourceFile.opens, Pass.declaredBy_file, visits.basis]
      split
      · cases declares : s.basis.declaredBy Document.root with
        | none => rfl
        | some c =>
            have other := tagged.symm.trans (elements _ c declares)
            simp at other
      · rfl
  have outside (n : NodeId) (under : t.document.parent? n = s.document.bodyHolder) :
      t.Shown none n := by
    have ends (last : ∀ p ∈ t.document.parent? n, p = Document.root) : t.Shown none n :=
      ⟨[], last, rfl⟩
    cases holder : s.document.bodyHolder with
    | none =>
        refine ends fun p isParent => ?_
        rw [under, holder] at isParent
        cases isParent
    | some h =>
        by_cases isRoot : h = Document.root
        · refine ends fun p isParent => ?_
          rw [under, holder] at isParent
          exact (Option.some.inj isParent).symm.trans isRoot
        · obtain ⟨inside, apart⟩ := wellFormed.of_bodyHolder h holder
          have line := wellFormed.isLine_ancestors h
          have further := line.outside wellFormed walkable.fits.follows inside apart
          refine ⟨h :: s.document.ancestors h, ⟨under.trans holder, isRoot, ?_⟩, ?_⟩
          · refine line.congr fun q member => ?_
            rw [Document.parent?, Document.parent?,
              covers.reworks.outside q (further q member).1 (further q member).2]
          · exact List.findSome?_eq_none_iff.2 fun q member =>
              unseen (further q member).1 (further q member).2
  have shown := mirrors.shown (grown.tree.closed walkable.closed)
    (fun id a found => Pass.opens_eq linked.distinct found) walkable.fits.distinct
    (fun member => ⟨(top member).1, rfl, (top member).2⟩) outside id
    (grown.tree.mem_preorder.2 ⟨isNew id, AnnotatedTree.lt_size_of_get? found⟩) a found element
  obtain ⟨above, line, owner⟩ := shown
  rw [AnnotatedTree.parent?_eq found, ← owner]
  exact congrArg (List.findSome? _) line.ancestors_eq

theorem used_annotateFile (owner : Option ComponentId) (knows : s.basis.Knows owner)
    (unused : s.usedBy owner = []) : (annotateFile keepBlanks s).usedBy owner =
      (annotateFile keepBlanks s).file.usesOf (annotateFile keepBlanks s).components owner := by
  have visits := visits_annotateFile keepBlanks s
  have walkable := walkable_bodyForest fresh wellFormed
  have linked := mirrors_file_annotateFile keepBlanks fresh wellFormed
  have counts := visits.counts walkable ⟨rfl, elements⟩ owner knows
  have owners (n : AnnotatedId) (a : AnnotatedNode)
      (found : (annotateFile keepBlanks s).annotations.get? n = some a) (element : a.isText = false) :=
    ownerOf_annotateFile keepBlanks fresh wellFormed elements found element
  generalize annotateFile keepBlanks s = t at *
  have start : s.annotations.nodes.size = 0 := by
    rw [fresh]
    rfl
  rw [unused, start, foldl_addNew, Pass.boundFor, Nat.sub_zero, ← List.range_eq_range'] at counts
  rw [counts, SourceFile.usesOf, linked.walk]
  refine congrArg List.eraseDups (List.filterMap_congr fun n _ => ?_)
  change _ = (t.annotations.get? n).bind _
  rw [Pass.boundAt, Pass.component?]
  cases found : t.annotations.get? n with
  | none => exact ite_self none
  | some a =>
      rw [Option.bind_some, Option.bind_some]
      cases element : a.isText with
      | true =>
          have unbound : a.component? = none := by
            cases a using AnnotatedNode.byKind with
            | text a binding => rfl
            | _ => cases element
          rw [unbound, ite_self, ite_self]
      | false => rw [owners n a found element]

end File

/-- Nothing counts yet for a file, nor for the components that its elements declare. -/
structure SourceFile.Uncounted (t : ComponentTable) (file : SourceFile) : Prop where
  fresh : file.annotations = {}
  wellFormed : file.document.WellFormed
  unused : file.used = []
  declares : ∀ id ∈ file.declared, ∃ c, t.get? id = some c ∧ c.used = [] ∧
    file.document.tag? c.element = some "element"

theorem SourceFile.Uncounted.elements {s : Pass} (uncounted : s.file.Uncounted s.components) :
    ∀ y c, s.basis.declaredBy y = some c → s.document.tag? y = some "element" := by
  intro y c found
  rw [← Pass.declaredBy_file] at found
  obtain ⟨c', present, -, element⟩ := uncounted.declares c (List.mem_of_find?_eq_some found)
  have here : c'.element = y := by simpa [present] using List.find?_some found
  exact here ▸ element

/-- A pass counts what the file and the components that it declares use, and changes no other. -/
theorem countsUses_annotateFile (keepBlanks : Bool) (s : Pass)
    (uncounted : s.file.Uncounted s.components) :
    (annotateFile keepBlanks s).file.CountsUses (annotateFile keepBlanks s).components ∧
      ∀ id ∉ s.file.declared,
        ((annotateFile keepBlanks s).components.get? id).map Component.used =
          (s.components.get? id).map Component.used := by
  have fresh : s.annotations = {} := uncounted.fresh
  have wellFormed : s.document.WellFormed := uncounted.wellFormed
  have elements := uncounted.elements
  have basis := (visits_annotateFile keepBlanks s).basis
  have agrees : s.components.Agrees (annotateFile keepBlanks s).components := fun id =>
    congrFun (congrArg Basis.declaration basis) id
  have known {id : ComponentId} {c : Component} (present : s.components.get? id = some c) :
      s.basis.Knows (some id) := by
    rintro _ ⟨⟩
    change ((s.components.get? id).map Component.declaration).isSome = true
    rw [present]
    rfl
  have used := used_annotateFile keepBlanks fresh wellFormed elements
  have untouched (id : ComponentId) (other : id ∉ s.file.declared) (knows : s.basis.Knows (some id)) :
      (annotateFile keepBlanks s).usedBy (some id) = s.usedBy (some id) := by
    rw [(visits_annotateFile keepBlanks s).counts (walkable_bodyForest fresh wellFormed)
      ⟨rfl, elements⟩ (some id) knows, Pass.boundFor_eq_nil]
    · rfl
    · have same : (annotateFile keepBlanks s).file.declared = s.file.declared :=
        congrArg (fun b : Basis => b.file.declared) basis
      rwa [same]
  generalize annotateFile keepBlanks s = t at *
  refine ⟨⟨used none (fun id impossible => nomatch impossible) uncounted.unused,
    fun id member => ?_⟩, fun id other => ?_⟩
  · have same : t.file.declared = s.file.declared :=
      congrArg (fun b : Basis => b.file.declared) basis
    obtain ⟨c, present, none, -⟩ := uncounted.declares id (same ▸ member)
    obtain ⟨c', present', -⟩ := agrees.exists_get? present
    have counted := used (some id) (known present) (by rw [Pass.usedBy, present]; exact none)
    rw [Pass.usedBy, present'] at counted
    exact ⟨c', present', counted⟩
  · cases present : s.components.get? id with
    | none =>
        have absent := agrees id
        rw [present, Option.map_none, Option.map_eq_none_iff] at absent
        rw [absent]
    | some c =>
        obtain ⟨c', present', -⟩ := agrees.exists_get? present
        have kept := untouched id other (known present)
        rw [Pass.usedBy, Pass.usedBy, present, present'] at kept
        rw [present']
        exact congrArg some kept

end ComponentMarkup
