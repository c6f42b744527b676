import ComponentMarkup.Proofs.Annotated.Numbering
import ComponentMarkup.Proofs.Document.Rework

/-!
The tree of a whole file: all its annotations hang together with the root. A pass over a file leaves
the generated identifiers that are there, whether or not the file was annotated before, and adds one
for each number it draws.
-/

namespace ComponentMarkup

variable {F : Forest} {t : AnnotatedTree}

theorem AnnotatedTree.Grows.forest_eq (grows : Grows none F {} t) (few : F.tops.length ≤ 1) :
    t.forest = F := by
  have root : t.root = F.tops.head? := by rw [grows.root, Option.none_or, if_pos rfl]
  have tops : t.root.toList = F.tops := by
    rw [root]
    match F.tops, few with
    | [], _ => rfl
    | [_], _ => rfl
  have distinct : F.preorder.Nodup := by
    rw [grows.numbered]
    exact List.nodup_range'
  have bounded : ∀ n ∈ F.preorder, n < t.nodes.size := fun n member =>
    (grows.mem_preorder.1 member).2
  rw [forest, Forest.annotatedForestTo_eq_unfold, tops]
  exact Forest.unfold_eq_of_follows grows.follows (Forest.depth_le_of_nodup distinct bounded)

theorem AnnotatedTree.Grows.walk_eq (grows : Grows none F {} t) (few : F.tops.length ≤ 1) :
    t.walk = List.range t.nodes.size := by
  rw [walk, grows.forest_eq few, grows.numbered, List.range_eq_range']
  rfl

theorem annotateFile_eq (keepBlanks : Bool) (s : Pass) :
    annotateFile keepBlanks s = s.visitForest s.document.bodyForest { keepBlanks } := by
  unfold annotateFile Document.bodyForest
  cases s.document.findElement? "body" <;> rfl

theorem visits_annotateFile (keepBlanks : Bool) (s : Pass) :
    Pass.Visits s.document.bodyForest { keepBlanks } s (annotateFile keepBlanks s) := by
  rw [annotateFile_eq]
  exact Pass.visits_visitForest fun q impossible => nomatch impossible

theorem grown_annotateFile (keepBlanks : Bool) (s : Pass) :
    ∃ F, Pass.Grown none F s (annotateFile keepBlanks s) ∧ F.tops.length ≤ 1 := by
  obtain ⟨F, grown, few⟩ :=
    (visits_annotateFile keepBlanks s).grown fun q impossible => nomatch impossible
  exact ⟨F, grown, (few rfl).trans (Document.length_tops_bodyForest s.document)⟩

/-- The numbers in the identifiers of a file, each node behind those below it. -/
def SourceFile.numbers (file : SourceFile) : List UInt64 :=
  file.annotations.forest.postorder.filterMap file.annotations.number?

/-- The identifiers of a freshly annotated file hold the numbers drawn for it. -/
theorem numbers_annotateFile (keepBlanks : Bool) {s : Pass} (fresh : s.annotations = {}) :
    ∃ count, (annotateFile keepBlanks s).counter = s.counter + UInt64.ofNat count ∧
      (annotateFile keepBlanks s).file.numbers = drawnFrom s.counter count := by
  obtain ⟨F, grown, few⟩ := grown_annotateFile keepBlanks s
  obtain ⟨count, counted, numbers⟩ := grown.drawn
  have tree := grown.tree
  rw [fresh] at tree
  refine ⟨count, counted, ?_⟩
  rw [SourceFile.numbers]
  change (annotateFile keepBlanks s).annotations.forest.postorder.filterMap
    (annotateFile keepBlanks s).annotations.number? = _
  rw [tree.forest_eq few, numbers]

theorem labelled_annotateFile (keepBlanks : Bool) {s : Pass} (fresh : s.annotations = {})
    {id : AnnotatedId} {a : AnnotatedNode}
    (found : (annotateFile keepBlanks s).annotations.get? id = some a) :
    id ∈ (annotateFile keepBlanks s).annotations.walk ∧ a.Labelled := by
  obtain ⟨F, grown, few⟩ := grown_annotateFile keepBlanks s
  have tree := grown.tree
  rw [fresh] at tree
  have inside := AnnotatedTree.lt_size_of_get? found
  refine ⟨?_, grown.labelled id ?_ a found⟩
  · rw [tree.walk_eq few]
    exact List.mem_range.2 inside
  · exact tree.mem_preorder.2 ⟨Nat.zero_le id, inside⟩

/-! ## Identifiers that a file holds -/

theorem filterMap_getElem?_range {α : Type} (l : List α) :
    (List.range l.length).filterMap (fun i => l[i]?) = l := by
  induction l with
  | nil => rfl
  | cons a l ih =>
      rw [List.length_cons, List.range_succ_eq_map,
        List.filterMap_cons_some (show (a :: l)[0]? = some a from rfl), List.filterMap_map]
      exact congrArg (a :: ·) ih

namespace AnnotatedTree

/-- Every annotation has an identifier of its kind, or none. -/
def Labelled (t : AnnotatedTree) : Prop := ∀ id a, t.get? id = some a → a.Labelled

/-- Every annotation of `t` is in `u` and has the identifier there that it has in `t`. -/
def Keeps (t u : AnnotatedTree) : Prop :=
  ∀ id a, t.get? id = some a → ∃ a', u.get? id = some a' ∧ a'.identifier = a.identifier

theorem Keeps.refl (t : AnnotatedTree) : t.Keeps t := fun _ a found => ⟨a, found, rfl⟩

theorem Keeps.trans {t u v : AnnotatedTree} (first : t.Keeps u) (second : u.Keeps v) :
    t.Keeps v := by
  intro id a found
  obtain ⟨b, found', same⟩ := first id a found
  obtain ⟨c, found'', same'⟩ := second id b found'
  exact ⟨c, found'', same'.trans same⟩

/-- The generated identifiers of all annotations. Those of roots are not generated. -/
def held (t : AnnotatedTree) : List String :=
  (t.nodes.toList.filterMap AnnotatedNode.identifier).filter (· != rootIdentifier)

theorem numbers_held (t : AnnotatedTree) : t.held.filterMap identifierNumber? =
    (List.range t.nodes.size).filterMap t.number? := by
  have all := filterMap_getElem?_range t.nodes.toList
  rw [held, ← all, List.filterMap_filter, List.filterMap_filterMap, List.filterMap_filterMap,
    Array.length_toList]
  refine List.filterMap_congr fun id _ => ?_
  rw [number?, get?, Array.getElem?_toList, Option.bind_assoc]
  refine congrArg _ (funext fun a => congrArg _ (funext fun identifier => ?_))
  split
  · rfl
  · next isRoot =>
    have root : identifier = rootIdentifier := by simpa using isRoot
    rw [root, identifierNumber?_rootIdentifier]

theorem Labelled.generated (labelled : t.Labelled) {identifier : String}
    (member : identifier ∈ t.held) : ∃ n, identifierNumber? identifier = some n ∧
      (identifier = elementIdentifier n ∨ identifier = textIdentifier n) := by
  obtain ⟨member, other⟩ := List.mem_filter.1 member
  obtain ⟨a, present, has⟩ := List.mem_filterMap.1 member
  obtain ⟨id, found⟩ := List.mem_iff_getElem?.1 present
  have labels : a.Labelled := labelled id a (Array.getElem?_toList.symm.trans found)
  rw [AnnotatedNode.Labelled, has] at labels
  dsimp only at labels
  split at labels
  · obtain ⟨-, -, n, rfl⟩ := labels
    exact ⟨n, identifierNumber?_textIdentifier n, .inr rfl⟩
  · split at labels
    · subst labels
      cases (bne_self_eq_false _).symm.trans other
    · obtain ⟨n, rfl⟩ := labels
      exact ⟨n, identifierNumber?_elementIdentifier n, .inl rfl⟩

end AnnotatedTree

/-- A pass over a file draws one number for each generated identifier that it adds, and keeps the
others. -/
theorem held_annotateFile (keepBlanks : Bool) (s : Pass) :
    ∃ count, (annotateFile keepBlanks s).counter = s.counter + UInt64.ofNat count ∧
      ((annotateFile keepBlanks s).annotations.held.filterMap identifierNumber?).Perm
        (s.annotations.held.filterMap identifierNumber? ++ drawnFrom s.counter count) := by
  obtain ⟨F, grown, -⟩ := grown_annotateFile keepBlanks s
  generalize annotateFile keepBlanks s = t at grown ⊢
  obtain ⟨count, counted, numbers⟩ := grown.drawn
  refine ⟨count, counted, ?_⟩
  obtain ⟨more, size⟩ := Nat.exists_eq_add_of_le grown.tree.size
  have old : (List.range s.annotations.nodes.size).filterMap t.annotations.number? =
      (List.range s.annotations.nodes.size).filterMap s.annotations.number? :=
    List.filterMap_congr fun id member => grown.tree.number?_old (List.mem_range.1 member)
  have new := F.postorder_perm_preorder.filterMap t.annotations.number?
  rw [numbers, grown.tree.numbered, size, Nat.add_sub_cancel_left] at new
  rw [AnnotatedTree.numbers_held, AnnotatedTree.numbers_held, size, List.range_eq_range',
    ← List.range'_append_1, Nat.zero_add, List.filterMap_append, ← List.range_eq_range', old]
  exact new.symm.append_left _

theorem AnnotatedTree.Labelled.annotateFile (keepBlanks : Bool) {s : Pass}
    (labelled : s.annotations.Labelled) :
    (ComponentMarkup.annotateFile keepBlanks s).annotations.Labelled := by
  obtain ⟨F, grown, -⟩ := grown_annotateFile keepBlanks s
  intro id a found
  rcases Nat.lt_or_ge id s.annotations.nodes.size with old | new
  · obtain ⟨b, found', core⟩ := grown.tree.get?_old old found
    exact (labelled id b found').of_core core
  · exact grown.labelled id (grown.tree.mem_preorder.2 ⟨new, AnnotatedTree.lt_size_of_get? found⟩) a found

theorem keeps_annotateFile (keepBlanks : Bool) (s : Pass) :
    s.annotations.Keeps (annotateFile keepBlanks s).annotations := by
  obtain ⟨F, grown, -⟩ := grown_annotateFile keepBlanks s
  intro id a found
  obtain ⟨a', found', core⟩ := grown.tree.core found
  exact ⟨a', found', AnnotatedNode.identifier_of_core core⟩

end ComponentMarkup
