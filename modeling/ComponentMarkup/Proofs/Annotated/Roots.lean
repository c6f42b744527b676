import ComponentMarkup.Proofs.Annotated.ClosedForm
import ComponentMarkup.Proofs.Annotated.Marks

/-!
The roots of a file: its body, and the templates of the components whose declarations are elements
that are annotated as they are. A template stands directly below its declaration, so that the walk
comes by it while the declaration is the nearest one around.
-/

namespace ComponentMarkup

/-! ## Templates -/

namespace Basis

/-- The file declares a component with `element` whose template is `template`. -/
def Template (b : Basis) (element template : NodeId) : Prop :=
  ∃ id ∈ b.file.declared, ∃ c, b.declaration id = some c ∧ c.element = element ∧
    c.template = some template

/-- The components of the file are declared by elements of the document. -/
def DeclaredIn (b : Basis) (d : Document) : Prop :=
  ∀ id ∈ b.file.declared, ∃ c, b.declaration id = some c ∧ d.tag? c.element = some "element" ∧
    c.template = (d.childElements c.element "template").head?

variable {b : Basis} {d : Document} {owner : Option ComponentId} {id : ComponentId} {x y : NodeId}
  {tag : String}

namespace DeclaredIn
variable (declared : b.DeclaredIn d)
include declared

theorem template_iff : b.Template y x ↔
    (∃ id ∈ b.file.declared, ∃ c, b.declaration id = some c ∧ c.element = y) ∧
      d.tag? y = some "element" ∧ (d.childElements y "template").head? = some x := by
  constructor
  · rintro ⟨id, member, c, present, rfl, template⟩
    obtain ⟨c', present', element, first⟩ := declared id member
    obtain rfl := Option.some.inj (present.symm.trans present')
    exact ⟨⟨id, member, c, present, rfl⟩, element, first.symm.trans template⟩
  · rintro ⟨⟨id, member, c, present, rfl⟩, -, template⟩
    obtain ⟨c', present', -, first⟩ := declared id member
    obtain rfl := Option.some.inj (present.symm.trans present')
    exact ⟨id, member, c, present, rfl, first.trans template⟩

theorem child (template : b.Template y x) : x ∈ d.children y := by
  obtain ⟨-, -, first⟩ := declared.template_iff.1 template
  exact (List.mem_filter.1 (List.mem_of_head? first)).1

theorem isTemplateOf_declaredBy (found : b.declaredBy y = some id) :
    b.isTemplateOf (some id) x = true ↔ b.Template y x := by
  have member : id ∈ b.file.declared := List.mem_of_find?_eq_some found
  obtain ⟨c, present, element, first⟩ := declared id member
  have here : c.element = y := by simpa [present] using List.find?_some found
  rw [isTemplateOf, Option.bind_some, present, declared.template_iff]
  subst here
  rw [Option.any_some, beq_iff_eq, ← first]
  constructor
  · exact fun template => ⟨⟨id, member, c, present, rfl⟩, element, template⟩
  · exact fun template => template.2.2

omit declared in
theorem not_template (none : b.declaredBy y = none) : ¬ b.Template y x := by
  rintro ⟨id, member, c, present, rfl, -⟩
  have other := List.find?_eq_none.1 none id member
  simp [present] at other

/-- What is a template below a node is one of the declaration around it or of its own. -/
theorem template_of_innerOwner (template : b.isTemplateOf (b.innerOwner y tag owner) x = true) :
    b.isTemplateOf owner x = true ∨ b.Template y x := by
  unfold innerOwner at template
  split at template
  · cases found : b.declaredBy y with
    | none =>
        rw [found] at template
        exact .inl template
    | some id =>
        rw [found] at template
        exact .inr ((declared.isTemplateOf_declaredBy found).1 template)
  · exact .inl template

theorem innerOwner_of_template (template : b.Template y x) (element : tag = "element") :
    b.isTemplateOf (b.innerOwner y tag owner) x = true := by
  rw [innerOwner, if_pos element]
  cases found : b.declaredBy y with
  | none => exact absurd template (DeclaredIn.not_template found)
  | some id => exact (declared.isTemplateOf_declaredBy found).2 template

end DeclaredIn
end Basis

namespace Pass
variable {s t u : Pass} {parent : Option AnnotatedId} {owner inner : Option ComponentId}
  {id : AnnotatedId} {node x y : NodeId} {tag : String} {m : Mark} {d : Document}
  {f f' g g' below below' rest F : Forest}

/-! ## New marks -/

theorem marks_eq_none {n : AnnotatedId} (outside : s.annotations.nodes.size ≤ n) :
    s.marks n = none := by
  rw [marks, AnnotatedTree.get?, Array.getElem?_eq_none outside, Option.map_none]

theorem marks_old (grows : s.annotations.Grows parent F t.annotations) {n : AnnotatedId}
    (inside : n < s.annotations.nodes.size) : t.marks n = s.marks n := by
  obtain ⟨a, found⟩ := AnnotatedTree.get?_isSome inside
  obtain ⟨a', found', core⟩ := grows.core found
  rw [marks, marks, found, found', Option.map_some, Option.map_some, AnnotatedNode.mark_of_core core]

/-- From `s` to `t` an annotation with the mark `m` has been made. -/
def New (s t : Pass) (m : Mark) : Prop :=
  ∃ n, s.annotations.nodes.size ≤ n ∧ t.marks n = some m

theorem Makes.new_iff {m' : Mark} (makes : Makes m s t) : New s t m' ↔ m' = m := by
  constructor
  · rintro ⟨n, isNew, found⟩
    rw [makes.marks, Function.update_apply] at found
    split at found
    · exact (Option.some.inj found).symm
    · rw [marks_eq_none isNew] at found
      cases found
  · rintro rfl
    exact ⟨_, Nat.le_refl _, by rw [makes.marks, Function.update_self]⟩

theorem new_iff_or (size : s.annotations.nodes.size ≤ t.annotations.nodes.size)
    (later : t.annotations.Grows parent F u.annotations) : New s u m ↔ New s t m ∨ New t u m := by
  constructor
  · rintro ⟨n, isNew, found⟩
    rcases Nat.lt_or_ge n t.annotations.nodes.size with inside | outside
    · rw [marks_old later inside] at found
      exact .inl ⟨n, isNew, found⟩
    · exact .inr ⟨n, outside, found⟩
  · rintro (⟨n, isNew, found⟩ | ⟨n, outside, found⟩)
    · have inside : n < t.annotations.nodes.size := by
        by_contra outside
        rw [marks_eq_none (Nat.le_of_not_lt outside)] at found
        cases found
      exact ⟨n, isNew, (marks_old later inside).trans found⟩
    · exact ⟨n, Nat.le_trans size outside, found⟩

/-- From `s` to `t` a declaration with the template `x` has been annotated as it is. -/
def Declares (s t : Pass) (x : NodeId) : Prop :=
  ∃ m, New s t m ∧ m.isPlain = true ∧ s.basis.Template m.source x

theorem declares_iff_or (size : s.annotations.nodes.size ≤ t.annotations.nodes.size)
    (later : t.annotations.Grows parent F u.annotations) (basis : t.basis = s.basis) :
    Declares s u x ↔ Declares s t x ∨ Declares t u x := by
  simp only [Declares, new_iff_or size later, basis, or_and_right, exists_or]

/-- Each new annotation is a root if it stands for a body or for the template of a declaration
around it or among the new ones, as it is. -/
def Rooted (owner : Option ComponentId) (s t : Pass) : Prop :=
  ∀ m, New s t m → (m.isRoot = true ↔ m.isPlain = true ∧
    (t.document.tag? m.source = some "body" ∨ s.basis.isTemplateOf owner m.source = true ∨
      Declares s t m.source))

/-! ## Places -/

/-- `f` is part of `d` below the declaration `owner`, and `s` has not changed what is declared. -/
structure Placed (d : Document) (f : Forest) (owner : Option ComponentId) (s : Pass) : Prop where
  size : d.size ≤ s.document.size
  tags : ∀ n < d.size, s.document.tag? n = d.tag? n
  follows : f.Follows d.children
  declared : s.basis.DeclaredIn d
  outside : ∀ x, s.basis.isTemplateOf owner x = true → ∃ y ∉ f.preorder, s.basis.Template y x

theorem exists_of_new (new : New s t m) :
    ∃ id a, s.annotations.nodes.size ≤ id ∧ t.annotations.get? id = some a ∧ a.mark = m := by
  obtain ⟨id, isNew, found⟩ := new
  obtain ⟨a, present, same⟩ := Option.map_eq_some_iff.1 found
  exact ⟨id, a, isNew, present, same⟩

namespace Covers
variable (covers : Covers f f' s t)
include covers

theorem source_of_new (new : New s t m) (plain : m.isPlain = true) : m.source ∈ f'.preorder := by
  obtain ⟨id, a, isNew, present, rfl⟩ := exists_of_new new
  exact covers.mem_preorder isNew
    (AnnotatedTree.element?_eq present (AnnotatedNode.isText_of_isPlain plain))

theorem source_mem (new : New s t m) (plain : m.isPlain = true) (old : m.source < s.document.size) :
    m.source ∈ f.preorder := by
  rcases covers.reworks.origin _ (covers.source_of_new new plain) with member | outside
  · exact member
  · exact absurd old (Nat.not_lt.2 outside)

theorem declaration_mem (size : d.size ≤ s.document.size) (declared : s.basis.DeclaredIn d)
    (declares : Declares s t x) : ∃ y ∈ f.preorder, s.basis.Template y x := by
  obtain ⟨m, new, plain, template⟩ := declares
  have inside := Document.lt_size_of_mem_children (declared.child template)
  exact ⟨m.source, covers.source_mem new plain (Nat.lt_of_lt_of_le inside size), template⟩

end Covers

theorem Placed.lt_size (placed : Placed d f owner s) (wellFormed : d.WellFormed)
    (template : s.basis.Template y x) : x < d.size :=
  Document.lt_size_of_parent? ((wellFormed.linked y x).1 (placed.declared.child template))

/-! ## Walks one after the other -/

section Trans
variable (wellFormed : d.WellFormed) (placed : Placed d (f.append g) owner s)
include placed

theorem Placed.first : Placed d f owner s where
  size := placed.size
  tags := placed.tags
  follows := placed.follows.left
  declared := placed.declared
  outside x template := by
    obtain ⟨y, apart, template⟩ := placed.outside x template
    rw [Forest.preorder_append, List.mem_append, not_or] at apart
    exact ⟨y, apart.1, template⟩

theorem Placed.later (basis : t.basis = s.basis) (reworks : Document.Reworks f f' s.document t.document) :
    Placed d g owner t where
  size := Nat.le_trans placed.size reworks.size
  tags n inside :=
    (reworks.tags n (Nat.lt_of_lt_of_le inside placed.size)).trans (placed.tags n inside)
  follows := placed.follows.right
  declared := basis ▸ placed.declared
  outside x template := by
    rw [basis] at template ⊢
    obtain ⟨y, apart, template⟩ := placed.outside x template
    rw [Forest.preorder_append, List.mem_append, not_or] at apart
    exact ⟨y, apart.2, template⟩

include wellFormed

/-- A template stands in the same tree as its declaration. -/
theorem Rooted.trans (first : Rooted owner s t) (second : Rooted owner t u)
    (covers : Covers f f' s t) (covers' : Covers g g' t u) (basis : t.basis = s.basis)
    (size : s.annotations.nodes.size ≤ t.annotations.nodes.size)
    (later : t.annotations.Grows parent F u.annotations)
    (apart : ∀ n ∈ g.preorder, n ∉ f.preorder) : Rooted owner s u := by
  have place {y x : NodeId} (template : s.basis.Template y x) : x < d.size :=
    placed.lt_size wellFormed template
  have declared' : t.basis.DeclaredIn d := basis ▸ placed.declared
  intro m new
  rw [declares_iff_or size later basis]
  rcases (new_iff_or size later).1 new with new | new
  · rw [first m new]
    apply and_congr_right
    intro plain
    have source := covers.reworks.fits.inside _ (covers.source_of_new new plain)
    rw [covers'.reworks.tags _ source]
    -- A declaration in the later forest has its template there as well.
    have other : ¬ Declares t u m.source := by
      intro declares
      obtain ⟨y, inLater, template⟩ := covers'.declaration_mem
        (Nat.le_trans placed.size covers.reworks.size) declared' declares
      have isChild := declared'.child template
      rw [basis] at template
      have old := Nat.lt_of_lt_of_le (place template) placed.size
      exact apart _ (placed.follows.right.mem_of_mem_children inLater isChild)
        (covers.source_mem new plain old)
    simp [other]
  · rw [second m new, basis]
    apply and_congr_right
    intro plain
    have other : ¬ Declares s t m.source := by
      intro declares
      obtain ⟨y, inFirst, template⟩ := covers.declaration_mem placed.size placed.declared declares
      have isChild := placed.declared.child template
      have old := Nat.lt_of_lt_of_le (place template) placed.size
      exact apart _ (covers'.source_mem new plain (Nat.lt_of_lt_of_le old covers.reworks.size))
        (placed.follows.left.mem_of_mem_children inFirst isChild)
    simp [other]

end Trans

/-! ## Elements -/

theorem Makes.new_iff_or {m₀ m₁ : Mark} {host : Pass} (first : Makes m₀ s host)
    (same : t.annotations = host.annotations) (second : Makes m₁ t u) :
    New s u m ↔ m = m₀ ∨ m = m₁ := by
  have size : t.annotations.nodes.size = s.annotations.nodes.size + 1 := by rw [same, first.size]
  have before : t.marks = host.marks := by
    funext n
    rw [Pass.marks, Pass.marks, same]
  constructor
  · rintro ⟨n, isNew, found⟩
    rw [second.marks, Function.update_apply] at found
    split at found
    · exact .inr (Option.some.inj found).symm
    · rw [before] at found
      exact .inl (first.new_iff.1 ⟨n, isNew, found⟩)
  · rintro (rfl | rfl)
    · refine ⟨s.annotations.nodes.size, Nat.le_refl _, ?_⟩
      rw [second.marks, Function.update_of_ne, before, first.marks, Function.update_self]
      rw [size]
      exact Nat.ne_of_lt (Nat.lt_succ_self _)
    · refine ⟨t.annotations.nodes.size, ?_, ?_⟩
      · rw [size]
        exact Nat.le_succ _
      · rw [second.marks, Function.update_self]

namespace Marked
variable (marked : Marked owner node tag s t inner)
include marked

theorem size_le : s.annotations.nodes.size ≤ t.annotations.nodes.size := by
  cases marked with
  | plain makes _ =>
      rw [makes.size]
      exact Nat.le_succ _
  | structural makes _ =>
      rw [makes.size]
      exact Nat.le_succ _
  | split makes content _ =>
      rw [content.size, annotations_mapDocument, makes.size]
      exact Nat.le_add_right _ 2

/-- What is below an entered element is below its declaration, if it is one. -/
theorem inner_or : inner = owner ∧ (∀ x, ¬ Declares s t x) ∨
    ∃ y, inner = s.basis.innerOwner y tag owner ∧ (y = node ∨ y = s.document.size) ∧
      ∀ x, Declares s t x ↔ s.basis.Template y x := by
  cases marked with
  | plain makes below =>
      refine .inr ⟨node, below.trans (innerOwner_basis _ _ _ _), .inl rfl, fun x => ?_⟩
      simp [Declares, makes.new_iff]
  | structural makes below =>
      refine .inl ⟨below, ?_⟩
      rintro x ⟨m, new, plain, -⟩
      obtain rfl := makes.new_iff.1 new
      cases plain
  | split makes content below =>
      refine .inr ⟨s.document.size, below.trans (innerOwner_basis _ _ _ _), .inr rfl, fun x => ?_⟩
      simp [Declares, makes.new_iff_or (annotations_mapDocument _ _) content]

variable (element : s.document.tag? node = some tag)
include element

theorem document : s.document.size ≤ t.document.size ∧
    ∀ n < s.document.size, t.document.tag? n = s.document.tag? n := by
  have kept {m : Mark} (makes : Makes m s t) : s.document.size ≤ t.document.size ∧
      ∀ n < s.document.size, t.document.tag? n = s.document.tag? n := by
    refine ⟨Nat.le_of_eq (Document.size_of_skeleton makes.skeleton).symm, fun n _ => ?_⟩
    exact Document.tag?_of_skeleton n makes.skeleton
  cases marked with
  | plain makes _ => exact kept makes
  | structural makes _ => exact kept makes
  | split makes content _ =>
      have size := Document.size_of_skeleton content.skeleton
      rw [document_mapDocument, size_splitContent element] at size
      refine ⟨size ▸ Nat.le_succ _, fun n inside => ?_⟩
      rw [Document.tag?_of_skeleton n content.skeleton, document_mapDocument,
        tag?_splitContent element, if_neg (Nat.ne_of_lt inside)]

theorem new (new : New s t m) :
    (m.source = node ∨ m.source = s.document.size) ∧ t.document.tag? m.source = some tag ∧
      (m.isRoot = true ↔ m.isPlain = true ∧ s.startsRoot owner m.source tag = true) := by
  cases marked with
  | plain makes _ =>
      obtain rfl := makes.new_iff.1 new
      refine ⟨.inl rfl, (Document.tag?_of_skeleton node makes.skeleton).trans element, ?_⟩
      exact ⟨fun root => ⟨rfl, root⟩, And.right⟩
  | structural makes _ =>
      obtain rfl := makes.new_iff.1 new
      refine ⟨.inl rfl, (Document.tag?_of_skeleton node makes.skeleton).trans element, ?_⟩
      simp
  | split makes content _ =>
      have shown (n : NodeId) := Document.tag?_of_skeleton n content.skeleton
      simp only [document_mapDocument, tag?_splitContent element] at shown
      rcases (makes.new_iff_or (annotations_mapDocument _ _) content).1 new with rfl | rfl
      · refine ⟨.inl rfl, ?_, by simp⟩
        rw [shown]
        split
        · rfl
        · exact element
      · exact ⟨.inr rfl, (shown _).trans (if_pos rfl), fun root => ⟨rfl, root⟩, And.right⟩

end Marked

section Element
variable (placed : Placed d (.cons node below rest) owner s) (marked : Marked owner node tag s t inner)
include placed marked

theorem Placed.template_inner (template : s.basis.isTemplateOf inner x = true) :
    s.basis.isTemplateOf owner x = true ∨ Declares s t x := by
  rcases marked.inner_or with ⟨rfl, -⟩ | ⟨y, rfl, -, declares⟩
  · exact .inl template
  · rw [declares]
    exact placed.declared.template_of_innerOwner template

/-- A declaration that is annotated as it is stands at the entered node itself. -/
theorem Placed.template_of_declares (declares : Declares s t x) : s.basis.Template node x := by
  rcases marked.inner_or with ⟨-, none⟩ | ⟨y, -, here, iff⟩
  · exact absurd declares (none x)
  · have template := (iff x).1 declares
    have inside := Document.lt_size_of_mem_children (placed.declared.child template)
    rcases here with rfl | rfl
    · exact template
    · exact absurd inside (Nat.not_lt.2 placed.size)

variable (element : s.document.tag? node = some tag)
include element

theorem Placed.inner_of_declares (declares : Declares s t x) :
    s.basis.isTemplateOf inner x = true := by
  have template := placed.template_of_declares marked declares
  have tagged := (placed.declared.template_iff.1 template).2.1
  have inside := Document.lt_size_of_mem_children (placed.declared.child template)
  rw [placed.tags _ inside, tagged] at element
  rcases marked.inner_or with ⟨-, none⟩ | ⟨y, rfl, -, iff⟩
  · exact absurd declares (none x)
  · exact placed.declared.innerOwner_of_template ((iff x).1 declares) (Option.some.inj element).symm

theorem Placed.inside (basis : t.basis = s.basis) (apart : node ∉ below.preorder) :
    Placed d below inner t where
  size := Nat.le_trans placed.size (marked.document element).1
  tags n inside := ((marked.document element).2 n (Nat.lt_of_lt_of_le inside placed.size)).trans
    (placed.tags n inside)
  follows := placed.follows.2.1
  declared := basis ▸ placed.declared
  outside x template := by
    rw [basis] at template ⊢
    rcases placed.template_inner marked template with around | declares
    · obtain ⟨y, notIn, template⟩ := placed.outside x around
      exact ⟨y, fun member => notIn (List.mem_cons_of_mem _ (List.mem_append_left _ member)), template⟩
    · exact ⟨node, apart, placed.template_of_declares marked declares⟩

theorem Rooted.enclose {v : Pass} (wellFormed : d.WellFormed) (single : rest = .nil)
    (inside : Rooted inner t u) (basis : t.basis = s.basis) (apart : node ∉ below.preorder)
    (covers : Covers below below' t u) (whole : Covers (.cons node below rest) f' s v)
    (grows : t.annotations.Grows parent F u.annotations) (keeps : Keeps u v) :
    Rooted owner s v := by
  subst single
  have size := marked.size_le
  have sameNew (m : Mark) : New s v m ↔ New s u m := by rw [New, New, keeps.marks]
  have tags (n : NodeId) := Document.tag?_of_skeleton n keeps.skeleton
  have below_of {y x : NodeId} (member : y ∈ (Forest.cons node below .nil).preorder)
      (template : s.basis.Template y x) : x ∈ below.preorder ∧ x < d.size :=
    ⟨placed.follows.child_mem_below member (placed.declared.child template),
      placed.lt_size wellFormed template⟩
  intro m new
  rcases (new_iff_or size grows).1 ((sameNew m).1 new) with entered | later
  · obtain ⟨source, tagged, root⟩ := marked.new element entered
    rw [root]
    apply and_congr_right
    intro plain
    have bounded := Document.lt_size_of_tag? tagged
    -- What is declared in this tree has its template below `node`.
    have other : ¬ Declares s v m.source := by
      intro declares
      obtain ⟨y, member, template⟩ := whole.declaration_mem placed.size placed.declared declares
      obtain ⟨inBelow, old⟩ := below_of member template
      rcases source with isNode | isNew
      · exact apart (isNode ▸ inBelow)
      · exact Nat.not_lt.2 placed.size (isNew ▸ old)
    rw [startsRoot, Bool.or_eq_true, decide_eq_true_iff, isTemplateOf_basis, tags,
      covers.reworks.tags _ bounded, tagged]
    simp [other]
  · rw [inside m later, tags, basis]
    apply and_congr_right
    intro plain
    have sameDeclares : Declares s v m.source ↔ Declares s t m.source ∨ Declares t u m.source := by
      rw [← declares_iff_or size grows basis]
      simp only [Declares, sameNew]
    -- The declaration around the element has its template in front of it or behind it.
    have notOwn : ¬ s.basis.isTemplateOf owner m.source = true := by
      intro template
      obtain ⟨y, notIn, template⟩ := placed.outside _ template
      have isChild := placed.declared.child template
      have old := Nat.lt_of_lt_of_le (placed.lt_size wellFormed template)
        (Nat.le_trans placed.size (marked.document element).1)
      obtain ⟨q, member, isChild'⟩ :=
        placed.follows.exists_parent (covers.source_mem later plain old)
      rw [wellFormed.linked] at isChild isChild'
      obtain rfl := Option.some.inj (isChild.symm.trans isChild')
      exact notIn member
    have own : s.basis.isTemplateOf inner m.source = true ↔ Declares s t m.source := by
      constructor
      · intro template
        exact (placed.template_inner marked template).resolve_left notOwn
      · exact placed.inner_of_declares marked element
    rw [sameDeclares, own]
    simp [notOwn]

end Element

/-! ## Walks -/

theorem not_new_of_eq (same : t.annotations = s.annotations) : ¬ New s t m := by
  rintro ⟨n, isNew, found⟩
  rw [marks, same] at found
  change s.marks n = some m at found
  rw [marks_eq_none isNew] at found
  cases found

theorem rooted_of_texts (grown : Grown parent F s t)
    (texts : ∀ id a, s.annotations.nodes.size ≤ id → t.annotations.get? id = some a →
      a.isText = true) : Rooted owner s t := by
  intro m new
  obtain ⟨id, a, isNew, found, rfl⟩ := exists_of_new new
  have text := texts id a isNew found
  have labelled := grown.labelled id
    (grown.tree.mem_preorder.2 ⟨isNew, AnnotatedTree.lt_size_of_get? found⟩) a found
  have plain : a.isPlain = false := by
    cases shown : a.isPlain with
    | false => rfl
    | true =>
        rw [AnnotatedNode.isText_of_isPlain shown] at text
        cases text
  have root : a.isRoot = false := labelled.isRoot_of_isText text
  simp [AnnotatedNode.mark, plain, root]

theorem Visits.rooted {around : Surroundings} (visits : Visits f around s t)
    (walkable : Walkable around.parent f s) (wellFormed : d.WellFormed)
    (placed : Placed d f around.owner s) : Rooted around.owner s t := by
  refine visits.induct
    (P := fun f around s t => Placed d f around.owner s → Rooted around.owner s t)
    ?_ ?_ ?_ ?_ ?_ walkable placed
  · intro around s _ m new
    exact absurd new (not_new_of_eq rfl)
  · intro around node below s reports silent _ m new
    exact absurd new (not_new_of_eq rfl)
  · intro around node below s text data walkable _
    have here : Visits (.cons node below .nil) around s (s.visitText around node text) :=
      .text data .nil
    obtain ⟨F, grown, -⟩ := here.grown walkable.valid
    apply rooted_of_texts grown
    exact fun id a isNew found =>
      ((shows_visitText s around node text walkable.valid).new id a isNew found).isText
  · intro around node tag below s t u entry below' element found entered under covers walkable inside
      inner placed
    have marked := marked_enter element found
    obtain ⟨F, grown, -⟩ := under.grown inside.valid
    obtain ⟨f', whole⟩ := entered.covers element covers grown walkable.fits
    have apart := walkable.fits.not_mem_below
    have rooted := inner (placed.inside marked element marked.basis apart)
    exact rooted.enclose placed marked element wellFormed rfl marked.basis apart covers whole
      grown.tree (keeps_foldl_identify u entry.opened)
  · intro around f f' g s t u visits visits' first second covers walkable walkable' fits apart placed
    obtain ⟨F, grown, -⟩ := visits.grown walkable.valid
    obtain ⟨G, grown', -⟩ := visits'.grown walkable'.valid
    obtain ⟨g', covers'⟩ := visits'.covers walkable'.valid walkable'.fits
    exact (first placed.first).trans wellFormed placed
      (second (placed.later visits.basis covers.reworks)) covers covers' visits.basis
      grown.tree.size grown'.tree apart

end Pass

/-! ## A file annotated once -/

/-- The roots of a freshly annotated file are the bodies and the templates of its declarations, as
far as these are annotated as they are. -/
theorem isRoot_annotateFile (keepBlanks : Bool) {s : Pass} (fresh : s.annotations = {})
    (wellFormed : s.document.WellFormed) (declared : s.basis.DeclaredIn s.document)
    {id : AnnotatedId} {a : AnnotatedNode}
    (found : (annotateFile keepBlanks s).annotations.get? id = some a) :
    a.isRoot = true ↔ a.isPlain = true ∧
      ((annotateFile keepBlanks s).document.tag? a.source = some "body" ∨
        ∃ n b, (annotateFile keepBlanks s).annotations.get? n = some b ∧ b.isPlain = true ∧
          s.basis.Template b.source a.source) := by
  have walkable := walkable_bodyForest fresh wellFormed
  have placed : Pass.Placed s.document s.document.bodyForest none s := by
    refine ⟨Nat.le_refl _, fun _ _ => rfl, walkable.fits.follows, declared, fun x impossible => ?_⟩
    cases impossible
  have rooted := (visits_annotateFile keepBlanks s).rooted walkable wellFormed placed
  generalize annotateFile keepBlanks s = t at *
  have isNew (n : AnnotatedId) : s.annotations.nodes.size ≤ n := by
    rw [fresh]
    exact Nat.zero_le n
  have new {n : AnnotatedId} {b : AnnotatedNode} (present : t.annotations.get? n = some b) :
      Pass.New s t b.mark :=
    ⟨n, isNew n, by rw [Pass.marks, present, Option.map_some]⟩
  have declares : Pass.Declares s t a.source ↔ ∃ n b, t.annotations.get? n = some b ∧
      b.isPlain = true ∧ s.basis.Template b.source a.source := by
    constructor
    · rintro ⟨m, made, plain, template⟩
      obtain ⟨n, b, -, present, rfl⟩ := Pass.exists_of_new made
      exact ⟨n, b, present, plain, template⟩
    · rintro ⟨n, b, present, plain, template⟩
      exact ⟨b.mark, new present, plain, template⟩
  have unowned : ¬ s.basis.isTemplateOf none a.source = true := Bool.false_ne_true
  rw [← declares]
  refine (rooted a.mark (new found)).trans (and_congr_right fun _ => or_congr_right ?_)
  exact or_iff_right unowned

end ComponentMarkup
