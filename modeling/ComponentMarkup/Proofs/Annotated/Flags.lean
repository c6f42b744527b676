import ComponentMarkup.Proofs.Annotated.Sources
import Mathlib.Data.List.Find

/-!
The flags of annotations when a walk is done. Whether a node builds its children is known before
they are visited, so that every decision made below it is final.
-/

namespace ComponentMarkup

/-- Whether a node is a text with a complete binding. -/
def Document.bindsText (d : Document) (node : NodeId) : Bool :=
  match d.text? node with
  | some text => Binding.hasBinding text
  | none => false

theorem Document.bindsText_congr {d d' : Document} {n : NodeId} (same : d'.data? n = d.data? n) :
    d'.bindsText n = d.bindsText n := by
  rw [bindsText, bindsText, text?_congr same]

namespace AnnotatedTree

/-- Whether one of the children is a placeholder. -/
def holdsPlaceholder (t : AnnotatedTree) (id : AnnotatedId) : Bool :=
  (t.children id).any t.isPlaceholder

/-- The flags of an annotation say what its bindings and its children say. -/
structure Flagged (t : AnnotatedTree) (id : AnnotatedId) (a : AnnotatedNode) : Prop where
  buildsChildren : a.buildsChildren = (a.isStructural || t.holdsPlaceholder id)
  hasDataBinding : a.hasDataBinding = (a.hasAttributes || t.holdsPlaceholder id)
  numbered : a.isText = false → a.isNumbered = a.needsIdentifier
  unstripped : a.isText = true → a.stripped = []

variable {s t u : AnnotatedTree} {parent : Option AnnotatedId} {F : Forest} {id : AnnotatedId}

namespace Grows

theorem isNumbered_old (grows : Grows parent F t u) (inside : id < t.nodes.size) :
    u.isNumbered id = t.isNumbered id := by
  obtain ⟨a, found⟩ := get?_isSome inside
  obtain ⟨a', found', core⟩ := grows.core found
  rw [isNumbered_eq found, isNumbered_eq found', AnnotatedNode.isNumbered_of_core core]

theorem holdsPlaceholder_old (grows : Grows parent F t u) (closed : t.Closed)
    (inside : id < t.nodes.size) (other : parent ≠ some id) :
    u.holdsPlaceholder id = t.holdsPlaceholder id := by
  rw [holdsPlaceholder, holdsPlaceholder, grows.children_old inside other]
  refine any_congr_mem fun child member => ?_
  exact grows.isPlaceholder_old (closed.below id child member)

theorem holdsPlaceholder_parent {p : AnnotatedId} (grows : Grows (some p) F t u)
    (closed : t.Closed) (inside : p < t.nodes.size) :
    u.holdsPlaceholder p = (t.holdsPlaceholder p || F.tops.any u.isPlaceholder) := by
  obtain ⟨a, found⟩ := get?_isSome inside
  obtain ⟨a', found', extended, -⟩ := grows.old p a found
  have kept : a.children.any u.isPlaceholder = a.children.any t.isPlaceholder :=
    any_congr_mem fun child member =>
      grows.isPlaceholder_old (closed.below p child (children_eq found ▸ member))
  rw [holdsPlaceholder, holdsPlaceholder, children_eq found', children_eq found,
    extended.children, if_pos rfl, List.any_append, kept]

theorem buildsChildren_old (grows : Grows parent F t u)
    (ready : ∀ p ∈ parent, F.tops.any u.isPlaceholder = true → t.buildsChildren p = true)
    (inside : id < t.nodes.size) : u.buildsChildren id = t.buildsChildren id := by
  obtain ⟨a, found⟩ := get?_isSome inside
  obtain ⟨a', found', extended, -⟩ := grows.old id a found
  rw [buildsChildren_eq found', buildsChildren_eq found, extended.buildsChildren]
  split
  · next isParent =>
    refine Bool.or_eq_left_iff_imp.2 fun bound => ?_
    rw [← buildsChildren_eq found]
    exact ready id isParent bound
  · exact Bool.or_false _

section Kept
variable (grows : Grows parent F t u) (closed : t.Closed)
  (builds : ∀ n < t.nodes.size, u.buildsChildren n = t.buildsChildren n)
include grows closed builds

theorem isBuilt_old (inside : id < t.nodes.size) : u.isBuilt id = t.isBuilt id := by
  rw [isBuilt, isBuilt, grows.parent?_old inside]
  cases under : t.parent? id with
  | none => rfl
  | some q => exact builds q (Nat.lt_trans (closed.above id q under) inside)

theorem nearestBuilt?_old (inside : id < t.nodes.size) :
    u.nearestBuilt? id = t.nearestBuilt? id := by
  have same : u.ancestors id = t.ancestors id :=
    ancestors_congr fun n upTo => grows.parent?_old (Nat.lt_of_le_of_lt upTo inside)
  rw [nearestBuilt?, nearestBuilt?, same]
  refine List.find?_congr fun n above => ?_
  exact grows.isBuilt_old closed builds (Nat.lt_trans (lt_of_mem_ancestors above) inside)

end Kept

/-- An annotation that nothing grows below, and that is on no line, keeps its flags. -/
theorem flagged_old (grows : Grows parent F t u) (closed : t.Closed)
    (valid : ∀ q ∈ parent, q < s.nodes.size) (isNew : s.nodes.size ≤ id) {a : AnnotatedNode}
    (found : t.get? id = some a) (flagged : t.Flagged id a) :
    ∃ a', u.get? id = some a' ∧ u.Flagged id a' := by
  have other : parent ≠ some id := fun same => Nat.not_lt_of_ge isNew (valid id same)
  have notAbove : id ∉ t.line parent := by
    cases parent with
    | none => exact List.not_mem_nil
    | some q =>
        have below : q < id := Nat.lt_of_lt_of_le (valid q rfl) isNew
        rw [line, List.mem_cons, not_or]
        exact ⟨Nat.ne_of_gt below, fun member =>
          Nat.lt_asymm below (lt_of_mem_ancestors member)⟩
  obtain ⟨a', found', extended, query⟩ := grows.old id a found
  rw [if_neg other] at extended
  have builds : a'.buildsChildren = a.buildsChildren := by
    rw [extended.buildsChildren, List.any_nil, Bool.or_false]
  have binding : a'.hasDataBinding = a.hasDataBinding := by
    rw [extended.hasDataBinding, List.any_nil, Bool.or_false]
  have holds := grows.holdsPlaceholder_old closed (lt_size_of_get? found) other
  refine ⟨a', found', ?_, ?_, fun element => ?_, fun text => ?_⟩
  · rw [builds, holds, AnnotatedNode.isStructural_of_core extended.core, flagged.buildsChildren]
  · rw [binding, holds, AnnotatedNode.hasAttributes_of_core extended.core, flagged.hasDataBinding]
  · rw [AnnotatedNode.isText_of_core extended.core] at element
    rw [AnnotatedNode.isNumbered_of_core extended.core, flagged.numbered element,
      AnnotatedNode.needsIdentifier_of_core extended.core binding (query notAbove)]
  · rw [AnnotatedNode.isText_of_core extended.core] at text
    rw [AnnotatedNode.stripped_of_core extended.core, flagged.unstripped text]

end Grows
end AnnotatedTree

namespace Pass

/-- A walk below a node finds it building its children when one of them will be a placeholder. -/
def Ready (parent : Option AnnotatedId) (f : Forest) (s : Pass) : Prop :=
  ∀ p ∈ parent, f.tops.any s.document.bindsText = true → s.annotations.buildsChildren p = true

/-- What a walk of `f` leaves of the flags, and in those of the new annotations. -/
structure Settles (parent : Option AnnotatedId) (f : Forest) (s t : Pass) : Prop where
  bound : ∀ p ∈ parent, t.annotations.holdsPlaceholder p =
    (s.annotations.holdsPlaceholder p || f.tops.any s.document.bindsText)
  builds : ∀ id < s.annotations.nodes.size,
    t.annotations.buildsChildren id = s.annotations.buildsChildren id
  flagged : ∀ id a, s.annotations.nodes.size ≤ id → t.annotations.get? id = some a →
    t.annotations.Flagged id a
  queries : ∀ n, t.annotations.hasQuery n = true ↔ s.annotations.hasQuery n = true ∨
    ∃ d, s.annotations.nodes.size ≤ d ∧ t.annotations.isNumbered d = true ∧
      t.annotations.nearestBuilt? d = some n

variable {s t u : Pass} {parent : Option AnnotatedId} {id : AnnotatedId} {node : NodeId}
  {f f' g below rest F G : Forest}

namespace Settles

theorem same (tree : t.annotations = s.annotations)
    (unbound : ∀ p ∈ parent, f.tops.any s.document.bindsText = false) :
    Settles parent f s t where
  bound p isParent := by rw [tree, unbound p isParent, Bool.or_false]
  builds _ _ := by rw [tree]
  flagged id a isNew found := by
    rw [tree] at found
    exact absurd (AnnotatedTree.lt_size_of_get? found) (Nat.not_lt_of_ge isNew)
  queries n := by
    rw [tree, iff_self_or]
    rintro ⟨d, isNew, numbered, -⟩
    exact absurd (AnnotatedTree.lt_size_of_isNumbered numbered) (Nat.not_lt_of_ge isNew)

theorem trans (first : Settles parent f s t) (second : Settles parent g t u)
    (grows : s.annotations.Grows parent F t.annotations)
    (grows' : t.annotations.Grows parent G u.annotations) (closed : s.annotations.Closed)
    (valid : ∀ q ∈ parent, q < s.annotations.nodes.size)
    (kept : ∀ n ∈ g.tops, t.document.bindsText n = s.document.bindsText n) :
    Settles parent (f.append g) s u := by
  have closed' := grows.closed closed
  refine ⟨fun p isParent => ?_, fun n old => ?_, fun n a isNew found => ?_, fun n => ?_⟩
  · rw [second.bound p isParent, first.bound p isParent, Forest.tops_append, List.any_append,
      any_congr_mem kept, Bool.or_assoc]
  · rw [second.builds n (Nat.lt_of_lt_of_le old grows.size), first.builds n old]
  · rcases Nat.lt_or_ge n t.annotations.nodes.size with inside | outside
    · obtain ⟨b, before⟩ := AnnotatedTree.get?_isSome inside
      obtain ⟨a', after, flagged⟩ :=
        grows'.flagged_old closed' valid isNew before (first.flagged n b isNew before)
      obtain rfl := Option.some.inj (after.symm.trans found)
      exact flagged
    · exact second.flagged n a outside found
  · -- What the first walk numbered still has the same nearest built node above it.
    have split : (∃ d, s.annotations.nodes.size ≤ d ∧ u.annotations.isNumbered d = true ∧
        u.annotations.nearestBuilt? d = some n) ↔
        (∃ d, s.annotations.nodes.size ≤ d ∧ t.annotations.isNumbered d = true ∧
          t.annotations.nearestBuilt? d = some n) ∨
        ∃ d, t.annotations.nodes.size ≤ d ∧ u.annotations.isNumbered d = true ∧
          u.annotations.nearestBuilt? d = some n := by
      constructor
      · rintro ⟨d, isNew, numbered, nearest⟩
        rcases Nat.lt_or_ge d t.annotations.nodes.size with inside | outside
        · rw [grows'.isNumbered_old inside] at numbered
          rw [grows'.nearestBuilt?_old closed' second.builds inside] at nearest
          exact .inl ⟨d, isNew, numbered, nearest⟩
        · exact .inr ⟨d, outside, numbered, nearest⟩
      · rintro (⟨d, isNew, numbered, nearest⟩ | ⟨d, outside, numbered, nearest⟩)
        · have inside := AnnotatedTree.lt_size_of_isNumbered numbered
          rw [← grows'.isNumbered_old inside] at numbered
          rw [← grows'.nearestBuilt?_old closed' second.builds inside] at nearest
          exact ⟨d, isNew, numbered, nearest⟩
        · exact ⟨d, Nat.le_trans grows.size outside, numbered, nearest⟩
    rw [second.queries, first.queries, split, or_assoc]

end Settles

theorem flagged_of_isShown {t : AnnotatedTree} {a : AnnotatedNode} (found : t.get? id = some a)
    (shown : a.IsShown) : t.Flagged id a := by
  have unheld : t.holdsPlaceholder id = false := by
    rw [AnnotatedTree.holdsPlaceholder, AnnotatedTree.children_eq found, shown.children]
    rfl
  have plain : a.isStructural = false ∧ a.hasAttributes = false := by
    have text := shown.isText
    cases a using AnnotatedNode.byKind with
    | text a binding => exact ⟨rfl, rfl⟩
    | _ => cases text
  refine ⟨?_, ?_, fun element => ?_, fun _ => shown.stripped⟩
  · rw [unheld, plain.1, shown.buildsChildren]
    rfl
  · rw [unheld, plain.2, shown.hasDataBinding]
    rfl
  · rw [shown.isText] at element
    cases element

theorem settles_visitText {around : Surroundings} {text : String}
    (data : s.document.data? node = some (.text text))
    (valid : ∀ q ∈ around.parent, q < s.annotations.nodes.size) (closed : s.annotations.Closed)
    (ready : Ready around.parent (.cons node below .nil) s) :
    Settles around.parent (.cons node below .nil) s (s.visitText around node text) := by
  have binds : (Forest.cons node below .nil).tops.any s.document.bindsText =
      Binding.hasBinding text := by
    rw [Forest.tops, Forest.tops, List.any_cons, List.any_nil, Bool.or_false, Document.bindsText,
      Document.text?, data]
  have shows := shows_visitText s around node text valid
  cases under : around.parent with
  | none =>
      rw [visitText_of_none s node under]
      refine .same rfl fun p impossible => ?_
      cases impossible
  | some p =>
      have inside : p < s.annotations.nodes.size := valid p under
      obtain ⟨F, grown, any⟩ := grown_visitText under inside node text
      have grows := grown.tree
      generalize s.visitText around node text = t at *
      refine ⟨fun q isParent => ?_, fun n old => ?_, fun n a isNew found => ?_, fun n => ?_⟩
      · obtain rfl := Option.some.inj isParent
        rw [grows.holdsPlaceholder_parent closed inside, any, binds]
      · refine grows.buildsChildren_old (fun q isParent bound => ?_) old
        exact ready q (under.trans isParent) (binds.trans (any.symm.trans bound))
      · exact flagged_of_isShown found (shows.new n a isNew found)
      · rw [shows.hasQuery, iff_self_or]
        rintro ⟨d, isNew, numbered, -⟩
        obtain ⟨a, found⟩ := AnnotatedTree.get?_isSome (AnnotatedTree.lt_size_of_isNumbered numbered)
        rw [AnnotatedTree.isNumbered_eq found, AnnotatedNode.isNumbered,
          (shows.new d a isNew found).isText, Bool.not_true, Bool.and_false] at numbered
        cases numbered

/-! ## Elements -/

theorem flags_of_isLeaf {directive : Option Directive} {builds : Bool} {a a' : AnnotatedNode}
    {t : AnnotatedTree} {tops : List AnnotatedId} (leaf : a.IsLeaf parent node directive builds)
    (extended : t.Extends tops a a') (found : t.get? id = some a')
    (known : builds = (directive.isSome || tops.any t.isPlaceholder)) :
    a'.buildsChildren = (a'.isStructural || t.holdsPlaceholder id) ∧
      a'.hasDataBinding = (a'.hasAttributes || t.holdsPlaceholder id) := by
  have holds : t.holdsPlaceholder id = tops.any t.isPlaceholder := by
    rw [AnnotatedTree.holdsPlaceholder, AnnotatedTree.children_eq found, extended.children,
      leaf.children, List.nil_append]
  have shape : a'.isStructural = directive.isSome := by
    rw [AnnotatedNode.isStructural_of_core extended.core, AnnotatedNode.isStructural_eq,
      leaf.directive?]
  constructor
  · rw [extended.buildsChildren, leaf.buildsChildren, holds, shape, known]
    cases directive.isSome <;> cases tops.any t.isPlaceholder <;> rfl
  · rw [extended.hasDataBinding, leaf.hasDataBinding, holds,
      AnnotatedNode.hasAttributes_of_core extended.core, known]
    cases a.hasAttributes <;> cases directive.isSome <;> cases tops.any t.isPlaceholder <;> rfl

@[simp] theorem holdsPlaceholder_identify (s : Pass) (id n : AnnotatedId) :
    (s.identify id).annotations.holdsPlaceholder n = s.annotations.holdsPlaceholder n := by
  rw [AnnotatedTree.holdsPlaceholder, AnnotatedTree.holdsPlaceholder, children_identify,
    funext (s.isPlaceholder_identify id)]

theorem flagged_identify_of_lt {n : AnnotatedId} {b : AnnotatedNode} (later : id < n)
    (inside : id < s.annotations.nodes.size)
    (flagged : ∀ a, s.annotations.get? n = some a → s.annotations.Flagged n a)
    (found : (s.identify id).annotations.get? n = some b) :
    (s.identify id).annotations.Flagged n b := by
  obtain ⟨a, here⟩ := AnnotatedTree.get?_isSome inside
  have holds := s.holdsPlaceholder_identify id n
  rcases identify_cases here with ⟨-, same⟩ | ⟨fresh, needed⟩
  · rw [same] at found ⊢
    exact flagged b found
  · rw [get?_identify here fresh needed] at found
    obtain ⟨c, before, rfl⟩ := Option.map_eq_some_iff.1 found
    have unmarked : (s.annotations.nearestBuilt? id == some n) = false := by
      refine beq_eq_false_iff_ne.2 fun marked => ?_
      exact Nat.lt_asymm later (AnnotatedTree.lt_of_nearestBuilt? marked)
    have unnumbered : id ≠ n := Nat.ne_of_lt later
    obtain ⟨builds, binding, numbered, unstripped⟩ := flagged c before
    refine ⟨builds.trans (by rw [holds]; rfl), binding.trans (by rw [holds]; rfl),
      fun element => ?_, unstripped⟩
    simp only [unmarked, Bool.or_false, if_neg unnumbered]
    exact numbered element

theorem flagged_identify_self {directive : Option Directive} {builds : Bool} {a b : AnnotatedNode}
    {tops : List AnnotatedId} (leaf : a.IsLeaf parent node directive builds)
    (extended : ∀ a', s.annotations.get? id = some a' → s.annotations.Extends tops a a')
    (inside : id < s.annotations.nodes.size)
    (known : builds = (directive.isSome || tops.any s.annotations.isPlaceholder))
    (found : (s.identify id).annotations.get? id = some b) :
    (s.identify id).annotations.Flagged id b := by
  obtain ⟨a', here⟩ := AnnotatedTree.get?_isSome inside
  have extended := extended a' here
  obtain ⟨builds, binding⟩ := flags_of_isLeaf leaf extended here known
  have holds := s.holdsPlaceholder_identify id id
  have label : a'.identifier = if a'.isRoot then some rootIdentifier else none := by
    rw [AnnotatedNode.identifier_of_core extended.core, AnnotatedNode.isRoot_of_core extended.core]
    exact leaf.identifier
  have isElement : a'.isText = false :=
    (AnnotatedNode.isText_of_core extended.core).trans leaf.isText
  have unstripped : a'.isText = true → a'.stripped = [] := fun text => by
    rw [isElement] at text
    cases text
  rcases identify_cases here with ⟨settled, same⟩ | ⟨fresh, needed⟩
  · rw [same] at found ⊢
    obtain rfl := Option.some.inj (here.symm.trans found)
    refine ⟨builds, binding, fun _ => ?_, unstripped⟩
    rw [AnnotatedNode.isNumbered]
    cases root : a'.isRoot with
    | true =>
        rw [AnnotatedNode.needsIdentifier_eq, root, Bool.not_true, Bool.and_false, Bool.false_and,
          Bool.false_and]
    | false =>
        rw [root, if_neg Bool.false_ne_true] at label
        rw [label, Option.isSome_none, Bool.false_or, Bool.not_eq_true'] at settled
        rw [label, settled]
        rfl
  · rw [get?_identify here fresh needed, here, Option.map_some] at found
    obtain rfl := Option.some.inj found
    have unmarked : (s.annotations.nearestBuilt? id == some id) = false :=
      beq_eq_false_iff_ne.2 fun marked =>
        Nat.lt_irrefl _ (AnnotatedTree.lt_of_nearestBuilt? marked)
    have root : a'.isRoot = false := by
      rw [AnnotatedNode.needsIdentifier_eq, Bool.and_eq_true, Bool.not_eq_true'] at needed
      exact needed.1
    refine ⟨builds.trans (by rw [holds]; rfl), binding.trans (by rw [holds]; rfl), fun _ => ?_,
      unstripped⟩
    simp only [unmarked, Bool.or_false, if_true]
    refine Eq.trans ?_ needed.symm
    change (true && !a'.isRoot && !a'.isText) = true
    rw [root, isElement]
    rfl

/-- The placeholders below an element that was a leaf are those of the walk below it. -/
theorem Settles.any_isPlaceholder {a a' : AnnotatedNode} {tops : List AnnotatedId}
    (inner : Settles (some id) g t u) (here : t.annotations.get? id = some a)
    (leaf : a.children = []) (here' : u.annotations.get? id = some a')
    (extended : u.annotations.Extends tops a a') :
    tops.any u.annotations.isPlaceholder = g.tops.any t.document.bindsText := by
  have holds := inner.bound id rfl
  have unheld : t.annotations.holdsPlaceholder id = false := by
    rw [AnnotatedTree.holdsPlaceholder, AnnotatedTree.children_eq here, leaf]
    rfl
  rw [unheld, Bool.false_or, AnnotatedTree.holdsPlaceholder, AnnotatedTree.children_eq here',
    extended.children, leaf, List.nil_append] at holds
  exact holds

/-- Numbering a node adds the query for it to those for the nodes made after it. -/
theorem queries_identify {a : AnnotatedNode} {n : AnnotatedId} {asked : Prop}
    (here : s.annotations.get? id = some a) (element : a.isText = false)
    (before : s.annotations.isNumbered id = false)
    (queries : s.annotations.hasQuery n = true ↔ asked ∨
      ∃ d, id + 1 ≤ d ∧ s.annotations.isNumbered d = true ∧
        s.annotations.nearestBuilt? d = some n) :
    (s.identify id).annotations.hasQuery n = true ↔ asked ∨
      ∃ d, id ≤ d ∧ (s.identify id).annotations.isNumbered d = true ∧
        (s.identify id).annotations.nearestBuilt? d = some n := by
  rcases identify_cases here with ⟨-, same⟩ | ⟨unlabelled, needed⟩
  · rw [same, queries]
    refine or_congr_right ⟨?_, ?_⟩
    · rintro ⟨d, late, numbered, nearest⟩
      exact ⟨d, Nat.le_of_succ_le late, numbered, nearest⟩
    · rintro ⟨d, isNew, numbered, nearest⟩
      rcases Nat.eq_or_lt_of_le isNew with rfl | late
      · rw [before] at numbered
        cases numbered
      · exact ⟨d, late, numbered, nearest⟩
  · have numbered_iff := isNumbered_identify here unlabelled needed element
    rw [hasQuery_identify here unlabelled needed, queries, or_assoc]
    refine or_congr_right ⟨?_, ?_⟩
    · rintro (⟨d, late, numbered, nearest⟩ | nearest)
      · exact ⟨d, Nat.le_of_succ_le late, (numbered_iff d).2 (.inl numbered),
          (s.nearestBuilt?_identify id d).trans nearest⟩
      · exact ⟨id, Nat.le_refl id, (numbered_iff id).2 (.inr rfl),
          (s.nearestBuilt?_identify id id).trans nearest⟩
    · rintro ⟨d, isNew, numbered, nearest⟩
      rw [nearestBuilt?_identify] at nearest
      rcases (numbered_iff d).1 numbered with earlier | rfl
      · rcases Nat.eq_or_lt_of_le isNew with rfl | late
        · exact .inr nearest
        · exact .inl ⟨d, late, earlier, nearest⟩
      · exact .inr nearest

/-- An element is numbered when all below it is settled. -/
theorem Settles.enclose {directive : Option Directive} {builds : Bool}
    (opened : s.annotations.Opened parent id (·.IsLeaf parent node directive builds) t.annotations)
    (known : builds = (directive.isSome || g.tops.any t.document.bindsText))
    (inner : Settles (some id) g t u) (grows : t.annotations.Grows (some id) F u.annotations)
    (whole : s.annotations.Grows parent (.cons id F .nil) (u.identify id).annotations)
    (closed : s.annotations.Closed) (valid : ∀ q ∈ parent, q < s.annotations.nodes.size)
    (element : s.document.bindsText node = false) :
    Settles parent (.cons node below .nil) s (u.identify id) := by
  obtain ⟨a, here, leaf⟩ := opened.here
  obtain ⟨a', here', extended, -⟩ := grows.old id a here
  rw [if_pos rfl] at extended
  have inside := AnnotatedTree.lt_size_of_get? here'
  have isText : a'.isText = false :=
    (AnnotatedNode.isText_of_core extended.core).trans leaf.isText
  have size : t.annotations.nodes.size = s.annotations.nodes.size + 1 := opened.size
  have fresh : id = s.annotations.nodes.size := opened.fresh
  have bound := inner.any_isPlaceholder here leaf.children here' extended
  refine ⟨fun p isParent => ?_, fun n old => ?_, fun n b isNew found => ?_, fun n => ?_⟩
  · obtain rfl : parent = some p := isParent
    have plain : (u.identify id).annotations.isPlaceholder id = false := by
      rw [isPlaceholder_identify, AnnotatedTree.isPlaceholder_eq here']
      exact AnnotatedNode.isPlaceholder_of_element isText
    rw [whole.holdsPlaceholder_parent closed (valid p rfl), Forest.tops, Forest.tops, Forest.tops,
      Forest.tops, List.any_cons, List.any_cons, plain, element]
    rfl
  · obtain ⟨b, before⟩ := AnnotatedTree.get?_isSome old
    obtain ⟨b', after, -, -, -, kept, -⟩ := opened.elsewhere n b before
    rw [buildsChildren_identify, inner.builds n (Nat.lt_trans old (size ▸ Nat.lt_succ_self _)),
      AnnotatedTree.buildsChildren_eq after, AnnotatedTree.buildsChildren_eq before, kept]
  · rcases Nat.eq_or_lt_of_le isNew with first | later
    · obtain rfl : n = id := first.symm.trans fresh.symm
      refine flagged_identify_self leaf (fun c found => ?_) inside (known.trans (by rw [bound])) found
      obtain rfl := Option.some.inj (here'.symm.trans found)
      exact extended
    · refine flagged_identify_of_lt (fresh ▸ later) inside (fun c found => ?_) found
      exact inner.flagged n c (size ▸ later) found
  · have unset : t.annotations.hasQuery n = s.annotations.hasQuery n :=
      opened.hasQuery_eq (fun _ leaf => leaf.hasQuery) n
    have unnumbered : a.identifier.isSome = a.isRoot := by
      rw [leaf.identifier]
      cases a.isRoot <;> rfl
    -- Nothing below numbers the element itself: numbers are drawn on the way out.
    have before : u.annotations.isNumbered id = false := by
      rw [AnnotatedTree.isNumbered_eq here', AnnotatedNode.isNumbered_of_core extended.core,
        AnnotatedNode.isNumbered, unnumbered]
      cases a.isRoot <;> rfl
    have queries := inner.queries n
    rw [unset, size, ← fresh] at queries
    have numbered := queries_identify here' isText before queries
    rwa [fresh] at numbered ⊢

theorem bindsText_of_element {d : Document} {tag : String} (element : d.tag? node = some tag) :
    d.bindsText node = false := by
  obtain ⟨attributes, data⟩ := Document.tag?_eq_some.1 element
  rw [Document.bindsText, Document.text?, data]

theorem EntersAs.hasBoundText_eq {tag : String} {directive : Option Directive}
    (enters : EntersAs parent node tag directive s t)
    (fits : s.document.Fits (.cons node below rest)) :
    s.hasBoundText node = below.tops.any t.document.bindsText := by
  obtain ⟨f, -, document⟩ := enters.document
  rw [fits.follows.1, document]
  refine any_congr_mem fun child _ => ?_
  have same : (s.document.mapAttributes node f).bindsText child = s.document.bindsText child := by
    rw [Document.bindsText, Document.bindsText, Document.text?_mapAttributes]
  exact same.symm

theorem EntersAs.ready {tag : String} {directive : Option Directive}
    (enters : EntersAs parent node tag directive s t)
    (fits : s.document.Fits (.cons node below rest)) :
    Ready (some s.annotations.nodes.size) below t := by
  intro p isNew bound
  obtain rfl := Option.some.inj isNew
  obtain ⟨a, here, leaf⟩ := enters.tree.here
  rw [AnnotatedTree.buildsChildren_eq here, leaf.buildsChildren, enters.hasBoundText_eq fits, bound,
    Bool.or_true]

theorem Entered.ready {tag : String} {entry : Entry}
    (entered : Entered parent node tag s t entry) (element : s.document.tag? node = some tag)
    (fits : s.document.Fits (.cons node below .nil)) : Ready entry.inner.parent below t := by
  rcases entered.cases element fits with
    ⟨directive, enters, -, inner⟩ | ⟨d, host, divided, -, inner⟩
  · rw [inner]
    exact enters.ready fits
  · rw [inner, ← divided.size_host]
    exact divided.content.ready divided.fits

theorem Entered.settles {tag : String} {entry : Entry}
    (entered : Entered parent node tag s t entry) (element : s.document.tag? node = some tag)
    (inner : Settles entry.inner.parent below t u)
    (grown : Grown entry.inner.parent F t u)
    (walkable : Walkable parent (.cons node below .nil) s) :
    Settles parent (.cons node below .nil) s (entry.opened.foldl identify u) := by
  have fits := walkable.fits
  rcases entered.cases element fits with
    ⟨directive, enters, opened, inner'⟩ | ⟨d, host, divided, opened, inner'⟩
  · rw [inner'] at inner grown
    obtain ⟨whole, top⟩ := enters.grown grown walkable.valid
    rw [opened]
    refine .enclose enters.tree ?_ inner grown.tree (whole.identify top walkable.valid).tree
      walkable.closed walkable.valid (bindsText_of_element element)
    rw [enters.hasBoundText_eq fits]
  · rw [inner'] at inner grown
    have numbered := divided.numbered grown
    rw [← divided.size_host] at inner grown
    -- From the inside out: the content is settled first, and with it what is below the host.
    have content : Settles (some s.annotations.nodes.size) (.cons s.document.size below .nil)
        (host.mapDocument fun _ => d) (u.identify (s.annotations.nodes.size + 1)) := by
      obtain ⟨whole, top⟩ := divided.content.grown grown divided.valid
      rw [← divided.size_host]
      refine .enclose divided.content.tree ?_ inner grown.tree
        (whole.identify top divided.valid).tree (divided.closed walkable.valid walkable.closed)
        divided.valid (bindsText_of_element divided.element)
      rw [divided.content.hasBoundText_eq divided.fits]
    obtain ⟨condition, enters⟩ := divided.enters
    obtain ⟨whole, top⟩ := enters.grown numbered walkable.valid
    rw [opened]
    exact .enclose (t := host.mapDocument fun _ => d) enters.tree rfl content numbered.tree
      (whole.identify top walkable.valid).tree walkable.closed walkable.valid
      (bindsText_of_element element)

/-! ## Walks -/

theorem Covers.bindsText_later (covers : Covers f f' s t) (fits : s.document.Fits g)
    (apart : ∀ n ∈ g.preorder, n ∉ f.preorder) :
    ∀ n ∈ g.tops, t.document.bindsText n = s.document.bindsText n := by
  intro n top
  have member := Forest.mem_preorder_of_mem_tops top
  exact Document.bindsText_congr (Document.data?_congr
    (covers.reworks.outside n (fits.inside n member) (apart n member)))

theorem Ready.first (ready : Ready parent (f.append g) s) : Ready parent f s := by
  intro p isParent bound
  refine ready p isParent ?_
  rw [Forest.tops_append, List.any_append, bound, Bool.true_or]

theorem Ready.later (ready : Ready parent (f.append g) s) (settled : Settles parent f s t)
    (valid : ∀ q ∈ parent, q < s.annotations.nodes.size)
    (kept : ∀ n ∈ g.tops, t.document.bindsText n = s.document.bindsText n) :
    Ready parent g t := by
  intro p isParent bound
  rw [settled.builds p (valid p isParent)]
  rw [any_congr_mem kept] at bound
  refine ready p isParent ?_
  rw [Forest.tops_append, List.any_append, bound, Bool.or_true]

/-- Every walk settles the flags of what it annotates. -/
theorem Visits.settles {f : Forest} {around : Surroundings} (visits : Visits f around s t)
    (walkable : Walkable around.parent f s) (ready : Ready around.parent f s) :
    Settles around.parent f s t := by
  refine visits.induct
    (P := fun f around s t => Ready around.parent f s → Settles around.parent f s t)
    ?_ ?_ ?_ ?_ ?_ walkable ready
  · exact fun around s _ => .same rfl fun _ _ => rfl
  · intro around node below s reports silent _
    refine .same rfl fun _ _ => ?_
    rw [Forest.tops, Forest.tops, List.any_cons, Document.bindsText, silent]
    rfl
  · intro around node below s text data walkable ready
    exact settles_visitText data walkable.valid walkable.closed ready
  · intro around node tag below s t u entry below' element _ entered under _ walkable inside inner _
    obtain ⟨F, grown, -⟩ := under.grown inside.valid
    exact entered.settles element (inner (entered.ready element walkable.fits)) grown walkable
  · intro around f f' g s t u visits visits' first second covers walkable walkable' fits apart ready
    obtain ⟨F, grown, -⟩ := visits.grown walkable.valid
    obtain ⟨G, grown', -⟩ := visits'.grown walkable'.valid
    have kept := covers.bindsText_later fits apart
    have settled := first ready.first
    exact settled.trans (second (ready.later settled walkable.valid kept)) grown.tree grown'.tree
      walkable.closed walkable.valid kept

end Pass
end ComponentMarkup
