import ComponentMarkup.Proofs.Annotated.BesideEntry

/-!
Twin passes that walk copies of a forest are twins afterwards.
-/

namespace ComponentMarkup

namespace Basis
variable {b b' : Basis} {ρ : NodeId → NodeId} {size : Nat} {owner : Option ComponentId}
  {n n' : NodeId}

/-- The file declares the same components in both, the one time with nodes of other numbers. -/
structure Relocated (ρ : NodeId → NodeId) (size : Nat) (b b' : Basis) : Prop where
  declared : b'.file.declared = b.file.declared
  moved : ∀ id ∈ b.file.declared, b'.declaration id = (b.declaration id).map (·.relocated ρ)
  inside : ∀ id ∈ b.file.declared, ∀ c ∈ b.declaration id,
    c.element < size ∧ ∀ x ∈ c.template, x < size

theorem Relocated.same (relocated : b.Relocated ρ size b')
    (owned : ∀ o ∈ owner, o ∈ b.file.declared) (matched : ∀ m < size, ρ m = n' ↔ m = n) :
    b.Same b' owner n n' where
  declaredBy := by
    rw [declaredBy, declaredBy, relocated.declared]
    refine List.find?_congr fun id member => ?_
    rw [relocated.moved id member]
    cases found : b.declaration id with
    | none => rfl
    | some c =>
        rw [Option.map_some, Option.any_some, Option.any_some, Bool.eq_iff_iff, beq_iff_eq, beq_iff_eq]
        exact matched c.element (relocated.inside id member c found).1
  isTemplateOf := by
    cases owner with
    | none => rfl
    | some id =>
        have member := owned id rfl
        rw [isTemplateOf, isTemplateOf, Option.bind_some, Option.bind_some, relocated.moved id member]
        cases found : b.declaration id with
        | none => rfl
        | some c =>
            rw [Option.map_some, Option.any_some, Option.any_some, Bool.eq_iff_iff, beq_iff_eq,
              beq_iff_eq, Component.relocated, Option.map_eq_some_iff]
            have inside := (relocated.inside id member c found).2
            constructor
            · rintro ⟨x, template, same⟩
              rw [template, (matched x (inside x template)).1 same]
            · intro template
              exact ⟨n, template, (matched n (inside n template)).2 rfl⟩

theorem mem_declared_of_innerOwner {tag : String} (owned : ∀ o ∈ owner, o ∈ b.file.declared) :
    ∀ o ∈ b.innerOwner n tag owner, o ∈ b.file.declared := by
  rw [innerOwner]
  split
  · cases found : b.declaredBy n with
    | none => exact owned
    | some id =>
        intro o isOwner
        rw [← Option.some.inj isOwner]
        exact List.mem_of_find?_eq_some found
  · exact owned

end Basis

namespace Pass

/-- Twins of which the one has `f` before it and the other `f'`, which has its nodes under the
numbers that `ρ` gives them. -/
structure Abreast (ρ : NodeId → NodeId) (d d' : Document) (host : Option AnnotatedId)
    (holder holder' : Option NodeId) (around : Surroundings) (f f' : Forest) (s s' : Pass) : Prop
    extends Twin host s s' where
  left : Awaits d around.parent holder f s
  right : Awaits d' around.parent holder' f' s'
  held : holder'.bind s'.document.data? = holder.bind s.document.data?
  early : ∀ k ∈ host, k < s.annotations.nodes.size
  owned : ∀ o ∈ around.owner, o ∈ s.basis.file.declared
  basis : s.basis.Relocated ρ d.size s'.basis

variable {ρ : NodeId → NodeId} {d d' : Document} {host : Option AnnotatedId}
  {holder holder' : Option NodeId} {around : Surroundings} {node : NodeId} {tag : String}
  {f below below' rest rest' : Forest} {s s' t t' : Pass} {entry : Entry}

theorem Marked.owned {owner inner : Option ComponentId} (marked : Marked owner node tag s t inner)
    (owned : ∀ o ∈ owner, o ∈ s.basis.file.declared) : ∀ o ∈ inner, o ∈ s.basis.file.declared := by
  have through (n : NodeId) := @Basis.mem_declared_of_innerOwner s.basis owner n tag owned
  cases marked with
  | plain _ below =>
      rw [below, innerOwner_basis]
      exact through node
  | structural _ below => rwa [below]
  | split _ _ below =>
      rw [below, innerOwner_basis]
      exact through _

namespace Abreast
variable (abreast : Abreast ρ d d' host holder holder' around (.cons node below rest)
  (.cons (ρ node) below' rest') s s')
include abreast

section Node
variable (tops : below'.tops = below.tops.map ρ)
include tops

theorem children_map : s'.document.children (ρ node) = (s.document.children node).map ρ := by
  rw [← abreast.left.walkable.fits.follows.1, ← abreast.right.walkable.fits.follows.1, tops]

omit tops in
theorem copied_left {n : NodeId} (top : n ∈ below.tops) : Document.Copied d s.document n n :=
  abreast.left.carries.copied n
    (List.mem_cons_of_mem _ (List.mem_append_left _ (Forest.mem_preorder_of_mem_tops top)))

theorem copied_right {n : NodeId} (top : n ∈ below.tops) :
    Document.Copied d' s'.document (ρ n) (ρ n) := by
  refine abreast.right.carries.copied (ρ n)
    (List.mem_cons_of_mem _ (List.mem_append_left _ (Forest.mem_preorder_of_mem_tops ?_)))
  rw [tops]
  exact List.mem_map_of_mem top

theorem text?_child (texts : ∀ child ∈ below.tops, d'.text? (ρ child) = d.text? child) :
    ∀ child ∈ s.document.children node, s'.document.text? (ρ child) = s.document.text? child := by
  intro child member
  rw [← abreast.left.walkable.fits.follows.1] at member
  rw [Document.text?_of_data? (abreast.copied_left member).data,
    Document.text?_of_data? (abreast.copied_right tops member).data, texts child member]

/-- Passes that come to copies are beside each other. -/
theorem beside (copied : Document.Copied d d' node (ρ node))
    (texts : ∀ child ∈ below.tops, d'.text? (ρ child) = d.text? child) :
    Beside host node (ρ node) s s' := by
  have here := copied.carried abreast.left.carries abreast.right.carries List.mem_cons_self
    List.mem_cons_self
  refine ⟨abreast.toTwin, here.data, here.position, ?_⟩
  rw [hasBoundText, hasBoundText, abreast.children_map tops, List.any_map, Bool.eq_iff_iff,
    List.any_eq_true, List.any_eq_true]
  refine exists_congr fun child => and_congr_right fun member => ?_
  rw [Function.comp_apply, abreast.text?_child tops texts child member]

theorem plan (copied : Document.Copied d d' node (ρ node))
    (texts : ∀ child ∈ below.tops, d'.text? (ρ child) = d.text? child)
    (tags : ∀ child ∈ below.tops, d'.tag? (ρ child) = none ↔ d.tag? child = none)
    (wrapped : (Plan.read s.document node tag).2 = .dropped →
      Plan.underDeclaration s.document node = true →
      Plan.wrappedExample s'.document (ρ node) = Plan.wrappedExample s.document node) :
    Plan.read s'.document (ρ node) tag = Plan.read s.document node tag := by
  have here := copied.carried abreast.left.carries abreast.right.carries List.mem_cons_self
    List.mem_cons_self
  obtain ⟨⟨old, -, now⟩, -⟩ := abreast.left.carries
  obtain ⟨⟨old', -, now'⟩, -⟩ := abreast.right.carries
  refine Plan.read_congr here.data
    (Plan.isEmptyBody_map (abreast.children_map tops) (fun child member => ?_)
      (abreast.text?_child tops texts)) (Plan.underDeclaration_of_held ?_) wrapped
  · rw [← abreast.left.walkable.fits.follows.1] at member
    rw [Document.tag?_of_data? (abreast.copied_left member).data,
      Document.tag?_of_data? (abreast.copied_right tops member).data, tags child member]
  · rw [Document.parent?_eq now, Document.parent?_eq now']
    exact abreast.held

end Node

section Element
variable (injective : Function.Injective ρ) (within : ∀ m < d.size, ρ m < d'.size)
  (element : s.document.tag? node = some tag)
include injective within element

/-- Entering copies leaves passes abreast of what is below them. -/
theorem enter (beside : Beside host node (ρ node) s s')
    (plan : Plan.read s'.document (ρ node) tag = Plan.read s.document node tag) :
    Twin host (s.enter around node tag).1 (s'.enter around (ρ node) tag).1 ∧
      (s'.enter around (ρ node) tag).2 = (s.enter around node tag).2 ∧
      ∀ entry ∈ (s.enter around node tag).2,
        Abreast ρ d d' host (some (entry.holder s node)) (some (entry.holder s' (ρ node)))
          entry.inner below below' (s.enter around node tag).1 (s'.enter around (ρ node) tag).1 := by
  have inside := abreast.left.carries.lt_size node List.mem_cons_self
  have element' := beside.element' element
  have fresh : s.basis.Same s'.basis around.owner s.document.size s'.document.size := by
    refine abreast.basis.same abreast.owned fun m isOld => ?_
    have old := Nat.lt_of_lt_of_le isOld abreast.left.size
    have old' := Nat.lt_of_lt_of_le (within m isOld) abreast.right.size
    exact ⟨fun same => absurd same (Nat.ne_of_lt old'), fun same => absurd same (Nat.ne_of_lt old)⟩
  obtain ⟨twin, same, held⟩ := beside.enter element abreast.left.walkable.fits.children_lt
    abreast.right.walkable.fits.children_lt abreast.early around plan
    (abreast.basis.same abreast.owned fun m _ => injective.eq_iff) fresh
  refine ⟨twin, same, fun entry isEntry => ?_⟩
  have found : s.enter around node tag = ((s.enter around node tag).1, some entry) :=
    Prod.ext rfl isEntry
  have found' : s'.enter around (ρ node) tag = ((s'.enter around (ρ node) tag).1, some entry) :=
    Prod.ext rfl (same.trans isEntry)
  have marked := marked_enter element found
  have entered := entered_of_enter abreast.left.walkable.valid found
  refine ⟨twin, abreast.left.inside element found, abreast.right.inside element' found', ?_,
    fun k isHost => Nat.lt_trans (abreast.early k isHost) entered.size.1, ?_, ?_⟩
  · exact held entry isEntry
  · rw [marked.basis]
    exact marked.owned abreast.owned
  · rw [marked.basis, (marked_enter element' found').basis]
    exact abreast.basis

end Element

/-- Passes that are twins when they have walked a tree are abreast of what is behind it. -/
theorem later (visits : Visits (.cons node below .nil) around s t)
    (visits' : Visits (.cons (ρ node) below' .nil) around s' t') {host' : Option AnnotatedId}
    (twin : Twin host' t t') (early : ∀ k ∈ host', k < t.annotations.nodes.size) :
    Abreast ρ d d' host' holder holder' around rest rest' t t' := by
  obtain ⟨left, same⟩ := abreast.left.later visits
  obtain ⟨right, same'⟩ := abreast.right.later visits'
  have kept {holder : Option NodeId} {e e' : Document}
      (same : ∀ q ∈ holder, e'.node? q = e.node? q) : holder.bind e'.data? = holder.bind e.data? := by
    cases holder with
    | none => rfl
    | some q => exact Document.data?_congr (same q rfl)
  refine ⟨twin, left, right, ?_, early, ?_, ?_⟩
  · rw [kept same, kept same', abreast.held]
  · rw [visits.basis]
    exact abreast.owned
  · rw [visits.basis, visits'.basis]
    exact abreast.basis

end Abreast

/-! ## Walks -/

theorem Awaits.source_ne (awaits : Awaits d around.parent holder (.cons node below rest) s)
    {id : AnnotatedId} {a : AnnotatedNode} (found : s.annotations.get? id = some a) :
    a.source ≠ node := by
  rintro rfl
  refine awaits.apart id a.mark ?_ List.mem_cons_self
  rw [marks, found, Option.map_some]

namespace Abreast
variable (abreast : Abreast ρ d d' host holder holder' around (.cons node below rest)
  (.cons (ρ node) (below.map ρ) rest') s s')
include abreast

/-- In copies the same example is given for a template that may not have its directive. -/
theorem wrapped (copied : ∀ n ∈ (Forest.cons node below .nil).preorder, Document.Copied d d' n (ρ n))
    (under : Plan.underDeclaration s.document node = true) :
    Plan.wrappedExample s'.document (ρ node) = Plan.wrappedExample s.document node := by
  have left := abreast.left.carries.first
  have right : d'.Carries s'.document holder' ((Forest.cons node below .nil).map ρ) :=
    abreast.right.carries.first
  have carried : ∀ n ∈ (Forest.cons node below .nil).preorder,
      Document.Copied s.document s'.document n (ρ n) := by
    intro n member
    refine (copied n member).carried left right member ?_
    rw [Forest.preorder_map]
    exact List.mem_map_of_mem member
  exact Plan.wrappedExample_map abreast.left.walkable.fits abreast.right.walkable.fits carried
    (left.held right carried abreast.held) under

variable (injective : Function.Injective ρ) (within : ∀ m < d.size, ρ m < d'.size)
include injective within

theorem visitTree
    (copied : ∀ n ∈ (Forest.cons node below .nil).preorder, Document.Copied d d' n (ρ n))
    (ih : ∀ {around holder holder' s s'},
      Abreast ρ d d' host holder holder' around below (below.map ρ) s s' →
      Twin host (s.visitForest below around) (s'.visitForest (below.map ρ) around)) :
    Twin host (s.visitForest (.cons node below .nil) around)
      (s'.visitForest (.cons (ρ node) (below.map ρ) .nil) around) := by
  have tops := below.tops_map ρ
  have child {n : NodeId} (top : n ∈ below.tops) : Document.Copied d d' n (ρ n) :=
    copied n (List.mem_cons_of_mem _ (List.mem_append_left _ (Forest.mem_preorder_of_mem_tops top)))
  have texts : ∀ n ∈ below.tops, d'.text? (ρ n) = d.text? n := fun n top =>
    Document.text?_of_data? (child top).data
  have tags : ∀ n ∈ below.tops, d'.tag? (ρ n) = none ↔ d.tag? n = none := fun n top => by
    rw [Document.tag?_of_data? (child top).data]
  have here := copied node List.mem_cons_self
  have beside := abreast.beside tops here texts
  cases element : s.document.tag? node with
  | some tag =>
      have element' := beside.element' element
      have plan : Plan.read s'.document (ρ node) tag = Plan.read s.document node tag :=
        abreast.plan tops here texts tags fun _ under => abreast.wrapped copied under
      obtain ⟨twin, same, inner⟩ := abreast.enter injective within element beside plan
      cases entered : (s.enter around node tag).2 with
      | none =>
          rw [visitTree_of_left _ element entered, visitTree_of_left _ element' (same.trans entered)]
          exact twin
      | some entry =>
          rw [visitTree_of_entered _ element entered,
            visitTree_of_entered _ element' (same.trans entered)]
          exact (ih (inner entry entered)).identifyAll entry.opened
  | none =>
      have element' := (Document.tag?_of_data? beside.data).trans element
      have text' := Document.text?_of_data? beside.data
      cases text : s.document.text? node with
      | none =>
          rw [visitTree_of_other _ element text, visitTree_of_other _ element' (text'.trans text)]
          exact abreast.toTwin
      | some contents =>
          have data : s.document.data? node = some (.text contents) := Document.text?_eq_some.1 text
          have data' := beside.data.trans data
          rw [visitTree_of_text _ data, visitTree_of_text _ data']
          exact abreast.toTwin.visitText data data' (fun id a => abreast.left.source_ne)
            (fun id a => abreast.right.source_ne) around

end Abreast

/-- Copies of a forest are walked alike. -/
theorem Abreast.visitForest (injective : Function.Injective ρ) (within : ∀ m < d.size, ρ m < d'.size)
    (copied : ∀ n ∈ f.preorder, Document.Copied d d' n (ρ n))
    (abreast : Abreast ρ d d' host holder holder' around f (f.map ρ) s s') :
    Twin host (s.visitForest f around) (s'.visitForest (f.map ρ) around) := by
  induction f generalizing around holder holder' s s' with
  | nil => exact abreast.toTwin
  | cons node below rest ihBelow ihRest =>
      simp only [Forest.preorder, List.mem_cons, List.mem_append] at copied
      have first : Visits (.cons node below .nil) around s _ :=
        visits_visitForest abreast.left.walkable.valid
      have first' : Visits (.cons (ρ node) (below.map ρ) .nil) around s' _ :=
        visits_visitForest abreast.right.walkable.valid
      have twin := abreast.visitTree injective within
        (fun n member => copied n ((Forest.mem_preorder_tree.1 member).imp_right .inl))
        (ihBelow fun n member => copied n (.inr (.inl member)))
      rw [Forest.map, visitForest_cons, visitForest_cons s' (ρ node)]
      exact ihRest (fun n member => copied n (.inr (.inr member)))
        (abreast.later first first' twin fun k isHost =>
          Nat.lt_of_lt_of_le (abreast.early k isHost) first.size_le)

end Pass
end ComponentMarkup
