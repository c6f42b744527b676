import ComponentMarkup.Proofs.Annotated.Rows
import ComponentMarkup.Proofs.Annotated.Written

/-!
The sources of all annotations of a walk, texts included: each is walked or new, no two annotations
share one, and every new node is the source of an annotation.
-/

namespace ComponentMarkup.Pass

/-- Where the annotations that the walk of `f` from `s` to `t` made have their sources. -/
structure Sourced (f : Forest) (s t : Pass) : Prop where
  located : ∀ id a, s.annotations.nodes.size ≤ id → t.annotations.get? id = some a →
    a.source ∈ f.preorder ∨ s.document.size ≤ a.source ∧ a.source < t.document.size
  apart : ∀ id id' a a', s.annotations.nodes.size ≤ id → s.annotations.nodes.size ≤ id' →
    t.annotations.get? id = some a → t.annotations.get? id' = some a' → a.source = a'.source →
    id = id'
  made : ∀ n, s.document.size ≤ n → n < t.document.size →
    ∃ id a, s.annotations.nodes.size ≤ id ∧ t.annotations.get? id = some a ∧ a.source = n

variable {s t u : Pass} {parent : Option AnnotatedId} {id : AnnotatedId} {node : NodeId}
  {tag : String} {f f' g below below' rest F G : Forest} {a : AnnotatedNode}

namespace Sourced

theorem same (tree : t.annotations = s.annotations) (size : t.document.size = s.document.size) :
    Sourced f s t := by
  have none (id : AnnotatedId) (a : AnnotatedNode) (isNew : s.annotations.nodes.size ≤ id) :
      t.annotations.get? id ≠ some a := fun found =>
    Nat.not_lt_of_ge isNew (tree ▸ AnnotatedTree.lt_size_of_get? found)
  exact ⟨fun id a isNew found => absurd found (none id a isNew),
    fun id _ a _ isNew _ found => absurd found (none id a isNew),
    fun n isNew inside => absurd (size ▸ inside) (Nat.not_lt_of_ge isNew)⟩

/-- A single annotation on a node that was walked. -/
theorem single (size : t.annotations.nodes.size = s.annotations.nodes.size + 1)
    (here : t.annotations.get? s.annotations.nodes.size = some a) (source : a.source ∈ f.preorder)
    (nodes : t.document.size = s.document.size) : Sourced f s t := by
  have last {id : AnnotatedId} {b : AnnotatedNode} (isNew : s.annotations.nodes.size ≤ id)
      (found : t.annotations.get? id = some b) : id = s.annotations.nodes.size := by
    have inside := AnnotatedTree.lt_size_of_get? found
    rw [size] at inside
    exact Nat.le_antisymm (Nat.le_of_lt_succ inside) isNew
  refine ⟨fun id b isNew found => ?_, fun id id' b b' isNew isNew' found found' _ => ?_,
    fun n isNew inside => absurd (nodes ▸ inside) (Nat.not_lt_of_ge isNew)⟩
  · obtain rfl := last isNew found
    obtain rfl := Option.some.inj (here.symm.trans found)
    exact .inl source
  · rw [last isNew found, last isNew' found']

theorem of_adds {p : AnnotatedId} {position : Position} {pieces : List (String × Option Binding.Expr)}
    (adds : Adds p position pieces s t) : Sourced f s t := by
  have within {id : AnnotatedId} {b : AnnotatedNode} (found : t.annotations.get? id = some b) :
      id < s.annotations.nodes.size + pieces.length :=
    adds.size ▸ AnnotatedTree.lt_size_of_get? found
  refine ⟨fun id b isNew found => .inr ?_, fun id id' b b' isNew isNew' found found' same => ?_,
    fun n isNew inside => ?_⟩
  · rw [adds.source id b isNew found, adds.nodes]
    exact ⟨Nat.le_add_right _ _,
      Nat.add_lt_add_left (Nat.sub_lt_left_of_lt_add isNew (within found)) _⟩
  · rw [adds.source id b isNew found, adds.source id' b' isNew' found'] at same
    have shifted := (Nat.sub_eq_iff_eq_add isNew).1 (Nat.add_left_cancel same)
    exact shifted.trans (Nat.sub_add_cancel isNew')
  · rw [adds.nodes] at inside
    have early : n - s.document.size < pieces.length := Nat.sub_lt_left_of_lt_add isNew inside
    obtain ⟨b, found⟩ := AnnotatedTree.get?_isSome
      (adds.size ▸ Nat.add_lt_add_left early s.annotations.nodes.size)
    refine ⟨_, b, Nat.le_add_right _ _, found, ?_⟩
    rw [adds.source _ b (Nat.le_add_right _ _) found, Nat.add_sub_cancel_left,
      Nat.add_sub_cancel' isNew]

theorem trans (first : Sourced f s t) (second : Sourced g t u)
    (grows : s.annotations.Grows parent F t.annotations)
    (grows' : t.annotations.Grows parent G u.annotations)
    (size : s.document.size ≤ t.document.size) (size' : t.document.size ≤ u.document.size)
    (earlier : s.document.Fits f) (fits : s.document.Fits g)
    (apart : ∀ n ∈ g.preorder, n ∉ f.preorder) : Sourced (f.append g) s u := by
  -- An annotation is of the first walk and still has its source, or it is of the second one.
  have cases {id : AnnotatedId} {b : AnnotatedNode} (isNew : s.annotations.nodes.size ≤ id)
      (found : u.annotations.get? id = some b) :
      (∃ c, t.annotations.get? id = some c ∧ c.source = b.source ∧
        (b.source ∈ f.preorder ∨ s.document.size ≤ b.source ∧ b.source < t.document.size)) ∨
      t.annotations.nodes.size ≤ id ∧
        (b.source ∈ g.preorder ∨ t.document.size ≤ b.source ∧ b.source < u.document.size) := by
    rcases Nat.lt_or_ge id t.annotations.nodes.size with inside | outside
    · obtain ⟨c, before, core⟩ := grows'.get?_old inside found
      have source := AnnotatedNode.source_of_core core
      exact .inl ⟨c, before, source.symm, source ▸ first.located id c isNew before⟩
    · exact .inr ⟨outside, second.located id b outside found⟩
  have never {n : NodeId} (early : n ∈ f.preorder ∨ s.document.size ≤ n ∧ n < t.document.size)
      (late : n ∈ g.preorder ∨ t.document.size ≤ n ∧ n < u.document.size) : False := by
    rcases late with late | ⟨late, -⟩
    · exact early.elim (apart n late) fun isNew => Nat.not_lt_of_ge isNew.1 (fits.inside n late)
    · refine Nat.not_lt_of_ge late (early.elim (fun member => ?_) And.right)
      exact Nat.lt_of_lt_of_le (earlier.inside n member) size
  refine ⟨fun id b isNew found => ?_, fun id id' b b' isNew isNew' found found' same => ?_,
    fun n isNew inside => ?_⟩
  · rw [Forest.preorder_append, List.mem_append]
    rcases cases isNew found with ⟨-, -, -, member | new⟩ | ⟨-, member | new⟩
    · exact .inl (.inl member)
    · exact .inr ⟨new.1, Nat.lt_of_lt_of_le new.2 size'⟩
    · exact .inl (.inr member)
    · exact .inr ⟨Nat.le_trans size new.1, new.2⟩
  · rcases cases isNew found with ⟨c, before, source, early⟩ | ⟨late, origin⟩
    · rcases cases isNew' found' with ⟨c', before', source', -⟩ | ⟨-, origin'⟩
      · exact first.apart id id' c c' isNew isNew' before before'
          (source.trans (same.trans source'.symm))
      · exact (never early (same ▸ origin')).elim
    · rcases cases isNew' found' with ⟨-, -, -, early'⟩ | ⟨late', -⟩
      · exact (never early' (same ▸ origin)).elim
      · exact second.apart id id' b b' late late' found found' same
  · rcases Nat.lt_or_ge n t.document.size with early | late
    · obtain ⟨id, c, made, before, rfl⟩ := first.made n isNew early
      obtain ⟨b, found, core⟩ := grows'.core before
      exact ⟨id, b, made, found, AnnotatedNode.source_of_core core⟩
    · obtain ⟨id, b, made, found, rfl⟩ := second.made n late inside
      exact ⟨id, b, Nat.le_trans grows.size made, found, rfl⟩

/-- An element with what has been annotated below it. -/
theorem enclose {P : AnnotatedNode → Prop}
    (opened : s.annotations.Opened parent id P t.annotations)
    (leaf : ∀ a, P a → a.source = node ∧ a.isText = false) (inner : Sourced g t u)
    (grows : t.annotations.Grows (some id) F u.annotations)
    (size : s.document.size ≤ t.document.size) (size' : t.document.size ≤ u.document.size)
    (origin : ∀ n ∈ g.preorder,
      n ∈ below.preorder ∨ s.document.size ≤ n ∧ n < t.document.size)
    (fresh : ∀ n, s.document.size ≤ n → n < t.document.size →
      ∃ id a, t.annotations.nodes.size ≤ id ∧ u.annotations.get? id = some a ∧ a.source = n)
    (fits : s.document.Fits (.cons node below .nil)) :
    Sourced (.cons node below .nil) s (u.identify id) := by
  obtain ⟨a, here, holds⟩ := opened.here
  obtain ⟨a', found, core⟩ := grows.core here
  have source : a'.source = node := (AnnotatedNode.source_of_core core).trans (leaf a holds).1
  have element : u.annotations.element? id = some node := by
    rw [AnnotatedTree.element?_eq found
      ((AnnotatedNode.isText_of_core core).trans (leaf a holds).2), source]
  obtain ⟨k, identified⟩ := document_identify element
  have node_lt : node < s.document.size := fits.inside node List.mem_cons_self
  have cases {n : AnnotatedId} {b : AnnotatedNode} (isNew : s.annotations.nodes.size ≤ n)
      (after : (u.identify id).annotations.get? n = some b) : n = id ∧ b.source = node ∨
      t.annotations.nodes.size ≤ n ∧ ∃ c, u.annotations.get? n = some c ∧ c.source = b.source ∧
        (b.source ∈ below.preorder ∨ s.document.size ≤ b.source ∧ b.source < u.document.size) := by
    obtain ⟨c, query, identifier, before, rfl, -⟩ := get?_of_identify after
    by_cases same : n = id
    · subst same
      obtain rfl := Option.some.inj (found.symm.trans before)
      exact .inl ⟨rfl, source⟩
    · have later : t.annotations.nodes.size ≤ n := by
        rw [opened.size]
        exact Nat.lt_of_le_of_ne isNew fun isLast => same (isLast.symm.trans opened.fresh.symm)
      refine .inr ⟨later, c, before, rfl, ?_⟩
      rcases inner.located n c later before with member | new
      · exact (origin c.source member).imp_right fun new => ⟨new.1, Nat.lt_of_lt_of_le new.2 size'⟩
      · exact .inr ⟨Nat.le_trans size new.1, new.2⟩
  have never {n : NodeId} (isNode : n = node)
      (late : n ∈ below.preorder ∨ s.document.size ≤ n ∧ n < u.document.size) : False := by
    subst isNode
    exact late.elim fits.not_mem_below fun new => Nat.not_lt_of_ge new.1 node_lt
  refine ⟨fun n b isNew after => ?_, fun n n' b b' isNew isNew' after after' same => ?_,
    fun n isNew inside => ?_⟩
  · rw [identified, Document.size_mapAttributes, Forest.mem_preorder_tree]
    rcases cases isNew after with ⟨-, isNode⟩ | ⟨-, -, -, -, member | new⟩
    · exact .inl (.inl isNode)
    · exact .inl (.inr member)
    · exact .inr new
  · rcases cases isNew after with ⟨here, isNode⟩ | ⟨late, c, before, source, origin⟩
    · rcases cases isNew' after' with ⟨here', -⟩ | ⟨-, -, -, -, origin'⟩
      · exact here.trans here'.symm
      · exact (never isNode (same ▸ origin')).elim
    · rcases cases isNew' after' with ⟨-, isNode⟩ | ⟨late', c', before', source', -⟩
      · exact (never isNode (same ▸ origin)).elim
      · exact inner.apart n n' c c' late late' before before'
          (source.trans (same.trans source'.symm))
  · rw [identified, Document.size_mapAttributes] at inside
    obtain ⟨n', c, isNew', before, rfl⟩ : ∃ id a, t.annotations.nodes.size ≤ id ∧
        u.annotations.get? id = some a ∧ a.source = n := by
      rcases Nat.lt_or_ge n t.document.size with early | late
      · exact fresh n isNew early
      · exact inner.made n late inside
    obtain ⟨b, after⟩ : ∃ b, (u.identify id).annotations.get? n' = some b :=
      AnnotatedTree.get?_isSome (by
        rw [size_identify]
        exact AnnotatedTree.lt_size_of_get? before)
    obtain ⟨c', query, identifier, before', rfl, -⟩ := get?_of_identify after
    obtain rfl := Option.some.inj (before.symm.trans before')
    exact ⟨n', _, Nat.le_trans (Nat.le_of_lt (opened.size ▸ Nat.lt_succ_self _)) isNew', after, rfl⟩

end Sourced

/-! ## Walks -/

theorem sourced_visitText {around : Surroundings} {text : String}
    (valid : ∀ q ∈ around.parent, q < s.annotations.nodes.size) :
    Sourced (.cons node below .nil) s (s.visitText around node text) := by
  cases under : around.parent with
  | none =>
      rw [visitText_of_none s node under]
      exact .same rfl rfl
  | some p =>
      have inside : p < s.annotations.nodes.size := valid p under
      cases bound : Binding.hasBinding text with
      | true =>
          have adds : Adds p (s.document.position node) ((Binding.scan text).shown around.keepBlanks)
              (s.takeOverChildren p) (s.visitText around node text) :=
            adds_visitText under inside bound
          have size : (s.takeOverChildren p).annotations.nodes.size = s.annotations.nodes.size :=
            s.annotations.size_update p _
          have sourced : Sourced (.cons node below .nil) (s.takeOverChildren p) _ := .of_adds adds
          exact ⟨fun id a isNew => sourced.located id a (size ▸ isNew),
            fun id id' a a' isNew isNew' => sourced.apart id id' a a' (size ▸ isNew) (size ▸ isNew'),
            fun n isNew early => (size ▸ sourced.made n isNew early)⟩
      | false =>
          obtain ⟨m, same, shown⟩ := visitText_of_unbound s node under bound
          have unread : m.annotations = s.annotations ∧ m.document.size = s.document.size := by
            rcases same with rfl | ⟨contents, rfl⟩
            · exact ⟨rfl, rfl⟩
            · exact ⟨rfl, s.document.size_setText node contents⟩
          have size : m.annotations.nodes.size = s.annotations.nodes.size := by rw [unread.1]
          rcases shown with shown | shown
          · rw [shown]
            exact .same unread.1 unread.2
          · have valid' : ∀ q ∈ some p, q < m.annotations.nodes.size := fun q isParent =>
              Option.some.inj isParent ▸ size.symm ▸ inside
            have here := m.annotations.get?_add_self node (some p) (.text none) valid'
            rw [size] at here
            rw [shown]
            refine .single ?_ here List.mem_cons_self unread.2
            rw [annotations_annotate, AnnotatedTree.size_add, size]

theorem Entered.sourced {entry : Entry} (entered : Entered parent node tag s t entry)
    (element : s.document.tag? node = some tag) (inner : Sourced below t u)
    (covers : Covers below below' t u) (grown : Grown entry.inner.parent F t u)
    (fits : s.document.Fits (.cons node below .nil)) :
    Sourced (.cons node below .nil) s (entry.opened.foldl identify u) := by
  have size' := covers.reworks.size
  rcases entered.cases element fits with
    ⟨directive, enters, opened, inner'⟩ | ⟨d, host, divided, opened, inner'⟩
  · rw [inner'] at grown
    obtain ⟨f, -, document⟩ := enters.document
    have size : t.document.size = s.document.size := by rw [document, Document.size_mapAttributes]
    rw [opened]
    exact .enclose enters.tree (fun a leaf => ⟨leaf.source, leaf.isText⟩) inner grown.tree
      (Nat.le_of_eq size.symm) size' (fun n member => .inl member)
      (fun n isNew early => absurd (size ▸ early) (Nat.not_lt_of_ge isNew)) fits
  · rw [inner'] at grown
    have numbered := (divided.numbered grown).tree
    have size := divided.document_size
    have same := document_identify_of_built (divided.isBuilt grown)
    have larger : (host.mapDocument fun _ => d).document.size = s.document.size + 1 := divided.size
    obtain ⟨condition, enters⟩ := divided.enters
    rw [← divided.size_host] at grown
    obtain ⟨-, contentSource⟩ := divided.content.after grown.tree
    have content : Sourced (.cons s.document.size below .nil) (host.mapDocument fun _ => d)
        (u.identify (host.mapDocument fun _ => d).annotations.nodes.size) :=
      .enclose divided.content.tree (fun a leaf => ⟨leaf.source, leaf.isText⟩) inner grown.tree
        (Nat.le_of_eq (larger.trans size.symm)) size' (fun n member => .inl member)
        (fun n isNew early => absurd early (Nat.not_lt_of_ge (size.trans larger.symm ▸ isNew)))
        divided.fits
    rw [← element?_identify u (host.mapDocument fun _ => d).annotations.nodes.size] at contentSource
    rw [divided.size_host] at content contentSource
    rw [opened]
    refine .enclose (t := host.mapDocument fun _ => d) enters.tree
      (fun a leaf => ⟨leaf.source, leaf.isText⟩) content numbered (larger ▸ Nat.le_succ _) ?_
      (fun n member => ?_) (fun n isNew early => ?_) fits
    · rw [same, larger, ← size]
      exact size'
    · rw [Forest.mem_preorder_tree] at member
      refine member.symm.imp_right fun isNew => ?_
      rw [isNew, larger]
      exact ⟨Nat.le_refl _, Nat.lt_succ_self _⟩
    · rw [larger] at early
      obtain rfl := Nat.le_antisymm isNew (Nat.le_of_lt_succ early)
      obtain ⟨b, found, isSource⟩ := Option.bind_eq_some_iff.1 contentSource
      refine ⟨_, b, Nat.le_of_eq divided.size_host, found, ?_⟩
      split at isSource
      · cases isSource
      · exact Option.some.inj isSource

theorem Visits.sourced {around : Surroundings} (visits : Visits f around s t)
    (walkable : Walkable around.parent f s) : Sourced f s t := by
  refine visits.induct (P := fun f _ s t => Sourced f s t) ?_ ?_ ?_ ?_ ?_ walkable
  · exact fun _ _ => .same rfl rfl
  · exact fun _ _ => .same rfl rfl
  · exact fun _ walkable => sourced_visitText walkable.valid
  · intro around node tag below s t u entry below' element _ entered under covers walkable inside
      inner
    obtain ⟨F, grown, -⟩ := under.grown inside.valid
    exact entered.sourced element inner covers grown walkable.fits
  · intro around f f' g s t u visits visits' first second covers walkable walkable' fits apart
    obtain ⟨F, grown, -⟩ := visits.grown walkable.valid
    obtain ⟨G, grown', -⟩ := visits'.grown walkable'.valid
    obtain ⟨g', covers'⟩ := visits'.covers walkable'.valid walkable'.fits
    exact first.trans second grown.tree grown'.tree covers.reworks.size covers'.reworks.size
      walkable.fits fits apart

end ComponentMarkup.Pass
