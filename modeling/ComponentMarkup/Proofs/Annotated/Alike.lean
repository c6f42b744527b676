import ComponentMarkup.Proofs.Annotated.Steady
import ComponentMarkup.Proofs.Ordered

/-!
Two passes over one document whose files see the same declarations under different numbers. The
passes go the same way, and their annotations differ only by what follows from the components that
are flagged in one of them.
-/

namespace ComponentMarkup

namespace Basis

/-- `b'` sees the declarations that `b` sees, under the numbers that `rename` gives them. -/
structure Renamed (rename : ComponentId → ComponentId) (b b' : Basis) : Prop where
  scope : ∀ tag, b'.file.scope.find? tag = (b.file.scope.find? tag).map rename
  declared : b'.file.declared = b.file.declared.map rename
  declaration : ∀ id, b'.declaration (rename id) = b.declaration id

namespace Renamed
variable {rename : ComponentId → ComponentId} {b b' : Basis} (renamed : b.Renamed rename b')
include renamed

theorem declaredBy (node : NodeId) : b'.declaredBy node = (b.declaredBy node).map rename := by
  rw [Basis.declaredBy, Basis.declaredBy, renamed.declared, List.find?_map]
  congr 2
  funext id
  rw [Function.comp_apply, renamed.declaration]

theorem isTemplateOf (owner : Option ComponentId) (node : NodeId) :
    b'.isTemplateOf (owner.map rename) node = b.isTemplateOf owner node := by
  cases owner with
  | none => rfl
  | some id =>
      rw [Basis.isTemplateOf, Basis.isTemplateOf, Option.map_some, Option.bind_some,
        Option.bind_some, renamed.declaration]

theorem innerOwner (node : NodeId) (tag : String) (owner : Option ComponentId) :
    b'.innerOwner node tag (owner.map rename) = (b.innerOwner node tag owner).map rename := by
  unfold Basis.innerOwner
  split
  · rw [renamed.declaredBy]
    cases b.declaredBy node <;> rfl
  · rfl

end Renamed

/-- What a node that means a component is bound to: a flagged one binds nothing. -/
def bound (b : Basis) (meant : Option ComponentId) : Option ComponentId :=
  meant.filter fun c => !b.flagged c

theorem bound_some (b : Basis) (c : ComponentId) :
    b.bound (some c) = if b.flagged c then none else some c := by
  rw [bound, Option.filter_some]
  cases b.flagged c <;> rfl

end Basis

/-- Annotations of one node that mean the same component of the scope, or both of them none. -/
structure AnnotatedNode.Alike (rename : ComponentId → ComponentId) (b b' : Basis)
    (a a' : AnnotatedNode) : Prop where
  shape : a'.shape = a.shape
  meant : ∃ meant : Option ComponentId, (∀ c ∈ meant, ∃ name, b.file.scope.find? name = some c) ∧
    a.component? = b.bound meant ∧ a'.component? = b'.bound (meant.map rename)

theorem AnnotatedNode.Alike.map {rename : ComponentId → ComponentId} {b b' : Basis}
    {a a' : AnnotatedNode} {f : AnnotatedNode → AnnotatedNode}
    (alike : AnnotatedNode.Alike rename b b' a a')
    (shape : a'.shape = a.shape → (f a').shape = (f a).shape)
    (component : ∀ a, (f a).component? = a.component?) :
    AnnotatedNode.Alike rename b b' (f a) (f a') := by
  obtain ⟨meant, seen, bound, bound'⟩ := alike.meant
  exact ⟨shape alike.shape, meant, seen, (component a).trans bound, (component a').trans bound'⟩

/-! ## Trees -/

namespace AnnotatedTree

structure Alike (rename : ComponentId → ComponentId) (b b' : Basis) (t t' : AnnotatedTree) :
    Prop where
  root : t'.root = t.root
  size : t'.nodes.size = t.nodes.size
  nodes : ∀ id, Option.Rel (AnnotatedNode.Alike rename b b') (t.get? id) (t'.get? id)

variable {rename : ComponentId → ComponentId} {b b' : Basis} {t t' u u' : AnnotatedTree}
  {id : AnnotatedId}

namespace Alike

/-- The annotation that goes with one of the first tree. -/
theorem exists_get? (alike : Alike rename b b' t t') {a : AnnotatedNode}
    (found : t.get? id = some a) :
    ∃ a', t'.get? id = some a' ∧ AnnotatedNode.Alike rename b b' a a' := by
  have related := alike.nodes id
  rw [found] at related
  exact OrderedMap.exists_of_rel_some related

theorem exists_get?' (alike : Alike rename b b' t t') {a' : AnnotatedNode}
    (found : t'.get? id = some a') :
    ∃ a, t.get? id = some a ∧ AnnotatedNode.Alike rename b b' a a' := by
  have related := alike.nodes id
  rw [found] at related
  exact OrderedMap.exists_of_rel_some' related

theorem sketched (alike : Alike rename b b' t t') (root : u.root = t.root)
    (root' : u'.root = t'.root) (size : u.nodes.size = t.nodes.size)
    (size' : u'.nodes.size = t'.nodes.size)
    (same : ∀ n, (u.get? n).map AnnotatedNode.sketch = (t.get? n).map AnnotatedNode.sketch)
    (same' : ∀ n, (u'.get? n).map AnnotatedNode.sketch = (t'.get? n).map AnnotatedNode.sketch) :
    Alike rename b b' u u' where
  root := root'.trans (alike.root.trans root.symm)
  size := size'.trans (alike.size.trans size.symm)
  nodes id := by
    have first := same id
    have second := same' id
    have related := alike.nodes id
    generalize t.get? id = before at first related
    generalize t'.get? id = before' at second related
    generalize u.get? id = after at first ⊢
    generalize u'.get? id = after' at second ⊢
    cases related with
    | none =>
        rw [Option.map_none, Option.map_eq_none_iff] at first second
        rw [first, second]
        exact .none
    | some alike =>
        obtain ⟨a, rfl, sketch⟩ := Option.map_eq_some_iff.1 first
        obtain ⟨a', rfl, sketch'⟩ := Option.map_eq_some_iff.1 second
        obtain ⟨shape, component⟩ := Prod.mk.inj sketch
        obtain ⟨shape', component'⟩ := Prod.mk.inj sketch'
        obtain ⟨meant, seen, bound, bound'⟩ := alike.meant
        exact .some ⟨shape'.trans (alike.shape.trans shape.symm), meant, seen,
          component.trans bound, component'.trans bound'⟩

theorem update (alike : Alike rename b b' t t') (id : AnnotatedId)
    {f g : AnnotatedNode → AnnotatedNode}
    (gives : ∀ a a', t.get? id = some a → t'.get? id = some a' →
      AnnotatedNode.Alike rename b b' a a' → AnnotatedNode.Alike rename b b' (f a) (g a')) :
    Alike rename b b' (t.update id f) (t'.update id g) where
  root := alike.root
  size := by rw [size_update, size_update, alike.size]
  nodes n := by
    rw [get?_update, get?_update]
    split
    · next here =>
      subst here
      cases found : t.get? id with
      | none =>
          have related := alike.nodes id
          rw [found] at related
          generalize t'.get? id = found' at related ⊢
          cases related
          exact .none
      | some a =>
          obtain ⟨a', found', same⟩ := alike.exists_get? found
          rw [found']
          exact .some (gives a a' found found' same)
    · exact alike.nodes n

/-- A new annotation that is not bound yet. -/
theorem add (alike : Alike rename b b' t t') (source : NodeId) (parent : Option AnnotatedId)
    (kind : AnnotatedKind)
    (unbound : ({ source, parent, kind } : AnnotatedNode).component? = none) :
    Alike rename b b' (t.add source parent kind).2 (t'.add source parent kind).2 := by
  have after (u : AnnotatedTree) (n : AnnotatedId) :
      ({ u with nodes := u.nodes.push { source, parent, kind } } : AnnotatedTree).get? n =
        if n = u.nodes.size then some { source, parent, kind } else u.get? n :=
    Array.getElem?_push
  have pushed : Alike rename b b' { t with nodes := t.nodes.push { source, parent, kind } }
      { t' with nodes := t'.nodes.push { source, parent, kind } } := by
    refine ⟨alike.root, ?_, fun n => ?_⟩
    · rw [Array.size_push, Array.size_push, alike.size]
    · rw [after, after, alike.size]
      split
      · refine .some ⟨rfl, none, fun c impossible => ?_, unbound, unbound⟩
        cases impossible
      · exact alike.nodes n
  cases parent with
  | none =>
      refine ⟨?_, pushed.size, pushed.nodes⟩
      rw [root_add, root_add, alike.root, alike.size]
  | some parent =>
      let link (a : AnnotatedNode) : AnnotatedNode :=
        { a with children := a.children ++ [t.nodes.size] }
      have linked := pushed.update parent (f := link) (g := link) fun a a' _ _ same =>
        same.map (congrArg link) fun _ => rfl
      unfold AnnotatedTree.add
      dsimp only
      rw [alike.size]
      exact linked

end Alike
end AnnotatedTree

/-! ## Passes -/

namespace Pass

/-- Passes that have come to the same point. The `kept` nodes are still to be visited. -/
structure Alike (rename : ComponentId → ComponentId) (b b' : Basis) (kept : List NodeId)
    (s s' : Pass) : Prop where
  basis : s.basis = b
  basis' : s'.basis = b'
  skeleton : s'.document.skeleton = s.document.skeleton
  data : ∀ n ∈ kept, s'.document.data? n = s.document.data? n
  inside : ∀ n ∈ kept, n < s.document.size
  apart : ∀ id a, s.annotations.get? id = some a → a.source < s.document.size ∧ a.source ∉ kept
  tree : s.annotations.Alike rename b b' s'.annotations

variable {rename : ComponentId → ComponentId} {b b' : Basis} {kept kept' : List NodeId}
  {s s' t t' : Pass} {id : AnnotatedId} {node : NodeId}

namespace Alike

theorem weaken (alike : Alike rename b b' kept s s') (part : ∀ n ∈ kept', n ∈ kept) :
    Alike rename b b' kept' s s' where
  basis := alike.basis
  basis' := alike.basis'
  skeleton := alike.skeleton
  data n member := alike.data n (part n member)
  inside n member := alike.inside n (part n member)
  apart id a found := (alike.apart id a found).imp_right fun outside member =>
    outside (part _ member)
  tree := alike.tree

theorem steady (alike : Alike rename b b' kept s s') (first : Steady kept s t)
    (second : Steady kept s' t') : Alike rename b b' kept t t' where
  basis := first.basis.trans alike.basis
  basis' := second.basis.trans alike.basis'
  skeleton := second.skeleton.trans (alike.skeleton.trans first.skeleton.symm)
  data n member :=
    (second.data n member).trans ((alike.data n member).trans (first.data n member).symm)
  inside n member := by
    rw [Document.size_of_skeleton first.skeleton]
    exact alike.inside n member
  apart id a found := by
    obtain ⟨c, before, shape, -⟩ := first.exists_get? found
    rw [Document.size_of_skeleton first.skeleton, AnnotatedNode.source_of_shape shape]
    exact alike.apart id c before
  tree := alike.tree.sketched first.root second.root first.size second.size first.sketch
    second.sketch

/-! ## Changes on both sides -/

theorem update (alike : Alike rename b b' kept s s') (id : AnnotatedId)
    {f g : AnnotatedNode → AnnotatedNode} (source : ∀ a, (f a).source = a.source)
    (gives : ∀ a a', s.annotations.get? id = some a → s'.annotations.get? id = some a' →
      AnnotatedNode.Alike rename b b' a a' → AnnotatedNode.Alike rename b b' (f a) (g a')) :
    Alike rename b b' kept (s.update id f) (s'.update id g) where
  basis := alike.basis
  basis' := alike.basis'
  skeleton := alike.skeleton
  data := alike.data
  inside := alike.inside
  apart n a found := by
    rw [annotations_update, AnnotatedTree.get?_update] at found
    split at found
    · obtain ⟨c, before, rfl⟩ := Option.map_eq_some_iff.1 found
      rw [source]
      exact alike.apart n c before
    · exact alike.apart n a found
  tree := alike.tree.update id gives

theorem reshape (alike : Alike rename b b' kept s s') (id : AnnotatedId)
    {f : AnnotatedNode → AnnotatedNode} (source : ∀ a, (f a).source = a.source)
    (shape : ∀ a a', a'.shape = a.shape → (f a').shape = (f a).shape)
    (component : ∀ a, (f a).component? = a.component?) :
    Alike rename b b' kept (s.update id f) (s'.update id f) :=
  alike.update id source fun a a' _ _ same => same.map (shape a a') component

theorem annotate (alike : Alike rename b b' kept s s') (inside : node < s.document.size)
    (visited : node ∉ kept) (parent : Option AnnotatedId) (kind : AnnotatedKind)
    (unbound : ({ source := node, parent, kind } : AnnotatedNode).component? = none) :
    Alike rename b b' kept (s.annotate node parent kind).2 (s'.annotate node parent kind).2 where
  basis := alike.basis
  basis' := alike.basis'
  skeleton := alike.skeleton
  data := alike.data
  inside := alike.inside
  apart n a found := by
    have sources := s.annotations.map_add AnnotatedNode.source (fun _ _ => rfl) node parent kind n
    rw [annotations_annotate] at found
    rw [found, Option.map_some] at sources
    split at sources
    · rw [Option.some.inj sources]
      exact ⟨inside, visited⟩
    · obtain ⟨c, before, source⟩ := Option.map_eq_some_iff.1 sources.symm
      rw [← source]
      exact alike.apart n c before
  tree := alike.tree.add node parent kind unbound

theorem addText (alike : Alike rename b b' kept s s') (contents : String) (position : Position) :
    Alike rename b b' kept (s.addText contents position).2 (s'.addText contents position).2 where
  basis := alike.basis
  basis' := alike.basis'
  skeleton := by
    rw [document_addText, document_addText, Document.createText, Document.createText,
      Document.skeleton_add, Document.skeleton_add, alike.skeleton]
  data n member := by
    have inside := alike.inside n member
    have inside' := inside
    rw [← Document.size_of_skeleton alike.skeleton] at inside'
    rw [document_addText, document_addText, Document.createText, Document.createText,
      Document.data?_add, Document.data?_add, if_neg (Nat.ne_of_lt inside),
      if_neg (Nat.ne_of_lt inside')]
    exact alike.data n member
  inside n member := by
    rw [document_addText, Document.createText, Document.size_add]
    exact Nat.lt_succ_of_lt (alike.inside n member)
  apart id a found := by
    rw [document_addText, Document.createText, Document.size_add]
    exact (alike.apart id a found).imp_left Nat.lt_succ_of_lt
  tree := alike.tree

theorem setText (alike : Alike rename b b' kept s s') (visited : node ∉ kept) (contents : String) :
    Alike rename b b' kept (s.mapDocument (·.setText node contents))
      (s'.mapDocument (·.setText node contents)) where
  basis := alike.basis
  basis' := alike.basis'
  skeleton := by
    rw [document_mapDocument, document_mapDocument, Document.skeleton_setText,
      Document.skeleton_setText, alike.skeleton]
  data n member := by
    have other : n ≠ node := fun same => visited (same ▸ member)
    rw [document_mapDocument, document_mapDocument,
      Document.data?_congr (Document.node?_setText_of_ne _ contents other),
      Document.data?_congr (Document.node?_setText_of_ne _ contents other)]
    exact alike.data n member
  inside n member := by
    rw [document_mapDocument, Document.size_setText]
    exact alike.inside n member
  apart id a found := by
    rw [document_mapDocument, Document.size_setText]
    exact alike.apart id a found
  tree := alike.tree

end Alike
end Pass
end ComponentMarkup
