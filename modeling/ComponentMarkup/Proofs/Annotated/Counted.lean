import ComponentMarkup.Proofs.Annotated.Charged
import ComponentMarkup.Proofs.Annotated.Roots

/-!
Whom the components that are bound count for: the nearest declaration above a node that is annotated
as it is, and the file where there is none. A walk hands that declaration on, and it is always the
one that the tree of annotations shows.
-/

namespace ComponentMarkup
namespace Pass

/-- The component that is declared by the source of an annotation, if that is annotated as it is. -/
def declaredAt (s : Pass) (id : AnnotatedId) : Option ComponentId :=
  (s.marks id).bind fun m => if m.isPlain then s.basis.declaredBy m.source else none

/-- The component whose declaration is the nearest one from an annotation on up. -/
def ownerFrom (s : Pass) (below : Option AnnotatedId) : Option ComponentId :=
  (s.annotations.line below).findSome? s.declaredAt

/-- What an annotation is bound to, if it stands below the declaration of `owner`. -/
def boundAt (s : Pass) (owner : Option ComponentId) (id : AnnotatedId) : Option ComponentId :=
  if s.ownerFrom (s.annotations.parent? id) = owner then s.component? id else none

/-- What the annotations from `first` on are bound to below the declaration of `owner`. -/
def boundFor (s : Pass) (owner : Option ComponentId) (first : AnnotatedId) : List ComponentId :=
  (List.range' first (s.annotations.nodes.size - first)).filterMap (s.boundAt owner)

variable {s t u : Pass} {id : AnnotatedId} {node : NodeId} {tag : String}
  {owner inner o : Option ComponentId} {parent below : Option AnnotatedId} {F : Forest}
  {around : Surroundings} {entry : Entry}

/-! ## Owners -/

theorem ownerFrom_cons (closed : t.annotations.Closed) (id : AnnotatedId) :
    t.ownerFrom (some id) = (t.declaredAt id).or (t.ownerFrom (t.annotations.parent? id)) := by
  have line : t.annotations.line (some id) =
      id :: t.annotations.line (t.annotations.parent? id) := by
    rw [AnnotatedTree.line, AnnotatedTree.ancestors]
    cases above : t.annotations.parent? id with
    | none => rfl
    | some p =>
        dsimp only
        rw [if_pos (closed.above id p above)]
        rfl
  rw [ownerFrom, line, List.findSome?_cons, ownerFrom]
  cases t.declaredAt id <;> rfl

theorem ownerFrom_old (grows : s.annotations.Grows parent F t.annotations)
    (basis : t.basis = s.basis) (valid : ∀ q ∈ below, q < s.annotations.nodes.size) :
    t.ownerFrom below = s.ownerFrom below := by
  have inside : ∀ q ∈ s.annotations.line below, q < s.annotations.nodes.size := by
    intro q member
    cases below with
    | none => cases member
    | some p =>
        rcases List.mem_cons.1 member with rfl | above
        · exact valid q rfl
        · exact Nat.lt_trans (AnnotatedTree.lt_of_mem_ancestors above) (valid p rfl)
  rw [ownerFrom, ownerFrom, grows.line_old valid]
  generalize s.annotations.line below = line at inside
  induction line with
  | nil => rfl
  | cons q rest ih =>
      have same : t.declaredAt q = s.declaredAt q := by
        rw [declaredAt, declaredAt, marks_old grows (inside q List.mem_cons_self), basis]
      rw [List.findSome?_cons, List.findSome?_cons, same,
        ih fun n member => inside n (List.mem_cons_of_mem _ member)]

theorem declaredAt_of_directive {a : AnnotatedNode} (found : t.annotations.get? id = some a)
    (directive : a.directive?.isSome = true) : t.declaredAt id = none := by
  have unplain : a.isPlain = false := by
    cases a using AnnotatedNode.byKind with
    | element a bindings => cases directive
    | _ => rfl
  rw [declaredAt, marks, found]
  change (if a.isPlain = true then _ else none) = none
  rw [unplain, if_neg Bool.false_ne_true]

/-- The last annotation made for an element, which is the one that what is below it hangs under, is
as much below a declaration as the element. -/
theorem Entered.last {f rest : Forest} (entered : Entered parent node tag s t entry)
    (element : s.document.tag? node = some tag) (walkable : Walkable parent (.cons node f rest) s)
    (basis : t.basis = s.basis) (closed : t.annotations.Closed) :
    ∃ id, entry.inner.parent = some id ∧ t.annotations.nodes.size = id + 1 ∧
      s.annotations.nodes.size ≤ id ∧
      t.ownerFrom (t.annotations.parent? id) = s.ownerFrom parent := by
  have valid := walkable.valid
  rcases entered.cases element walkable.fits with
    ⟨directive, enters, -, inner⟩ | ⟨d, host, divided, -, inner⟩
  · obtain ⟨a, here, leaf⟩ := enters.tree.here
    refine ⟨_, inner, enters.size, Nat.le_refl _, ?_⟩
    rw [AnnotatedTree.parent?_eq here, leaf.parent]
    exact ownerFrom_old (enters.grown (.nil _ t) valid).1.tree basis valid
  · obtain ⟨condition, enters⟩ := divided.enters
    obtain ⟨content, -⟩ := divided.content.grown (.nil _ t) divided.valid
    have grows := (enters.grown (content.congr_left rfl rfl) valid).1.tree
    have size := divided.content.size
    rw [divided.size_host] at size
    obtain ⟨a, here, leaf⟩ := divided.content.tree.here
    rw [divided.size_host] at here
    obtain ⟨h, hosted, hostLeaf⟩ := enters.tree.here
    obtain ⟨h', hosted', core, -⟩ := divided.content.tree.elsewhere _ h hosted
    refine ⟨_, inner, size, Nat.le_succ _, ?_⟩
    have directive : h'.directive?.isSome = true := by
      rw [AnnotatedNode.directive?_of_core core, hostLeaf.directive?]
      rfl
    rw [AnnotatedTree.parent?_eq here, leaf.parent, ownerFrom_cons closed,
      declaredAt_of_directive hosted' directive, Option.none_or, AnnotatedTree.parent?_eq hosted',
      AnnotatedNode.parent_of_core core, hostLeaf.parent]
    exact ownerFrom_old grows basis valid

/-- What is below an entered element is below its declaration, if it makes one as it is. -/
theorem Marked.inner_eq (marked : Marked owner node tag s t inner)
    (size : t.annotations.nodes.size = id + 1) (element : s.document.tag? node = some tag)
    (elements : ∀ y c, s.basis.declaredBy y = some c → s.document.tag? y = some "element") :
    inner = (t.declaredAt id).or owner := by
  have here {m : Mark} {start : Pass} (makes : Makes m start t) : t.declaredAt id =
      if m.isPlain then start.basis.declaredBy m.source else none := by
    have last : id = start.annotations.nodes.size := Nat.succ.inj (size.symm.trans makes.size)
    rw [declaredAt, makes.marks, last, Function.update_self, makes.basis]
    rfl
  have owned {y : NodeId} (same : s.document.tag? y = some tag ∨ s.document.tag? y = none) :
      s.innerOwner y tag owner = (s.basis.declaredBy y).or owner := by
    rw [innerOwner_basis, Basis.innerOwner]
    cases found : s.basis.declaredBy y with
    | none => exact ite_self owner
    | some c =>
        have tagged := elements y c found
        rcases same with same | same
        · rw [if_pos (Option.some.inj (same.symm.trans tagged))]
          rfl
        · cases same.symm.trans tagged
  cases marked with
  | plain makes below =>
      rw [here makes, below]
      exact owned (.inl element)
  | structural makes below =>
      rw [here makes, below]
      rfl
  | @split host makes content below =>
      rw [here content, below, basis_mapDocument, makes.basis]
      exact owned (.inr (Document.tag?_eq_none (Nat.le_refl _)))

/-! ## Walks -/

/-- From `s` to `t` every new annotation that is bound has counted for its owner. -/
def Counts (s t : Pass) : Prop :=
  ∀ o, s.basis.Knows o →
    t.usedBy o = (t.boundFor o s.annotations.nodes.size).foldl addNew (s.usedBy o)

theorem boundAt_eq_none (unbound : t.component? id = none) : t.boundAt o id = none := by
  rw [boundAt, unbound]
  exact ite_self none

theorem Quiet.counts (quiet : Quiet s t) : Counts s t := by
  intro o _
  have none : t.boundFor o s.annotations.nodes.size = [] := by
    refine List.filterMap_eq_nil_iff.2 fun n member => boundAt_eq_none ?_
    rw [quiet.bound]
    exact component?_eq_none (List.mem_range'_1.1 member).1
  rw [quiet.usedBy, none]
  rfl

/-- Nothing counts for a component that another file declares. -/
theorem boundFor_eq_nil {c : ComponentId} {first : AnnotatedId} (other : c ∉ t.file.declared) :
    t.boundFor (some c) first = [] := by
  refine List.filterMap_eq_nil_iff.2 fun n _ => if_neg fun owned => other ?_
  obtain ⟨q, -, declares⟩ := List.exists_of_findSome?_eq_some owned
  obtain ⟨m, -, declares⟩ := Option.bind_eq_some_iff.1 declares
  split at declares
  · exact List.mem_of_find?_eq_some declares
  · cases declares

theorem boundAt_old (grows : s.annotations.Grows parent F t.annotations) (basis : t.basis = s.basis)
    (closed : s.annotations.Closed) (inside : id < s.annotations.nodes.size) :
    t.boundAt o id = s.boundAt o id := by
  obtain ⟨a, found⟩ := AnnotatedTree.get?_isSome inside
  obtain ⟨a', found', core⟩ := grows.core found
  have bound : t.component? id = s.component? id := by
    rw [component?, component?, found, found']
    exact AnnotatedNode.component?_of_core core
  have under : t.ownerFrom (s.annotations.parent? id) = s.ownerFrom (s.annotations.parent? id) :=
    ownerFrom_old grows basis fun q above => Nat.lt_trans (closed.above id q above) inside
  rw [boundAt, boundAt, grows.parent?_old inside, under, bound]

theorem Counts.trans (first : Counts s t) (second : Counts t u)
    (size : s.annotations.nodes.size ≤ t.annotations.nodes.size) (basis : t.basis = s.basis)
    (later : t.annotations.Grows parent F u.annotations) (basis' : u.basis = t.basis)
    (closed : t.annotations.Closed) : Counts s u := by
  intro o knows
  have whole : u.boundFor o s.annotations.nodes.size =
      t.boundFor o s.annotations.nodes.size ++ u.boundFor o t.annotations.nodes.size := by
    rw [boundFor, ← AnnotatedTree.range'_sub_append size later.size, List.filterMap_append]
    refine congrArg (· ++ _) (List.filterMap_congr fun n member => ?_)
    refine boundAt_old later basis' closed ?_
    rw [← Nat.add_sub_of_le size]
    exact (List.mem_range'_1.1 member).2
  rw [second o (basis ▸ knows), first o knows, whole, List.foldl_append]

theorem parent?_foldl_identify (s : Pass) (ids : List AnnotatedId) (n : AnnotatedId) :
    (ids.foldl identify s).annotations.parent? n = s.annotations.parent? n := by
  induction ids generalizing s with
  | nil => rfl
  | cons id ids ih => exact (ih _).trans (parent?_identify s id n)

/-- Giving out identifiers changes nothing about what counts for whom. -/
theorem Counts.identified (counts : Counts s t) (ids : List AnnotatedId) :
    Counts s (ids.foldl identify t) := by
  have quiet := quiet_foldl_identify t ids
  have keeps := keeps_foldl_identify t ids
  have parents := parent?_foldl_identify t ids
  generalize ids.foldl identify t = u at *
  have declaredAt : u.declaredAt = t.declaredAt := by
    funext n
    rw [Pass.declaredAt, Pass.declaredAt, keeps.marks, keeps.basis]
  have line (below : Option AnnotatedId) : u.annotations.line below = t.annotations.line below := by
    cases below with
    | none => rfl
    | some q => rw [AnnotatedTree.line, AnnotatedTree.line,
        AnnotatedTree.ancestors_congr fun n _ => parents n]
  have boundAt (o : Option ComponentId) : u.boundAt o = t.boundAt o := by
    funext n
    rw [Pass.boundAt, Pass.boundAt, ownerFrom, ownerFrom, line, declaredAt, parents, quiet.bound]
  intro o knows
  rw [quiet.usedBy, counts o knows, boundFor, boundFor, keeps.size, boundAt]

theorem counts_of_charges (charges : Charges owner id s t)
    (size : t.annotations.nodes.size = id + 1) (isNew : s.annotations.nodes.size ≤ id)
    (owned : t.ownerFrom (t.annotations.parent? id) = owner) : Counts s t := by
  intro o knows
  obtain ⟨k, last⟩ := Nat.exists_eq_add_of_le isNew
  -- Before the last new annotation there is none or the host, which is not bound.
  have bound : t.boundFor o s.annotations.nodes.size =
      if owner = o then (t.component? id).toList else [] := by
    have before : (List.range' s.annotations.nodes.size k).filterMap (t.boundAt o) = [] := by
      refine List.filterMap_eq_nil_iff.2 fun n member => boundAt_eq_none ?_
      obtain ⟨low, high⟩ := List.mem_range'_1.1 member
      rw [charges.others n (last ▸ Nat.ne_of_lt high)]
      exact component?_eq_none low
    have single : [id].filterMap (t.boundAt o) = (t.boundAt o id).toList := by
      cases here : t.boundAt o id <;> simp [here]
    have size' : t.annotations.nodes.size - s.annotations.nodes.size = k + 1 := by omega
    rw [boundFor, size', List.range'_1_concat, List.filterMap_append, before, ← last,
      List.nil_append, single, boundAt, owned]
    split <;> rfl
  rw [charges.used o knows, bound]

/-- What is to be the case where a walk starts: the declaration that it hands on is the nearest one
that the tree shows, and declarations are elements. -/
structure Owned (around : Surroundings) (s : Pass) : Prop where
  owner : around.owner = s.ownerFrom around.parent
  elements : ∀ y c, s.basis.declaredBy y = some c → s.document.tag? y = some "element"

theorem Visits.counts {f : Forest} (visits : Visits f around s t)
    (walkable : Walkable around.parent f s) (owned : Owned around s) : Counts s t := by
  refine visits.induct (P := fun _ around s t => Owned around s → Counts s t)
    ?_ ?_ ?_ ?_ ?_ walkable owned
  · exact fun around s _ => (Quiet.refl s).counts
  · intro around node below s reports silent _
    exact (Quiet.of_annotations rfl rfl : Quiet s { s with reports }).counts
  · intro around node below s text data walkable _
    exact (quiet_visitText s around node text).counts
  · intro around node tag below s t u entry below' element found entered under _ walkable inside
      inner owned
    have marked := marked_enter element found
    obtain ⟨id, top, charges⟩ := charges_enter walkable.valid found
    obtain ⟨id', top', size, isNew, owner⟩ := entered.last element walkable marked.basis inside.closed
    obtain rfl : id' = id := Option.some.inj (top'.symm.trans top)
    rw [← owned.owner] at owner
    have here := counts_of_charges charges size isNew owner
    obtain ⟨F, grown, -⟩ := under.grown inside.valid
    have inOwned : Owned entry.inner t := by
      refine ⟨?_, fun y c declares => ?_⟩
      · rw [marked.inner_eq size element owned.elements, top, ownerFrom_cons inside.closed, owner]
      · have tagged := owned.elements y c (marked.basis ▸ declares)
        exact ((marked.document element).2 y (Document.lt_size_of_tag? tagged)).trans tagged
    exact (here.trans (inner inOwned) marked.size_le marked.basis grown.tree under.basis
      inside.closed).identified entry.opened
  · intro around f f' g s t u visits visits' first second covers walkable walkable' fits apart owned
    obtain ⟨F, grown, -⟩ := visits.grown walkable.valid
    obtain ⟨G, grown', -⟩ := visits'.grown walkable'.valid
    have later : Owned around t := by
      refine ⟨?_, fun y c declares => ?_⟩
      · rw [owned.owner, ownerFrom_old grown.tree visits.basis walkable.valid]
      · have tagged := owned.elements y c (visits.basis ▸ declares)
        exact (covers.reworks.tags y (Document.lt_size_of_tag? tagged)).trans tagged
    exact (first owned).trans (second later) grown.tree.size visits.basis grown'.tree visits'.basis
      walkable'.closed

end Pass
end ComponentMarkup
