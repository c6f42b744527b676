import ComponentMarkup.Proofs.Annotated.Numbering
import ComponentMarkup.Proofs.Document.Rework

/-!
Where the annotations of a walk come from: each new element or structural node stands for a node of
the forest that the walk leaves behind, and no two of them for the same one.
-/

namespace ComponentMarkup

namespace AnnotatedTree
variable {t u : AnnotatedTree} {parent : Option AnnotatedId} {F : Forest} {id : AnnotatedId}
  {a : AnnotatedNode}

/-- Parents come before their children, and all of them are in the tree. -/
structure Closed (t : AnnotatedTree) : Prop where
  above : ∀ id q, t.parent? id = some q → q < id
  below : ∀ id, ∀ child ∈ t.children id, child < t.nodes.size

theorem Grows.closed (grows : Grows parent F t u) (closed : t.Closed) : u.Closed where
  above id q under := by
    rcases Nat.lt_or_ge id t.nodes.size with old | new
    · exact closed.above id q ((grows.parent?_old old).symm.trans under)
    · exact grows.above id q new under
  below id child member := by
    rcases Nat.lt_or_ge id t.nodes.size with old | new
    · obtain ⟨a, found⟩ := get?_isSome old
      obtain ⟨a', found', extended, -⟩ := grows.old id a found
      rw [children_eq found', extended.children, List.mem_append, ← children_eq found] at member
      rcases member with member | member
      · exact Nat.lt_of_lt_of_le (closed.below id child member) grows.size
      · split at member
        · exact grows.lt_of_mem_tops member
        · cases member
    · have inside : id < u.nodes.size := by
        by_contra outside
        have absent : u.get? id = none := Array.getElem?_eq_none (Nat.le_of_not_lt outside)
        rw [children, absent] at member
        cases member
      have here := grows.mem_preorder.2 ⟨new, inside⟩
      exact (grows.mem_preorder.1 (grows.follows.mem_of_mem_children here member)).2

theorem Grows.element?_old (grows : Grows parent F t u) (inside : id < t.nodes.size) :
    u.element? id = t.element? id := by
  obtain ⟨a, found⟩ := get?_isSome inside
  obtain ⟨a', found', core⟩ := grows.core found
  exact element?_of_core found found' core

end AnnotatedTree

namespace Pass

theorem document_identify {s : Pass} {id : AnnotatedId} {node : NodeId}
    (source : s.annotations.element? id = some node) :
    ∃ k, (s.identify id).document = s.document.mapAttributes node k := by
  obtain ⟨a, found, isSource⟩ := Option.bind_eq_some_iff.1 source
  split at isSource
  · cases isSource
  · obtain rfl := Option.some.inj isSource
    rcases identify_cases found with ⟨-, same⟩ | ⟨fresh, needed⟩
    · exact ⟨_, by rw [same, Document.mapAttributes_id]⟩
    · rw [identify_eq found fresh needed, document_number, document_markQuery]
      split
      · exact ⟨_, (Document.mapAttributes_id _ _).symm⟩
      · exact ⟨_, rfl⟩

/-- A walk of `f` has left `f'`, and its annotations stand for different nodes there. -/
structure Covers (f f' : Forest) (s t : Pass) : Prop where
  reworks : Document.Reworks f f' s.document t.document
  located : ∀ id n, s.annotations.nodes.size ≤ id → t.annotations.element? id = some n →
    n ∈ t.document.reached f'
  apart : ∀ id id' n, s.annotations.nodes.size ≤ id → s.annotations.nodes.size ≤ id' →
    t.annotations.element? id = some n → t.annotations.element? id' = some n → id = id'

variable {s t u : Pass} {parent : Option AnnotatedId} {id : AnnotatedId} {node : NodeId}
  {f f' g g' below below' rest F : Forest}

theorem Covers.mem_preorder (covers : Covers f f' s t) {n : NodeId}
    (isNew : s.annotations.nodes.size ≤ id) (found : t.annotations.element? id = some n) :
    n ∈ f'.preorder :=
  Document.mem_preorder_of_mem_reached (covers.located id n isNew found)

namespace Covers

theorem nil (s : Pass) : Covers .nil .nil s s where
  reworks := .nil s.document
  located _ _ isNew found :=
    absurd (AnnotatedTree.lt_size_of_element? found) (Nat.not_lt_of_ge isNew)
  apart _ _ _ isNew _ found _ :=
    absurd (AnnotatedTree.lt_size_of_element? found) (Nat.not_lt_of_ge isNew)

theorem text (shows : Shows node s t) (fits : s.document.Fits (.cons node below .nil)) :
    Covers (.cons node below .nil) (.cons node below .nil) s t := by
  have notElement (id : AnnotatedId) (n : NodeId) (isNew : s.annotations.nodes.size ≤ id) :
      t.annotations.element? id ≠ some n := by
    intro found
    obtain ⟨a, holds, isSource⟩ := Option.bind_eq_some_iff.1 found
    rw [(shows.new id a isNew holds).isText] at isSource
    cases isSource
  refine ⟨⟨shows.size, fun n inside member => ?_, shows.tags, rfl, ?_, fun _ => .inl⟩, ?_, ?_⟩
  · exact shows.document n inside fun same => member (same ▸ List.mem_cons_self)
  · exact fits.congr shows.size fun n member => shows.children n (fits.inside n member)
  · exact fun id n isNew found => absurd found (notElement id n isNew)
  · exact fun id id' n isNew _ found _ => absurd found (notElement id n isNew)

theorem trans (first : Covers f f' s t) (second : Covers g g' t u)
    (grows : t.annotations.Grows parent F u.annotations) (fits : s.document.Fits g)
    (apart : ∀ n ∈ g.preorder, n ∉ f.preorder) :
    Covers (f.append g) (f'.append g') s u := by
  have reworks := first.reworks.trans second.reworks fits apart
  have disjoint := List.nodup_append.1 (Forest.preorder_append f' g' ▸ reworks.fits.distinct)
  -- An annotation made by the first walk is as it was; the others are from the second one.
  have located (n : AnnotatedId) (m : NodeId) (isNew : s.annotations.nodes.size ≤ n)
      (found : u.annotations.element? n = some m) :
      t.annotations.element? n = some m ∧ m ∈ t.document.reached f' ∨
        t.annotations.nodes.size ≤ n ∧ m ∈ u.document.reached g' := by
    rcases Nat.lt_or_ge n t.annotations.nodes.size with inside | outside
    · rw [grows.element?_old inside] at found
      exact .inl ⟨found, first.located n m isNew found⟩
    · exact .inr ⟨outside, second.located n m outside found⟩
  have never {m : NodeId} (early : m ∈ t.document.reached f') : m ∉ u.document.reached g' :=
    fun late => disjoint.2.2 m (Document.mem_preorder_of_mem_reached early) m
      (Document.mem_preorder_of_mem_reached late) rfl
  refine ⟨reworks, fun n m isNew found => ?_, fun n n' m isNew isNew' found found' => ?_⟩
  · have same : u.document.reached f' = t.document.reached f' :=
      Document.reached_congr fun m member => second.reworks.tags m (first.reworks.fits.inside m member)
    rw [Document.reached_append, List.mem_append, same]
    exact (located n m isNew found).imp And.right And.right
  · rcases located n m isNew found with ⟨here, member⟩ | ⟨late, member⟩
    · rcases located n' m isNew' found' with ⟨here', -⟩ | ⟨-, member'⟩
      · exact first.apart n n' m isNew isNew' here here'
      · exact absurd member' (never member)
    · rcases located n' m isNew' found' with ⟨-, member'⟩ | ⟨late', -⟩
      · exact absurd member (never member')
      · exact second.apart n n' m late late' found found'

theorem enclose {P : AnnotatedNode → Prop} (opens : Document.Opens node below g s.document t.document)
    (opened : s.annotations.Opened parent id P t.annotations)
    (leaf : ∀ a, P a → a.source = node ∧ a.isText = false) (inner : Covers g g' t u)
    (grows : t.annotations.Grows (some id) F u.annotations)
    (fits : s.document.Fits (.cons node below .nil)) {tag : String}
    (element : s.document.tag? node = some tag) :
    Covers (.cons node below .nil) (.cons node g' .nil) s (u.identify id) := by
  obtain ⟨a, here, holds⟩ := opened.here
  have source : u.annotations.element? id = some node := by
    rw [grows.element?_old (AnnotatedTree.lt_size_of_get? here),
      AnnotatedTree.element?_eq here (leaf a holds).2, (leaf a holds).1]
  obtain ⟨k, written⟩ := document_identify source
  have whole := inner.reworks.enclose (k := k) opens fits
  rw [← written] at whole
  have notInner : node ∉ g'.preorder := by
    have distinct := whole.fits.distinct
    rw [Forest.preorder, Forest.preorder, List.append_nil] at distinct
    exact (List.nodup_cons.1 distinct).1
  have split (n : AnnotatedId) (m : NodeId) (isNew : s.annotations.nodes.size ≤ n)
      (found : u.annotations.element? n = some m) :
      n = id ∧ m = node ∨ t.annotations.nodes.size ≤ n ∧ m ∈ u.document.reached g' := by
    by_cases same : n = id
    · subst same
      exact .inl ⟨rfl, Option.some.inj (found.symm.trans source)⟩
    · have later : t.annotations.nodes.size ≤ n := by
        rw [opened.size]
        exact Nat.lt_of_le_of_ne isNew fun isLast => same (isLast.symm.trans opened.fresh.symm)
      exact .inr ⟨later, inner.located n m later found⟩
  have never (m : NodeId) (isNode : m = node) : m ∉ u.document.reached g' := fun member =>
    notInner (isNode ▸ Document.mem_preorder_of_mem_reached member)
  refine ⟨whole, fun n m isNew found => ?_, fun n n' m isNew isNew' found found' => ?_⟩
  · rw [element?_identify] at found
    have stillElement : (u.identify id).document.tag? node = some tag := by
      rw [whole.tags node (fits.inside node List.mem_cons_self), element]
    have same : (u.identify id).document.reached g' = u.document.reached g' :=
      Document.reached_congr fun m _ => by rw [written, Document.tag?_mapAttributes]
    rw [Document.reached_cons stillElement, same, List.mem_cons]
    exact (split n m isNew found).imp And.right And.right
  · rw [element?_identify] at found found'
    rcases split n m isNew found with ⟨rfl, isNode⟩ | ⟨late, member⟩
    · rcases split n' m isNew' found' with ⟨same, -⟩ | ⟨-, member⟩
      · exact same.symm
      · exact absurd member (never m isNode)
    · rcases split n' m isNew' found' with ⟨-, isNode⟩ | ⟨late', -⟩
      · exact absurd member (never m isNode)
      · exact inner.apart n n' m late late' found found'

end Covers

/-! ## Walks -/

theorem EntersAs.opens {tag : String} {directive : Option Directive}
    (enters : EntersAs parent node tag directive s t)
    (fits : s.document.Fits (.cons node below rest)) :
    Document.Opens node below below s.document t.document := by
  obtain ⟨f, -, document⟩ := enters.document
  rw [document]
  exact .whole fits f

/-! ## Split elements -/

/-- The host of a split element has lost its `id` to the new element. -/
theorem attribute?_splitContent {tag : String} {d : Document} (element : d.tag? node = some tag) :
    (splitContent d node).2.attribute? node "id" = none ∧
      (splitContent d node).2.attribute? d.size "id" = d.attribute? node "id" := by
  have plain : "id" ∉ directiveNames := by decide
  constructor
  · rw [Document.attribute?, attributes?_splitContent_old element, Option.bind_some,
      find?_directivesOf plain]
  · rw [Document.attribute?, attributes?_splitContent_new element, Document.attribute?]
    cases d.attributes? node with
    | none => rfl
    | some attributes => exact find?_withoutDirectives attributes plain

/-- The element `node` has been annotated as a host, as of `host`, and divided, which makes the
document `d`; then the new element has been entered, as of `t`. -/
structure Divided (parent : Option AnnotatedId) (node : NodeId) (tag : String) (below : Forest)
    (d : Document) (s host t : Pass) : Prop where
  enters : ∃ condition, EntersAs parent node tag (some (.conditional condition)) s host
  content : EntersAs (some s.annotations.nodes.size) s.document.size tag none
    (host.mapDocument fun _ => d) t
  opens : Document.Opens node below (.cons s.document.size below .nil) s.document d
  size : d.size = s.document.size + 1
  element : d.tag? s.document.size = some tag
  under : d.parent? s.document.size = some node
  cleared : d.attribute? node "id" = none
  moved : d.attribute? s.document.size "id" = s.document.attribute? node "id"

theorem Entered.cases {tag : String} {entry : Entry} (entered : Entered parent node tag s t entry)
    (element : s.document.tag? node = some tag)
    (fits : s.document.Fits (.cons node below rest)) :
    (∃ directive, EntersAs parent node tag directive s t ∧
      entry.opened = [s.annotations.nodes.size] ∧
      entry.inner.parent = some s.annotations.nodes.size) ∨
    ∃ d host, Divided parent node tag below d s host t ∧
      entry.opened = [s.annotations.nodes.size + 1, s.annotations.nodes.size] ∧
      entry.inner.parent = some (s.annotations.nodes.size + 1) := by
  cases entered with
  | whole enters opened inner => exact .inl ⟨_, enters, opened, inner⟩
  | @split host _ _ condition enters unwritten content opened inner =>
      have bounded := fits.children_lt
      have opens := Document.Opens.split element fits
      have new := fst_splitContent element
      have size := size_splitContent element
      have newElement := tag?_splitContent element s.document.size
      have under := parent?_splitContent element bounded s.document.size
      obtain ⟨cleared, moved⟩ := attribute?_splitContent element
      rw [if_pos rfl] at newElement under
      generalize splitContent s.document node = divided at *
      rw [new] at content
      exact .inr ⟨divided.2, host, ⟨⟨condition, enters⟩, content, opens, size, newElement, under,
        cleared, moved⟩, opened, inner⟩

namespace Divided
variable {tag : String} {d : Document} {host : Pass} (divided : Divided parent node tag below d s host t)
include divided

theorem size_host : (host.mapDocument fun _ => d).annotations.nodes.size =
    s.annotations.nodes.size + 1 :=
  divided.enters.elim fun _ enters => enters.size

theorem valid : ∀ q ∈ some s.annotations.nodes.size,
    q < (host.mapDocument fun _ => d).annotations.nodes.size := by
  intro q isHost
  rw [divided.size_host, ← Option.some.inj isHost]
  exact Nat.lt_succ_self _

theorem fits : (host.mapDocument fun _ => d).document.Fits (.cons s.document.size below .nil) :=
  divided.opens.fits

theorem numbered (grown : Grown (some (s.annotations.nodes.size + 1)) F t u) :
    Grown (some s.annotations.nodes.size) (.cons (s.annotations.nodes.size + 1) F .nil) host
      (u.identify (s.annotations.nodes.size + 1)) := by
  rw [← divided.size_host] at grown ⊢
  obtain ⟨whole, top⟩ := divided.content.grown grown divided.valid
  exact (whole.identify top divided.valid).congr_left rfl rfl

theorem closed (valid : ∀ q ∈ parent, q < s.annotations.nodes.size)
    (closed : s.annotations.Closed) : (host.mapDocument fun _ => d).annotations.Closed :=
  divided.enters.elim fun _ enters => (enters.grown (.nil _ host) valid).1.tree.closed closed

end Divided

theorem Entered.fits {tag : String} {entry : Entry}
    (entered : Entered parent node tag s t entry) (element : s.document.tag? node = some tag)
    (fits : s.document.Fits (.cons node below rest)) : t.document.Fits below := by
  rcases entered.cases element fits with ⟨directive, enters, -, -⟩ | ⟨d, host, divided, -, -⟩
  · exact (enters.opens fits).fits
  · exact (divided.content.opens divided.fits).fits

theorem Entered.covers {tag : String} {entry : Entry}
    (entered : Entered parent node tag s t entry) (element : s.document.tag? node = some tag)
    (inner : Covers below below' t u)
    (grown : Grown entry.inner.parent F t u)
    (fits : s.document.Fits (.cons node below .nil)) :
    ∃ f', Covers (.cons node below .nil) f' s (entry.opened.foldl identify u) := by
  rcases entered.cases element fits with
    ⟨directive, enters, opened, inner'⟩ | ⟨d, host, divided, opened, inner'⟩
  · rw [inner'] at grown
    rw [opened]
    exact ⟨_, .enclose (enters.opens fits) enters.tree
      (fun a leaf => ⟨leaf.source, leaf.isText⟩) inner grown.tree fits element⟩
  · rw [inner'] at grown
    have numbered := (divided.numbered grown).tree
    rw [← divided.size_host] at grown
    have content := Covers.enclose (divided.content.opens divided.fits) divided.content.tree
      (fun a leaf => ⟨leaf.source, leaf.isText⟩) inner grown.tree divided.fits divided.element
    rw [divided.size_host] at content
    obtain ⟨condition, enters⟩ := divided.enters
    rw [opened]
    exact ⟨_, .enclose (t := host.mapDocument fun _ => d) divided.opens enters.tree
      (fun a leaf => ⟨leaf.source, leaf.isText⟩) content numbered fits element⟩

/-- A walk of what fits the document leaves a forest that its annotations stand for. -/
theorem Visits.covers {f : Forest} {around : Surroundings} (visits : Visits f around s t)
    (valid : ∀ q ∈ around.parent, q < s.annotations.nodes.size) (fits : s.document.Fits f) :
    ∃ f', Covers f f' s t := by
  induction visits with
  | @nil around s => exact ⟨.nil, .nil s⟩
  | @passed node below rest around s t reports silent later ih =>
      obtain ⟨rest', covers⟩ := ih valid fits.later
      obtain ⟨reworks, located, apart⟩ := Covers.text (.refl node s) fits.first
      have left : Covers (.cons node below .nil) (.cons node below .nil) s { s with reports } :=
        ⟨reworks, located, apart⟩
      obtain ⟨F, grown, -⟩ := later.grown valid
      exact ⟨_, left.trans covers grown.tree fits.later fun n => fits.not_mem_first⟩
  | @text node below rest around s t text data later ih =>
      have shows := shows_visitText s around node text valid
      have valid' : ∀ q ∈ around.parent,
          q < (s.visitText around node text).annotations.nodes.size := fun q isParent =>
        Nat.lt_of_lt_of_le (valid q isParent) shows.grows
      have first := Covers.text shows fits.first
      obtain ⟨rest', covers⟩ := ih valid' (first.reworks.fits_other fits.later fun n =>
        fits.not_mem_first)
      obtain ⟨F, grown, -⟩ := later.grown valid'
      exact ⟨_, first.trans covers grown.tree fits.later fun n => fits.not_mem_first⟩
  | @element node below rest around s t tag attributes entry entered inside data found enters under
      later ihUnder ihLater =>
      have element : s.document.tag? node = some tag := Document.tag?_eq_some.2 ⟨_, data⟩
      obtain ⟨below', inner⟩ := ihUnder enters.size.2 (enters.fits element fits)
      obtain ⟨F, grownUnder, -⟩ := under.grown enters.size.2
      obtain ⟨G, grown⟩ := enters.grown grownUnder valid
      obtain ⟨f', first⟩ := enters.covers element inner grownUnder fits.first
      have valid' : ∀ q ∈ around.parent,
          q < (entry.opened.foldl identify inside).annotations.nodes.size := fun q isParent =>
        Nat.lt_of_lt_of_le (valid q isParent) grown.tree.size
      obtain ⟨rest', covers⟩ := ihLater valid' (first.reworks.fits_other fits.later fun n =>
        fits.not_mem_first)
      obtain ⟨H, grownLater, -⟩ := later.grown valid'
      exact ⟨_, first.trans covers grownLater.tree fits.later fun n => fits.not_mem_first⟩

/-! ## Induction on walks -/

/-- What a walk of `f` below `parent` starts from. -/
structure Walkable (parent : Option AnnotatedId) (f : Forest) (s : Pass) : Prop where
  valid : ∀ q ∈ parent, q < s.annotations.nodes.size
  fits : s.document.Fits f
  closed : s.annotations.Closed

namespace Walkable

theorem first (walkable : Walkable parent (.cons node below rest) s) :
    Walkable parent (.cons node below .nil) s :=
  ⟨walkable.valid, walkable.fits.first, walkable.closed⟩

theorem later (walkable : Walkable parent (.cons node below rest) s)
    (reworks : Document.Reworks (.cons node below .nil) f' s.document t.document)
    (grows : s.annotations.Grows parent F t.annotations) : Walkable parent rest t where
  valid q isParent := Nat.lt_of_lt_of_le (walkable.valid q isParent) grows.size
  fits := reworks.fits_other walkable.fits.later fun _ => walkable.fits.not_mem_first
  closed := grows.closed walkable.closed

theorem inside {tag : String} {entry : Entry}
    (walkable : Walkable parent (.cons node below rest) s)
    (entered : Entered parent node tag s t entry) (element : s.document.tag? node = some tag) :
    Walkable entry.inner.parent below t where
  valid := entered.size.2
  fits := entered.fits element walkable.fits
  closed := by
    rcases entered.cases element walkable.fits with
      ⟨directive, enters, -, -⟩ | ⟨d, host, divided, -, -⟩
    · exact (enters.grown (.nil _ t) walkable.valid).1.tree.closed walkable.closed
    · exact (divided.content.grown (.nil _ t) divided.valid).1.tree.closed
        (divided.closed walkable.valid walkable.closed)

end Walkable

/-- What single nodes keep and forests put together, every walk keeps. -/
theorem Visits.induct {P : Forest → Surroundings → Pass → Pass → Prop}
    (nil : ∀ around s, P .nil around s s)
    (passed : ∀ {around : Surroundings} {node below s} reports, s.document.text? node = none →
      P (.cons node below .nil) around s { s with reports })
    (text : ∀ {around : Surroundings} {node below s text},
      s.document.data? node = some (.text text) →
      Walkable around.parent (.cons node below .nil) s →
      P (.cons node below .nil) around s (s.visitText around node text))
    (element : ∀ {around : Surroundings} {node tag below s t u entry below'},
      s.document.tag? node = some tag → s.enter around node tag = (t, some entry) →
      Entered around.parent node tag s t entry →
      Visits below entry.inner t u → Covers below below' t u →
      Walkable around.parent (.cons node below .nil) s → Walkable entry.inner.parent below t →
      P below entry.inner t u →
      P (.cons node below .nil) around s (entry.opened.foldl identify u))
    (trans : ∀ {around : Surroundings} {f f' g s t u}, Visits f around s t →
      Visits g around t u → P f around s t → P g around t u → Covers f f' s t →
      Walkable around.parent f s → Walkable around.parent g t → s.document.Fits g →
      (∀ n ∈ g.preorder, n ∉ f.preorder) → P (f.append g) around s u)
    {f : Forest} {around : Surroundings} (visits : Visits f around s t)
    (walkable : Walkable around.parent f s) : P f around s t := by
  induction visits with
  | @nil around s => exact nil around s
  | @passed node below rest around s t reports silent later ih =>
      have here : Visits (.cons node below .nil) around s { s with reports } := .passed silent .nil
      obtain ⟨f', first⟩ := here.covers walkable.valid walkable.fits.first
      have walkable' := walkable.later first.reworks (AnnotatedTree.Grows.nil _ _)
      exact trans here later (passed reports silent) (ih walkable') first walkable.first walkable'
        walkable.fits.later fun n => walkable.fits.not_mem_first
  | @text node below rest around s t text' data later ih =>
      have here : Visits (.cons node below .nil) around s (s.visitText around node text') :=
        .text data .nil
      obtain ⟨f', first⟩ := here.covers walkable.valid walkable.fits.first
      obtain ⟨F, grown, -⟩ := here.grown walkable.valid
      have walkable' := walkable.later first.reworks grown.tree
      exact trans here later (text data walkable.first) (ih walkable') first walkable.first
        walkable' walkable.fits.later fun n => walkable.fits.not_mem_first
  | @element node below rest around s t tag attributes entry entered inside data found enters under
      later ihUnder ihLater =>
      have isElement : s.document.tag? node = some tag := Document.tag?_eq_some.2 ⟨_, data⟩
      have walkableUnder := walkable.inside enters isElement
      have here : Visits (.cons node below .nil) around s (entry.opened.foldl identify inside) :=
        .element data found enters under .nil
      obtain ⟨below', covers⟩ := under.covers walkableUnder.valid walkableUnder.fits
      obtain ⟨f', first⟩ := here.covers walkable.valid walkable.fits.first
      obtain ⟨F, grown, -⟩ := here.grown walkable.valid
      have walkable' := walkable.later first.reworks grown.tree
      exact trans here later
        (element isElement found enters under covers walkable.first walkableUnder
          (ihUnder walkableUnder))
        (ihLater walkable') first walkable.first walkable' walkable.fits.later fun n =>
          walkable.fits.not_mem_first

end Pass
end ComponentMarkup
