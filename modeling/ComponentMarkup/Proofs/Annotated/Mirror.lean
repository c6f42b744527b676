import ComponentMarkup.Proofs.Annotated.ClosedForm
import ComponentMarkup.Proofs.Annotated.Lasting
import ComponentMarkup.Proofs.Annotated.Rows
import ComponentMarkup.Proofs.Annotated.Vacant

/-!
The forest of annotations beside the forest that was walked: for each node of the one what became of
it in the other, and in the document.
-/

namespace ComponentMarkup

/-- The attributes of the source of the annotation `id`, with its identifier written to them if it
is generated and code does not build the node. -/
def AnnotatedTree.identified (t : AnnotatedTree) (id : AnnotatedId) (a : AnnotatedNode)
    (attributes : Attributes) : Attributes :=
  match a.identifier with
  | some identifier =>
      if a.isNumbered && !t.isBuilt id then attributes.insert "id" identifier else attributes
  | none => attributes

theorem AnnotatedTree.find?_identified_of_ne {name : String} (other : name ≠ "id")
    (t : AnnotatedTree) (id : AnnotatedId) (a : AnnotatedNode) (attributes : Attributes) :
    (t.identified id a attributes).find? name = attributes.find? name := by
  unfold AnnotatedTree.identified
  split
  · split
    · exact OrderedMap.find?_insert_of_ne _ _ (Ne.symm other)
    · rfl
  · rfl

namespace Pass

/-! ## Mirrored forests -/

/-- The annotation `id` stands for the element `node`. -/
structure Stands (u : Pass) (parent : Option AnnotatedId) (node : NodeId)
    (content : Option AnnotatedId) (children : List AnnotatedId) (id : AnnotatedId)
    (a : AnnotatedNode) : Prop where
  found : u.annotations.get? id = some a
  parent : a.parent = parent
  source : a.source = node
  element : a.isText = false
  content : a.content? = content
  children : a.children = children

/-- Where a forest stands: the annotation and the node above it, and whether it keeps its blanks. -/
structure Place where
  parent : Option AnnotatedId
  holder : Option NodeId
  keepBlanks : Bool

/-- A forest of `d` at a place, and the forest of the annotations that `u` has for it. -/
inductive Mirrors (d : Document) (u : Pass) : Place → Forest → Forest → Prop
  | nil {place : Place} : Mirrors d u place .nil .nil
  | append {place : Place} {f g F G : Forest} (first : Mirrors d u place f F)
      (later : Mirrors d u place g G) : Mirrors d u place (f.append g) (F.append G)
  /-- Comments and such, and elements that are left out. -/
  | passed {place : Place} {node : NodeId} {below : Forest} (silent : d.text? node = none)
      (left : ∀ tag, d.tag? node = some tag → d.LeftOut u.file.path u.reports node tag)
      (same : d.Carries u.document place.holder (.cons node below .nil)) :
      Mirrors d u place (.cons node below .nil) .nil
  | text {place : Place} {parent : AnnotatedId} {node : NodeId} {below : Forest} {old : Node}
      {contents : String} {ids : List AnnotatedId} (under : place.parent = some parent)
      (found : d.node? node = some old) (isText : old.data = .text contents)
      (row : TextRow u d.size parent place.keepBlanks node { old with parent := place.holder } contents
        ids)
      (same : d.Carries u.document (some node) below) :
      Mirrors d u place (.cons node below .nil) (.leaves ids)
  | whole {place : Place} {node : NodeId} {below F : Forest} {old : Node} {tag : String}
      {attributes : Attributes} {id : AnnotatedId} {a : AnnotatedNode}
      (found : d.node? node = some old) (element : old.data = .element tag attributes)
      (stands : u.Stands place.parent node none F.tops id a) (unsplit : splits tag a.directive? = false)
      (after : u.document.node? node = some
        { old with
          parent := place.holder
          data := .element tag (u.annotations.identified id a
            (if readsAttributes tag a.directive? then attributesRead attributes else attributes)) })
      (inside : Mirrors d u ⟨some id, some node, d.keepsBlanks node place.keepBlanks⟩ below F) :
      Mirrors d u place (.cons node below .nil) (.cons id F .nil)
  /-- A host and the element that was split off it. -/
  | split {place : Place} {node new : NodeId} {below F : Forest} {old : Node} {tag : String}
      {attributes : Attributes} {id inner : AnnotatedId} {a b : AnnotatedNode}
      (found : d.node? node = some old) (element : old.data = .element tag attributes)
      (stands : u.Stands place.parent node (some inner) [inner] id a)
      (splits : splits tag a.directive? = true)
      (content : u.Stands (some id) new none F.tops inner b) (plain : b.directive? = none)
      (isNew : d.size ≤ new)
      (after : u.document.node? node = some
        { old with
          parent := place.holder
          children := [new]
          data := .element tag (u.annotations.identified id a (directivesOf d node)) })
      (made : u.document.node? new = some
        { old with
          parent := some node
          data := .element tag (attributesRead (withoutDirectives attributes)) })
      (inside : Mirrors d u ⟨some inner, some new, d.keepsBlanks node place.keepBlanks⟩ below F) :
      Mirrors d u place (.cons node below .nil) (.cons id (.cons inner F .nil) .nil)

variable {d : Document} {s t u i : Pass} {parent : Option AnnotatedId} {holder : Option NodeId}
  {around : Surroundings} {id : AnnotatedId} {a b : AnnotatedNode} {node : NodeId} {tag : String}
  {f below below' rest F G : Forest} {old : Node} {attributes : Attributes} {entry : Entry}

/-! ## Walks in progress -/

/-- What a walk of `f` starts from when nothing has happened to `f` since `d`. -/
structure Untouched (d : Document) (holder : Option NodeId) (around : Surroundings) (f : Forest)
    (s : Pass) : Prop where
  walkable : Walkable around.parent f s
  ready : Ready around.parent f s
  carries : d.Carries s.document holder f
  size : d.size ≤ s.document.size
  placed : around.parent = none → ∀ n ∈ f.tops, d.text? n = none

/-- What a walk of `f` from `s` to `t` did is still so in `u`. -/
structure Lasts (parent : Option AnnotatedId) (f : Forest) (s t u : Pass) : Prop where
  path : u.file.path = s.file.path
  old : ∀ n ∈ f.preorder, u.document.node? n = t.document.node? n
  new : ∀ n, s.document.size ≤ n → n < t.document.size → u.document.node? n = t.document.node? n
  made : ∀ id, s.annotations.nodes.size ≤ id → id < t.annotations.nodes.size →
    u.annotations.get? id = t.annotations.get? id
  builds : ∀ p ∈ parent, u.annotations.buildsChildren p = s.annotations.buildsChildren p
  reports : ∀ r ∈ t.reports, r ∈ u.reports

/-- A walk of `f` from `s` to `t` has left annotations that mirror `f` in `u`. -/
def Mirrored (d : Document) (u : Pass) (holder : Option NodeId) (around : Surroundings) (f : Forest)
    (s t : Pass) : Prop :=
  ∃ F, Grown around.parent F s t ∧ Mirrors d u ⟨around.parent, holder, around.keepBlanks⟩ f F

theorem Lasts.isBuilt (lasts : Lasts parent f s t u) (settled : Settles parent f s t)
    (valid : ∀ q ∈ parent, q < s.annotations.nodes.size)
    (found : t.annotations.get? id = some a) (found' : u.annotations.get? id = some a)
    (under : a.parent = parent) : u.annotations.isBuilt id = t.annotations.isBuilt id := by
  rw [AnnotatedTree.isBuilt, AnnotatedTree.isBuilt, AnnotatedTree.parent?_eq found,
    AnnotatedTree.parent?_eq found', under]
  cases parent with
  | none => rfl
  | some p =>
      dsimp only
      rw [lasts.builds p rfl, settled.builds p (valid p rfl)]

theorem identified_congr (built : u.annotations.isBuilt id = t.annotations.isBuilt id) :
    u.annotations.identified id a = t.annotations.identified id a := by
  funext attributes
  rw [AnnotatedTree.identified, AnnotatedTree.identified, built]

/-- Identifying writes to the source what the annotation asks for. -/
theorem document_identify_eq (found : s.annotations.get? id = some a)
    (unnumbered : a.isNumbered = false) (element : a.isText = false)
    (after : (s.identify id).annotations.get? id = some b) : (s.identify id).document =
      s.document.mapAttributes a.source ((s.identify id).annotations.identified id b) := by
  rcases identify_cases found with ⟨-, same⟩ | ⟨fresh, needed⟩
  · rw [same] at after ⊢
    obtain rfl := Option.some.inj (found.symm.trans after)
    have unwritten : s.annotations.identified id a = fun attributes => attributes := by
      funext attributes
      rw [AnnotatedTree.identified, unnumbered]
      cases a.identifier <;> rfl
    rw [unwritten, Document.mapAttributes_id]
  · have numbered := (isNumbered_identify found fresh needed element id).2 (.inr rfl)
    rw [AnnotatedTree.isNumbered_eq after] at numbered
    rw [get?_identify found fresh needed, found, Option.map_some] at after
    have labelled : b.identifier = some (elementIdentifier s.counter) := by
      rw [← Option.some.inj after]
      exact if_pos rfl
    have written : (s.identify id).annotations.identified id b = fun attributes =>
        if s.annotations.isBuilt id then attributes
        else attributes.insert "id" (elementIdentifier s.counter) := by
      funext attributes
      rw [AnnotatedTree.identified, labelled, numbered, isBuilt_identify]
      cases s.annotations.isBuilt id <;> rfl
    rw [written, identify_eq found fresh needed, document_number, isBuilt_markQuery,
      counter_markQuery, document_markQuery]
    cases s.annotations.isBuilt id with
    | true => exact (s.document.mapAttributes_id a.source).symm
    | false => rfl

/-! ## Nodes that are passed -/

theorem Untouched.position (untouched : Untouched d holder around (.cons node below rest) s) :
    s.document.position node = d.position node := by
  obtain ⟨⟨old, before, after⟩, -⟩ := untouched.carries
  rw [Document.position, Document.position, before, after]

theorem Untouched.data? (untouched : Untouched d holder around (.cons node below rest) s) :
    s.document.data? node = d.data? node :=
  untouched.carries.data? node List.mem_cons_self

theorem Untouched.vacant (untouched : Untouched d holder around (.cons node below rest) s)
    (vacant : s.document.Vacant node tag) : d.Vacant node tag := by
  obtain ⟨old, before, after⟩ := untouched.carries.1
  have tops := untouched.walkable.fits.follows.1
  refine Plan.vacant_congr vacant untouched.data?.symm ?_ fun child member => ?_
  · rw [Document.children_eq before, Document.children_eq after]
  · rw [← tops] at member
    refine (untouched.carries.2.1.data? child ?_).symm
    exact Forest.mem_preorder_of_mem_tops member

/-- What is left out is left out for a reason. -/
theorem leftOut_of_enter (untouched : Untouched d holder around (.cons node below rest) s)
    (left : s.enter around node tag = (t, none)) (path : u.file.path = s.file.path)
    (reports : ∀ r ∈ t.reports, r ∈ u.reports) : d.LeftOut u.file.path u.reports node tag := by
  rcases left_of_enter left with ⟨script, -⟩ | ⟨dropped, rfl⟩
  · exact .script script
  · rcases Plan.read_dropped dropped with ⟨problem, member, drops⟩ | vacant
    · refine .reported drops (Problem.severity_of_drops drops) ?_
      rw [path, ← untouched.position]
      exact reports _ (List.mem_append_right _ (List.mem_map.2 ⟨problem, member, rfl⟩))
    · exact .vacant (untouched.vacant vacant)

theorem mirrored_passed (untouched : Untouched d holder around (.cons node below .nil) s)
    (tree : t.annotations = s.annotations) (counter : t.counter = s.counter)
    (document : t.document = s.document)
    (lasts : Lasts around.parent (.cons node below .nil) s t u) (silent : d.text? node = none)
    (left : ∀ tag, d.tag? node = some tag → d.LeftOut u.file.path u.reports node tag) :
    Mirrored d u holder around (.cons node below .nil) s t := by
  refine ⟨.nil, (Grown.nil around.parent t).congr_left tree.symm counter.symm,
    .passed silent left (untouched.carries.congr fun n member => ?_)⟩
  rw [lasts.old n member, document]

/-! ## Texts -/

theorem mirrored_text {contents : String}
    (untouched : Untouched d holder around (.cons node below .nil) s)
    (data : s.document.data? node = some (.text contents))
    (lasts : Lasts around.parent (.cons node below .nil) s (s.visitText around node contents) u) :
    Mirrored d u holder around (.cons node below .nil) s (s.visitText around node contents) := by
  obtain ⟨old, before, after⟩ := untouched.carries.1
  have held := untouched.data?.symm.trans data
  have isText : old.data = .text contents := by
    rw [Document.data?_eq before] at held
    exact Option.some.inj held
  have shown : d.text? node = some contents := by rw [Document.text?, held]
  have shows := shows_visitText s around node contents untouched.walkable.valid
  cases under : around.parent with
  | none =>
      have absent := untouched.placed under node List.mem_cons_self
      rw [shown] at absent
      cases absent
  | some p =>
      have inside : p < s.annotations.nodes.size := untouched.walkable.valid p under
      obtain ⟨ids, row, ids_eq, appended⟩ := textRow_visitText under inside after isText
      obtain ⟨F, grown, -⟩ := grown_visitText under inside node contents
      -- The new annotations are the children that are appended, and have none themselves.
      have tops : F.tops = ids := by
        obtain ⟨a, found⟩ := AnnotatedTree.get?_isSome inside
        obtain ⟨a', found', extended, -⟩ := grown.tree.old p a found
        rw [if_pos rfl] at extended
        rw [AnnotatedTree.children_eq found', AnnotatedTree.children_eq found,
          extended.children] at appended
        exact List.append_cancel_left appended
      have isNew (id : AnnotatedId) (member : id ∈ ids) : s.annotations.nodes.size ≤ id ∧
          id < (s.visitText around node contents).annotations.nodes.size := by
        rw [ids_eq, List.mem_range'_1, Nat.add_sub_cancel' shows.grows] at member
        exact member
      have childless : ∀ id ∈ ids, (s.visitText around node contents).annotations.children id = [] := by
        intro id member
        obtain ⟨a, found⟩ := AnnotatedTree.get?_isSome (isNew id member).2
        rw [AnnotatedTree.children_eq found, (shows.new id a (isNew id member).1 found).children]
      obtain rfl : F = .leaves ids := Forest.eq_of_follows grown.tree.follows
        (Forest.follows_leaves childless) (tops.trans (Forest.tops_leaves ids).symm)
      have fits := untouched.walkable.fits
      refine ⟨.leaves ids, by rw [under]; exact grown,
        .text under before isText (row.mono untouched.size ?_ ?_ ?_) ?_⟩
      · exact lasts.old node List.mem_cons_self
      · exact fun id member => lasts.made id (isNew id member).1 (isNew id member).2
      · exact lasts.new
      · refine untouched.carries.2.1.congr fun n member => ?_
        rw [lasts.old n (List.mem_cons_of_mem _ (List.mem_append_left _ member)),
          shows.document n (fits.under.inside n member) fun same => fits.not_mem_below (same ▸ member)]

/-! ## Elements -/

theorem Untouched.element (untouched : Untouched d holder around (.cons node below rest) s)
    (element : s.document.tag? node = some tag) : ∃ old attributes,
      d.node? node = some old ∧ s.document.node? node = some { old with parent := holder } ∧
        old.data = .element tag attributes := by
  obtain ⟨old, before, after⟩ := untouched.carries.1
  obtain ⟨attributes, data⟩ := Document.tag?_eq_some.1 element
  rw [Document.data?_eq after] at data
  exact ⟨old, attributes, before, after, Option.some.inj data⟩

theorem Untouched.keepsBlanks (untouched : Untouched d holder around (.cons node below rest) s)
    (inherited : Bool) : s.document.keepsBlanks node inherited = d.keepsBlanks node inherited :=
  Document.keepsBlanks_congr (Document.attribute?_congr untouched.data? "indentation") inherited

/-- What is still so of the walk below an element when the element itself is done. -/
theorem Lasts.inside {opened : List AnnotatedId} {inner : Option AnnotatedId}
    (lasts : Lasts parent (.cons node below .nil) s (opened.foldl identify i) u)
    (settled : Settles inner below t i) (basis : t.basis = s.basis)
    (fits : s.document.Fits (.cons node below .nil))
    (larger : s.document.size ≤ t.document.size)
    (size : (opened.foldl identify i).document.size = i.document.size)
    (document : ∀ n, n ≠ node → (opened.foldl identify i).document.node? n = i.document.node? n)
    (early : ∀ id ∈ opened, id < t.annotations.nodes.size)
    (grows : s.annotations.nodes.size ≤ t.annotations.nodes.size)
    (started : ∀ q ∈ inner, s.annotations.nodes.size ≤ q ∧ q < t.annotations.nodes.size)
    (later : t.annotations.nodes.size ≤ i.annotations.nodes.size) :
    Lasts inner below t i u where
  path := lasts.path.trans (path_of_basis basis).symm
  old n member := by
    rw [lasts.old n (List.mem_cons_of_mem _ (List.mem_append_left _ member)), document]
    exact fun same => fits.not_mem_below (same ▸ member)
  new n isNew inside := by
    have notNode : n ≠ node := by
      rintro rfl
      exact Nat.not_lt_of_ge (Nat.le_trans larger isNew) (fits.inside n List.mem_cons_self)
    rw [lasts.new n (Nat.le_trans larger isNew) (size ▸ inside), document n notNode]
  made id isNew inside := by
    rw [lasts.made id (Nat.le_trans grows isNew) (by rwa [size_foldl_identify]),
      get?_foldl_identify_of_lt i fun other member => Nat.lt_of_lt_of_le (early other member) isNew]
  builds q isInner := by
    obtain ⟨isNew, inside⟩ := started q isInner
    have inside' : q < (opened.foldl identify i).annotations.nodes.size := by
      rw [size_foldl_identify]
      exact Nat.lt_of_lt_of_le inside later
    have kept (ids : List AnnotatedId) (v : Pass) :
        (ids.foldl identify v).annotations.buildsChildren q = v.annotations.buildsChildren q := by
      induction ids generalizing v with
      | nil => rfl
      | cons id ids ih => rw [List.foldl_cons, ih, buildsChildren_identify]
    rw [AnnotatedTree.buildsChildren, lasts.made q isNew inside', ← AnnotatedTree.buildsChildren,
      kept, settled.builds q inside]
  reports r member := lasts.reports r (by rwa [reports_foldl_identify])

/-- The annotation of an element when all below it has been visited. -/
theorem EntersAs.stands {directive : Option Directive} {content : Option AnnotatedId}
    (enters : EntersAs parent node tag directive s t)
    (grows : t.annotations.Grows (some s.annotations.nodes.size) F i.annotations)
    (linked : i.annotations.content? s.annotations.nodes.size = content) :
    ∃ a, i.Stands parent node content F.tops s.annotations.nodes.size a ∧ a.directive? = directive ∧
      a.isNumbered = false := by
  obtain ⟨a, here, leaf⟩ := enters.tree.here
  obtain ⟨a', found, extended, -⟩ := grows.old _ a here
  rw [if_pos rfl] at extended
  have core := extended.core
  rw [AnnotatedTree.content?_eq found] at linked
  refine ⟨a', ⟨found, ?_, ?_, ?_, linked, ?_⟩, ?_, ?_⟩
  · rw [AnnotatedNode.parent_of_core core, leaf.parent]
  · rw [AnnotatedNode.source_of_core core, leaf.source]
  · rw [AnnotatedNode.isText_of_core core, leaf.isText]
  · rw [extended.children, leaf.children, List.nil_append]
  · rw [AnnotatedNode.directive?_of_core core, leaf.directive?]
  · rw [AnnotatedNode.isNumbered_of_core core, leaf.isNumbered_eq]

/-- Numbering leaves what an annotation stands for. -/
theorem Stands.identify {content : Option AnnotatedId} {children : List AnnotatedId}
    (stands : s.Stands parent node content children id a) (other : AnnotatedId) :
    ∃ b, (s.identify other).Stands parent node content children id b ∧
      b.directive? = a.directive? := by
  have inside : id < (s.identify other).annotations.nodes.size := by
    rw [size_identify]
    exact AnnotatedTree.lt_size_of_get? stands.found
  obtain ⟨b, after⟩ := AnnotatedTree.get?_isSome inside
  obtain ⟨c, query, identifier, before, rfl, -⟩ := get?_of_identify after
  obtain rfl := Option.some.inj (stands.found.symm.trans before)
  exact ⟨_, ⟨after, stands.parent, stands.source, stands.element, stands.content, stands.children⟩,
    rfl⟩

theorem Stands.of_get? {content : Option AnnotatedId} {children : List AnnotatedId}
    (stands : s.Stands parent node content children id a)
    (same : u.annotations.get? id = s.annotations.get? id) :
    u.Stands parent node content children id a :=
  ⟨same.trans stands.found, stands.parent, stands.source, stands.element, stands.content,
    stands.children⟩

theorem directivesOf_congr {e : Document} (same : e.data? node = d.data? node) :
    directivesOf e node = directivesOf d node := by
  rw [directivesOf, directivesOf, heldDirectives, heldDirectives, Document.attributes?_congr same]

section Element
variable (untouched : Untouched d holder around (.cons node below .nil) s)
  (element : s.document.tag? node = some tag) (found : s.enter around node tag = (t, some entry))
  (under : Visits below entry.inner t i)
  (ih : ∀ holder, Untouched d holder entry.inner below t → Lasts entry.inner.parent below t i u →
    Mirrored d u holder entry.inner below t i)
  (lasts : Lasts around.parent (.cons node below .nil) s (entry.opened.foldl identify i) u)
include untouched element found under ih lasts

theorem mirrored_whole {directive : Option Directive}
    (enters : EntersAs around.parent node tag directive s t)
    (opened : entry.opened = [s.annotations.nodes.size])
    (inner : entry.inner.parent = some s.annotations.nodes.size) :
    Mirrored d u holder around (.cons node below .nil) s (entry.opened.foldl identify i) := by
  obtain ⟨old, attributes, before, now, data⟩ := untouched.element element
  have walkable := untouched.walkable
  have fits := walkable.fits
  have entered := entered_of_enter walkable.valid found
  have reads := reads_enter walkable.valid element found
  have basis := (marked_enter element found).basis
  have inside := walkable.inside entered element
  have ready := entered.ready element fits
  have settled := under.settles inside ready
  have size := enters.size
  have node_lt : node < s.document.size := fits.inside node List.mem_cons_self
  obtain ⟨below', covers⟩ := under.covers inside.valid inside.fits
  obtain ⟨a₀, here₀, unsplit, written⟩ := reads.whole opened
  have sameDirective : a₀.directive? = directive := by
    obtain ⟨a, here, leaf⟩ := enters.tree.here
    obtain rfl := Option.some.inj (here.symm.trans here₀)
    exact leaf.directive?
  rw [sameDirective] at unsplit written
  have larger : s.document.size ≤ t.document.size := by rw [written, Document.size_mapAttributes]
  -- Below the element nothing has been touched when the visit gets there.
  have carries : d.Carries t.document (some node) below := by
    refine untouched.carries.2.1.congr fun n member => ?_
    rw [written]
    exact Document.node?_mapAttributes_of_ne _ _ fun same => fits.not_mem_below (same ▸ member)
  have untouched' : Untouched d (some node) entry.inner below t := by
    refine ⟨inside, ready, carries, Nat.le_trans untouched.size larger, fun top => ?_⟩
    rw [inner] at top
    cases top
  have linked : i.annotations.content? s.annotations.nodes.size = none := by
    rw [under.content?_old inside.valid (size ▸ Nat.lt_succ_self _)]
    exact (linked_enter walkable.valid found).whole opened
  have lasts' : Lasts entry.inner.parent below t i u := by
    obtain ⟨F, grown, -⟩ := under.grown inside.valid
    rw [inner] at grown
    obtain ⟨k, identified⟩ := document_identify (enters.after grown.tree).2
    refine lasts.inside settled basis fits larger ?_ (fun n other => ?_) (fun id member => ?_)
      (Nat.le_of_lt entered.size.1) (fun q isInner => ?_) under.size_le
    · rw [opened]
      exact (congrArg Document.size identified).trans (i.document.size_mapAttributes node k)
    · rw [opened]
      exact (congrArg (·.node? n) identified).trans (i.document.node?_mapAttributes_of_ne k other)
    · rw [opened, List.mem_singleton] at member
      rw [member, size]
      exact Nat.lt_succ_self _
    · rw [inner] at isInner
      rw [← Option.some.inj isInner, size]
      exact ⟨Nat.le_refl _, Nat.lt_succ_self _⟩
  obtain ⟨F, grown, mirrors⟩ := ih (some node) untouched' lasts'
  have settledWhole := entered.settles element settled grown walkable
  rw [inner] at grown
  obtain ⟨whole, top⟩ := enters.grown grown walkable.valid
  obtain ⟨a, stands, shape, unnumbered⟩ := enters.stands grown.tree linked
  obtain ⟨b, stands', shape'⟩ := stands.identify s.annotations.nodes.size
  have read : t.document.node? node = some
      { old with
        parent := holder
        data := .element tag ((if readsAttributes tag directive then attributesRead
          else fun attributes => attributes) attributes) } := by
    rw [written]
    exact Document.node?_mapAttributes_self now data _
  have kept := covers.reworks.outside node (Nat.lt_of_lt_of_le node_lt larger) fits.not_mem_below
  have final := Document.node?_mapAttributes_self (kept.trans read) rfl
    ((i.identify s.annotations.nodes.size).annotations.identified s.annotations.nodes.size b)
  rw [← stands.source, ← document_identify_eq stands.found unnumbered stands.element stands'.found,
    stands.source] at final
  rw [opened] at lasts settledWhole ⊢
  have same := lasts.made s.annotations.nodes.size (Nat.le_refl _) (by
    rw [size_foldl_identify]
    exact AnnotatedTree.lt_size_of_get? stands.found)
  have built := lasts.isBuilt settledWhole walkable.valid stands'.found (same.trans stands'.found)
    stands'.parent
  refine ⟨_, whole.identify top walkable.valid, .whole before data (stands'.of_get? same) ?_ ?_ ?_⟩
  · rw [shape', shape, unsplit]
  · rw [lasts.old node List.mem_cons_self, identified_congr built, shape', shape]
    refine final.trans ?_
    cases readsAttributes tag directive <;> rfl
  · rw [inner, reads.keepBlanks, untouched.keepsBlanks] at mirrors
    exact mirrors

theorem mirrored_split {d' : Document} {host : Pass}
    (divided : Divided around.parent node tag below d' s host t)
    (opened : entry.opened = [s.annotations.nodes.size + 1, s.annotations.nodes.size])
    (inner : entry.inner.parent = some (s.annotations.nodes.size + 1)) :
    Mirrored d u holder around (.cons node below .nil) s (entry.opened.foldl identify i) := by
  obtain ⟨old, attributes, before, now, data⟩ := untouched.element element
  have walkable := untouched.walkable
  have fits := walkable.fits
  have entered := entered_of_enter walkable.valid found
  have reads := reads_enter walkable.valid element found
  have linked := linked_enter walkable.valid found
  have basis := (marked_enter element found).basis
  have inside := walkable.inside entered element
  have ready := entered.ready element fits
  have settled := under.settles inside ready
  have size := divided.content.size
  rw [divided.size_host] at size
  have node_lt : node < s.document.size := fits.inside node List.mem_cons_self
  obtain ⟨below', covers⟩ := under.covers inside.valid inside.fits
  have host_lt : s.annotations.nodes.size < t.annotations.nodes.size := entered.size.1
  have content_lt : s.annotations.nodes.size + 1 < t.annotations.nodes.size :=
    size ▸ Nat.lt_succ_self _
  obtain ⟨notTemplate, written⟩ := reads.split opened
  have documentSize := divided.document_size
  have larger : s.document.size ≤ t.document.size := documentSize ▸ Nat.le_succ _
  have apart : node ∉ s.document.children node := fun member =>
    fits.not_mem_below (Forest.mem_preorder_of_mem_tops (fits.follows.1 ▸ member))
  have carries : d.Carries t.document (some s.document.size) below := by
    refine (carries_splitContent untouched.carries.2.1 fits now data).congr fun n member => ?_
    rw [written]
    exact Document.node?_mapAttributes_of_ne _ _ (Nat.ne_of_lt (fits.under.inside n member))
  have untouched' : Untouched d (some s.document.size) entry.inner below t := by
    refine ⟨inside, ready, carries, Nat.le_trans untouched.size larger, fun top => ?_⟩
    rw [inner] at top
    cases top
  have linkedHost : i.annotations.content? s.annotations.nodes.size =
      some (s.annotations.nodes.size + 1) := by
    rw [under.content?_old inside.valid host_lt]
    exact (linked.split opened).1
  have linkedContent : i.annotations.content? (s.annotations.nodes.size + 1) = none := by
    rw [under.content?_old inside.valid content_lt]
    exact (linked.split opened).2
  have lasts' : Lasts entry.inner.parent below t i u := by
    obtain ⟨F, grown, -⟩ := under.grown inside.valid
    rw [inner] at grown
    have same := document_identify_of_built (divided.isBuilt grown)
    obtain ⟨condition, enters⟩ := divided.enters
    obtain ⟨k, identified⟩ := document_identify (enters.after (divided.numbered grown).tree).2
    rw [same] at identified
    refine lasts.inside settled basis fits larger ?_ (fun n other => ?_) (fun id member => ?_)
      (Nat.le_of_lt entered.size.1) (fun q isInner => ?_) under.size_le
    · rw [opened]
      exact (congrArg Document.size identified).trans (i.document.size_mapAttributes node k)
    · rw [opened]
      exact (congrArg (·.node? n) identified).trans (i.document.node?_mapAttributes_of_ne k other)
    · rw [opened, List.mem_cons, List.mem_singleton] at member
      rcases member with rfl | rfl
      · exact content_lt
      · exact host_lt
    · rw [inner] at isInner
      obtain rfl := Option.some.inj isInner
      exact ⟨Nat.le_succ _, content_lt⟩
  obtain ⟨F, grown, mirrors⟩ := ih (some s.document.size) untouched' lasts'
  have settledWhole := entered.settles element settled grown walkable
  rw [inner] at grown
  have same := document_identify_of_built (divided.isBuilt grown)
  obtain ⟨condition, enters⟩ := divided.enters
  have hosted := divided.numbered grown
  obtain ⟨whole, top⟩ := enters.grown hosted walkable.valid
  -- The content and the host, when all below has been visited and when both have been numbered.
  have grownContent := grown.tree
  rw [← divided.size_host] at grownContent linkedContent
  obtain ⟨b, content, plain, -⟩ := divided.content.stands grownContent linkedContent
  rw [divided.size_host] at content
  obtain ⟨b₁, content, plain₁⟩ := content.identify (s.annotations.nodes.size + 1)
  obtain ⟨b₂, content, plain₂⟩ := content.identify s.annotations.nodes.size
  obtain ⟨a, stands, shape, unnumbered⟩ := enters.stands hosted.tree
    ((content?_identify _ _ _).trans linkedHost)
  obtain ⟨a', stands', shape'⟩ := stands.identify s.annotations.nodes.size
  have kept := covers.reworks.outside node (Nat.lt_of_lt_of_le node_lt larger) fits.not_mem_below
  have keptNew := covers.reworks.outside s.document.size (documentSize ▸ Nat.lt_succ_self _)
    fun member => Nat.lt_irrefl _ (fits.under.inside _ member)
  have read : t.document.node? node = some
      { old with
        parent := holder
        children := [s.document.size]
        data := .element tag (directivesOf s.document node) } := by
    rw [written, Document.node?_mapAttributes_of_ne _ _ (Nat.ne_of_lt node_lt)]
    exact node?_splitContent_old now data fits.children_lt apart
  have readNew : t.document.node? s.document.size = some
      { old with
        parent := some node
        data := .element tag (attributesRead (withoutDirectives attributes)) } := by
    rw [written]
    exact Document.node?_mapAttributes_self (node?_splitContent_new now data fits.children_lt) rfl _
  have final := Document.node?_mapAttributes_self ((same ▸ kept).trans read) rfl
    (((i.identify (s.annotations.nodes.size + 1)).identify
      s.annotations.nodes.size).annotations.identified s.annotations.nodes.size a')
  rw [← stands.source, ← document_identify_eq stands.found unnumbered stands.element stands'.found,
    stands.source] at final
  obtain ⟨k, identified⟩ := document_identify (enters.after hosted.tree).2
  have finalNew : ((i.identify (s.annotations.nodes.size + 1)).identify
      s.annotations.nodes.size).document.node? s.document.size = t.document.node? s.document.size := by
    rw [identified, Document.node?_mapAttributes_of_ne _ _ (Nat.ne_of_gt node_lt), same, keptNew]
  have grownSize : i.document.size = ((i.identify (s.annotations.nodes.size + 1)).identify
      s.annotations.nodes.size).document.size := by
    rw [identified, Document.size_mapAttributes, same]
  rw [opened] at lasts settledWhole ⊢
  have made (id : AnnotatedId) (isNew : s.annotations.nodes.size ≤ id)
      (early : id < t.annotations.nodes.size) := lasts.made id isNew (by
    rw [size_foldl_identify]
    exact Nat.lt_of_lt_of_le early under.size_le)
  have sameHost := made s.annotations.nodes.size (Nat.le_refl _) host_lt
  have built := lasts.isBuilt settledWhole walkable.valid stands'.found
    (sameHost.trans stands'.found) stands'.parent
  refine ⟨_, whole.identify top walkable.valid, .split before data (stands'.of_get? sameHost) ?_
    (content.of_get? (made _ (Nat.le_succ _) content_lt)) ?_ untouched.size ?_ ?_ ?_⟩
  · rw [shape', shape]
    exact bne_iff_ne.2 notTemplate
  · rw [plain₂, plain₁, plain]
  · rw [lasts.old node List.mem_cons_self, identified_congr built, ← directivesOf_congr untouched.data?]
    exact final
  · rw [lasts.new s.document.size (Nat.le_refl _)]
    · exact finalNew.trans readNew
    · refine Nat.lt_of_lt_of_le ?_ (Nat.le_of_eq grownSize)
      exact Nat.lt_of_lt_of_le (documentSize ▸ Nat.lt_succ_self _) covers.reworks.size
  · rw [inner, reads.keepBlanks, untouched.keepsBlanks] at mirrors
    exact mirrors

end Element

/-! ## Walks -/

theorem mirrored_tree
    (ih : ∀ {around : Surroundings} {holder : Option NodeId} {s : Pass},
      Untouched d holder around below s →
      Lasts around.parent below s (s.visitForest below around) u →
      Mirrored d u holder around below s (s.visitForest below around))
    (untouched : Untouched d holder around (.cons node below .nil) s)
    (lasts : Lasts around.parent (.cons node below .nil) s
      (s.visitForest (.cons node below .nil) around) u) :
    Mirrored d u holder around (.cons node below .nil) s
      (s.visitForest (.cons node below .nil) around) := by
  rw [visitForest, visitForest] at lasts ⊢
  have data? := untouched.data?
  split at lasts
  · next tag attributes data =>
    rw [data] at data?
    have element : s.document.tag? node = some tag := Document.tag?_eq_some.2 ⟨_, data⟩
    have silent : d.text? node = none := by rw [Document.text?, ← data?]
    split at lasts
    · next left found =>
      obtain ⟨reports, rfl⟩ := enter_eq_none found
      refine mirrored_passed untouched rfl rfl rfl lasts silent fun other isTag => ?_
      rw [Document.tag?, ← data?] at isTag
      obtain rfl := Option.some.inj isTag
      exact leftOut_of_enter untouched found lasts.path lasts.reports
    · next entered entry found =>
      have enters := entered_of_enter untouched.walkable.valid found
      have under := visits_visitForest (f := below) enters.size.2
      rcases enters.cases element untouched.walkable.fits with
        ⟨directive, whole, opened, inner⟩ | ⟨d', host, divided, opened, inner⟩
      · exact mirrored_whole untouched element found under (fun _ => ih) lasts whole opened inner
      · exact mirrored_split untouched element found under (fun _ => ih) lasts divided opened inner
  · next contents data =>
    exact mirrored_text untouched data lasts
  · next noElement noText =>
    have silent : d.text? node = none := by
      rw [Document.text?, ← data?]
      split
      · next contents data => exact absurd data (noText contents)
      · rfl
    refine mirrored_passed untouched rfl rfl rfl lasts silent fun tag isTag => ?_
    rw [Document.tag?, ← data?] at isTag
    split at isTag
    · next tag attributes data => exact absurd data (noElement tag attributes)
    · cases isTag

theorem Untouched.first (untouched : Untouched d holder around (.cons node below rest) s) :
    Untouched d holder around (.cons node below .nil) s where
  walkable := untouched.walkable.first
  ready := untouched.ready.first
  carries := untouched.carries.first
  size := untouched.size
  placed top n isTop := untouched.placed top n (List.mem_singleton.1 isTop ▸ List.mem_cons_self)

/-- What was walked first stays as it is when the rest is walked. -/
theorem mirrored_cons (untouched : Untouched d holder around (.cons node below rest) s)
    (lasts : Lasts around.parent (.cons node below rest) s t u)
    (first : Visits (.cons node below .nil) around s i) (later : Visits rest around i t)
    (reports : ∀ r ∈ i.reports, r ∈ t.reports)
    (tree : Lasts around.parent (.cons node below .nil) s i u →
      Mirrored d u holder around (.cons node below .nil) s i)
    (others : Untouched d holder around rest i → Lasts around.parent rest i t u →
      Mirrored d u holder around rest i t) :
    Mirrored d u holder around (.cons node below rest) s t := by
  have walkable := untouched.walkable
  have fits := walkable.fits
  have valid := walkable.valid
  have apart (n : NodeId) (member : n ∈ rest.preorder) := fits.not_mem_first member
  obtain ⟨f', covers⟩ := first.covers valid fits.first
  obtain ⟨F₀, grown₀, -⟩ := first.grown valid
  have settled := first.settles walkable.first untouched.first.ready
  have walkable' := walkable.later covers.reworks grown₀.tree
  obtain ⟨g', covers'⟩ := later.covers walkable'.valid walkable'.fits
  have kept := covers.bindsText_later fits.later apart
  have later_size := covers'.reworks.size
  have size := grown₀.tree.size
  -- Neither the first tree nor what was made for it is touched later.
  have old (n : NodeId) (inside : n < i.document.size) (off : n ∉ rest.preorder) :
      t.document.node? n = i.document.node? n := covers'.reworks.outside n inside off
  have early : Lasts around.parent (.cons node below .nil) s i u := by
    refine ⟨lasts.path, fun n member => ?_, fun n isNew inside => ?_, fun id isNew inside => ?_,
      lasts.builds, fun r member => lasts.reports r (reports r member)⟩
    · have whole : n ∈ (Forest.cons node below rest).preorder := by
        rw [Forest.mem_preorder_tree] at member
        rw [Forest.preorder, List.mem_cons, List.mem_append]
        exact member.imp_right .inl
      rw [lasts.old n whole]
      exact old n (Nat.lt_of_lt_of_le (fits.inside n whole) covers.reworks.size)
        fun later => apart n later member
    · rw [lasts.new n isNew (Nat.lt_of_lt_of_le inside later_size)]
      exact old n inside fun member => Nat.not_lt_of_ge isNew (fits.later.inside n member)
    · rw [lasts.made id isNew (Nat.lt_of_lt_of_le inside later.size_le)]
      exact later.get?_off walkable'.valid inside (AnnotatedTree.not_mem_line valid isNew)
  have late : Lasts around.parent rest i t u := by
    refine ⟨lasts.path.trans (path_of_basis first.basis).symm, fun n member => ?_,
      fun n isNew => lasts.new n (Nat.le_trans covers.reworks.size isNew),
      fun id isNew => lasts.made id (Nat.le_trans size isNew), fun p isParent => ?_, lasts.reports⟩
    · exact lasts.old n (List.mem_cons_of_mem _ (List.mem_append_right _ member))
    · rw [lasts.builds p isParent, settled.builds p (valid p isParent)]
  have untouched' : Untouched d holder around rest i := by
    refine ⟨walkable', ?_, untouched.carries.2.2.congr fun n member => ?_,
      Nat.le_trans untouched.size covers.reworks.size,
      fun top n isTop => untouched.placed top n (List.mem_cons_of_mem _ isTop)⟩
    · have ready : Ready around.parent ((Forest.cons node below .nil).append rest) s :=
        untouched.ready
      exact ready.later settled valid kept
    · exact covers.reworks.outside n (fits.later.inside n member) (apart n member)
  obtain ⟨F, grown, mirrors⟩ := tree early
  obtain ⟨G, grown', mirrors'⟩ := others untouched' late
  exact ⟨F.append G, grown.trans grown' valid, .append mirrors mirrors'⟩

/-- Every walk leaves annotations that mirror what it walked. -/
theorem mirrored_visitForest (untouched : Untouched d holder around f s)
    (lasts : Lasts around.parent f s (s.visitForest f around) u) :
    Mirrored d u holder around f s (s.visitForest f around) := by
  induction f generalizing around holder s with
  | nil => exact ⟨.nil, .nil _ _, .nil⟩
  | cons node below rest ihBelow ihRest =>
      rw [visitForest_cons] at lasts ⊢
      have first := visits_visitForest (f := .cons node below .nil) untouched.walkable.valid
      obtain ⟨F, grown, -⟩ := first.grown untouched.walkable.valid
      have valid (q : AnnotatedId) (isParent : q ∈ around.parent) :=
        Nat.lt_of_lt_of_le (untouched.walkable.valid q isParent) grown.tree.size
      exact mirrored_cons untouched lasts first (visits_visitForest valid) (reports_visitForest valid)
        (mirrored_tree ihBelow untouched.first) ihRest

end Pass

/-! ## Files -/

open Pass in
/-- A walk of the body leaves annotations that mirror it. -/
theorem mirrors_of_closed (keepBlanks : Bool) {s : Pass} (closed : s.annotations.Closed)
    (wellFormed : s.document.WellFormed) : ∃ F, Grown none F s (annotateFile keepBlanks s) ∧
      Mirrors s.document (annotateFile keepBlanks s) ⟨none, s.document.bodyHolder, keepBlanks⟩
        s.document.bodyForest F := by
  have walkable := walkable_of_closed closed wellFormed
  have untouched :
      Untouched s.document s.document.bodyHolder { keepBlanks } s.document.bodyForest s :=
    ⟨walkable, ready_of_none s,
      wellFormed.carries walkable.fits fun n top => (wellFormed.of_top_bodyForest top).1,
      Nat.le_refl _, fun _ n top => (wellFormed.of_top_bodyForest top).2⟩
  have visits := visits_annotateFile keepBlanks s
  have lasts : Lasts none s.document.bodyForest s (annotateFile keepBlanks s)
      (annotateFile keepBlanks s) :=
    ⟨path_of_basis visits.basis, fun _ _ => rfl, fun _ _ _ => rfl, fun _ _ _ => rfl,
      fun p under => absurd under (Option.not_mem_none p), fun _ member => member⟩
  rw [annotateFile_eq] at lasts ⊢
  exact mirrored_visitForest untouched lasts

open Pass in
theorem mirrors_annotateFile (keepBlanks : Bool) {s : Pass} (fresh : s.annotations = {})
    (wellFormed : s.document.WellFormed) : ∃ F, Grown none F s (annotateFile keepBlanks s) ∧
      Mirrors s.document (annotateFile keepBlanks s) ⟨none, s.document.bodyHolder, keepBlanks⟩
        s.document.bodyForest F :=
  mirrors_of_closed keepBlanks (fresh ▸ AnnotatedTree.closed_empty) wellFormed

end ComponentMarkup
