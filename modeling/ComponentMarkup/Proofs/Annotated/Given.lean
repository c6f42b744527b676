import ComponentMarkup.Proofs.Annotated.Stripping
import ComponentMarkup.Proofs.Annotated.Written

/-!
What the element of an annotation was given before the walk: its own attributes, or those that were
copied to it when it was split off. What reading them left of the annotation is never changed.
-/

namespace ComponentMarkup

/-- What reading the attributes of its element leaves of an annotation. -/
def AnnotatedNode.reading (a : AnnotatedNode) : Option Directive × Option Bindings × List String :=
  (a.directive?, a.bindings?, a.stripped)

theorem AnnotatedNode.reading_of_core {a a' : AnnotatedNode} (core : a'.core = a.core) :
    a'.reading = a.reading := by
  rw [reading, reading, directive?_of_core core, bindings?_of_core core, stripped_of_core core]

namespace Pass

/-- An element that the walk of `f` came by, with the attributes that it was given. -/
inductive Given (f : Forest) (before after : Document) (node : NodeId) :
    String → Attributes → Prop
  | own {tag : String} {attributes : Attributes} (member : node ∈ f.preorder)
      (data : before.data? node = some (.element tag attributes)) :
      Given f before after node tag attributes
  /-- It was split off `host`. -/
  | copied {host : NodeId} {tag : String} {attributes : Attributes} (isNew : before.size ≤ node)
      (member : host ∈ f.preorder) (under : after.parent? node = some host)
      (data : before.data? host = some (.element tag attributes)) :
      Given f before after node tag (withoutDirectives attributes)

/-- The walk of `f` from `s` to `t` left annotations that `P` holds of, each together with what its
element was given. -/
def Bears (P : String → Attributes → AnnotatedNode → Prop) (f : Forest) (s t : Pass) : Prop :=
  ∀ id a, s.annotations.nodes.size ≤ id → t.annotations.get? id = some a → a.isText = false →
    ∃ tag attributes, Given f s.document t.document a.source tag attributes ∧ P tag attributes a

variable {P : String → Attributes → AnnotatedNode → Prop} {s t u : Pass}
  {parent : Option AnnotatedId} {node : NodeId} {tag : String} {attributes : Attributes}
  {f f' g g' below below' F : Forest} {d d' e e' : Document} {entry : Entry}

theorem Given.transfer (given : Given f d e node tag attributes)
    (start : ∀ n ∈ f.preorder, d'.data? n = d.data? n) (size : d'.size ≤ d.size)
    (same : d.size ≤ node → e'.parent? node = e.parent? node)
    (part : ∀ n ∈ f.preorder, n ∈ g.preorder) : Given g d' e' node tag attributes := by
  cases given with
  | own member data => exact .own (part node member) ((start node member).trans data)
  | @copied host _ _ isNew member under data =>
      exact .copied (Nat.le_trans size isNew) (part host member) ((same isNew).trans under)
        ((start host member).trans data)

/-! ## Numbering -/

/-- Numbering changes nothing in the document but for an `id` that it may write. -/
theorem document_identify_or (s : Pass) (id : AnnotatedId) :
    (s.identify id).document = s.document ∨
      ∃ node value, (s.identify id).document = s.document.setAttribute node "id" value := by
  unfold identify
  split
  · exact .inl rfl
  · split
    · exact .inl rfl
    · rw [document_number, document_markQuery]
      split
      · exact .inl rfl
      · exact .inr ⟨_, _, rfl⟩

theorem parent?_document_identify (s : Pass) (id : AnnotatedId) :
    (s.identify id).document.parent? = s.document.parent? := by
  rcases document_identify_or s id with same | ⟨node, value, written⟩
  · rw [same]
  · rw [written]
    exact funext fun n => Document.parent?_mapAttributes _ _ _ _

theorem parent?_document_foldl_identify (s : Pass) (ids : List AnnotatedId) :
    (ids.foldl identify s).document.parent? = s.document.parent? := by
  induction ids generalizing s with
  | nil => rfl
  | cons id ids ih => rw [List.foldl_cons, ih, parent?_document_identify]

theorem reading_of_foldl_identify {ids : List AnnotatedId} {n : AnnotatedId} {b : AnnotatedNode}
    (after : (ids.foldl identify s).annotations.get? n = some b) :
    ∃ a, s.annotations.get? n = some a ∧ b.reading = a.reading ∧ b.source = a.source ∧
      b.isText = a.isText := by
  induction ids generalizing s with
  | nil => exact ⟨b, after, rfl, rfl, rfl⟩
  | cons id ids ih =>
      obtain ⟨c, found, reading, source, shape⟩ := ih after
      obtain ⟨a, query, identifier, before, rfl, -⟩ := get?_of_identify found
      exact ⟨a, before, reading, source, shape⟩

/-! ## Elements -/

/-- The annotations made for an element are its own and that of the element split off it. -/
theorem Entered.made (entered : Entered parent node tag s t entry)
    (element : s.document.tag? node = some tag)
    (fits : s.document.Fits (.cons node below .nil)) {id : AnnotatedId}
    (isNew : s.annotations.nodes.size ≤ id) (early : id < t.annotations.nodes.size) :
    ∃ a, t.annotations.get? id = some a ∧
      (id = s.annotations.nodes.size ∧ a.source = node ∨
        id = s.annotations.nodes.size + 1 ∧ a.source = s.document.size ∧
          s.document.size < t.document.size ∧ t.document.parent? s.document.size = some node) := by
  rcases entered.cases element fits with ⟨directive, enters, -, -⟩ | ⟨d, host, divided, -, -⟩
  · obtain ⟨a, here, leaf⟩ := enters.tree.here
    rw [enters.size] at early
    obtain rfl := Nat.le_antisymm (Nat.le_of_lt_succ early) isNew
    exact ⟨a, here, .inl ⟨rfl, leaf.source⟩⟩
  · obtain ⟨condition, enters⟩ := divided.enters
    have size := divided.content.size
    rw [divided.size_host] at size
    by_cases isHost : id = s.annotations.nodes.size
    · subst isHost
      obtain ⟨h, hosted, leaf⟩ := enters.tree.here
      obtain ⟨h', here, core, -⟩ := divided.content.tree.elsewhere _ h hosted
      exact ⟨h', here, .inl ⟨rfl, (AnnotatedNode.source_of_core core).trans leaf.source⟩⟩
    · rw [size] at early
      have last := Nat.lt_of_le_of_ne isNew (Ne.symm isHost)
      obtain rfl := Nat.le_antisymm (Nat.le_of_lt_succ early) last
      obtain ⟨b, here, leaf⟩ := divided.content.tree.here
      rw [divided.size_host] at here
      refine ⟨b, here, .inr ⟨rfl, leaf.source, ?_, ?_⟩⟩
      · rw [divided.document_size]
        exact Nat.lt_succ_self _
      · obtain ⟨k, -, document⟩ := divided.content.document
        rw [document, Document.parent?_mapAttributes, document_mapDocument, divided.under]

/-- Entering leaves what is held below the element. -/
theorem Entered.data (entered : Entered parent node tag s t entry)
    (element : s.document.tag? node = some tag) (fits : s.document.Fits (.cons node below .nil)) :
    s.document.size ≤ t.document.size ∧
      ∀ n ∈ below.preorder, s.document.data? n = t.document.data? n := by
  have other (n : NodeId) (member : n ∈ below.preorder) : n ≠ node :=
    fun isNode => fits.not_mem_below (isNode ▸ member)
  rcases entered.cases element fits with ⟨directive, enters, -, -⟩ | ⟨d, host, divided, -, -⟩
  · have opens := enters.opens fits
    exact ⟨opens.size, fun n member =>
      (opens.data n (fits.under.inside n member) (other n member)).symm⟩
  · refine ⟨divided.document_size ▸ Nat.le_succ _, fun n member => ?_⟩
    have old := fits.under.inside n member
    rw [Document.data?_congr (divided.node?_of_ne (Nat.ne_of_lt old))]
    exact (divided.opens.data n old (other n member)).symm

/-! ## Walks -/

theorem Bears.of_texts (texts : ∀ id a, s.annotations.nodes.size ≤ id →
    t.annotations.get? id = some a → a.isText = true) : Bears P f s t := by
  intro id a isNew found element
  rw [texts id a isNew found] at element
  cases element

section Lasting
variable (lasting : ∀ {tag attributes a a'}, P tag attributes a → a'.reading = a.reading →
  P tag attributes a')
include lasting

theorem Bears.element (inner : Bears P below t u) (entered : Entered parent node tag s t entry)
    (data : s.document.data? node = some (.element tag attributes))
    (own : ∀ a, t.annotations.get? s.annotations.nodes.size = some a → P tag attributes a)
    (content : ∀ b, t.annotations.get? (s.annotations.nodes.size + 1) = some b →
      P tag (withoutDirectives attributes) b)
    (covers : Covers below below' t u)
    (grows : t.annotations.Grows entry.inner.parent F u.annotations)
    (fits : s.document.Fits (.cons node below .nil)) :
    Bears P (.cons node below .nil) s (entry.opened.foldl identify u) := by
  have element : s.document.tag? node = some tag := Document.tag?_eq_some.2 ⟨_, data⟩
  obtain ⟨larger, same⟩ := entered.data element fits
  intro id b isNew after isElement
  obtain ⟨c, found, reading, source, shape⟩ := reading_of_foldl_identify after
  have isElement' : c.isText = false := shape.symm.trans isElement
  have parents := parent?_document_foldl_identify u entry.opened
  rw [source]
  rcases Nat.lt_or_ge id t.annotations.nodes.size with early | later
  · obtain ⟨a, before, made⟩ := entered.made element fits isNew early
    obtain ⟨c', found', core⟩ := grows.core before
    obtain rfl := Option.some.inj (found.symm.trans found')
    have kept := reading.trans (AnnotatedNode.reading_of_core core)
    rw [AnnotatedNode.source_of_core core]
    rcases made with ⟨rfl, isNode⟩ | ⟨rfl, isNode, inside, under⟩
    · refine ⟨tag, attributes, ?_, lasting (own a before) kept⟩
      rw [isNode]
      exact .own List.mem_cons_self data
    · refine ⟨tag, _, ?_, lasting (content a before) kept⟩
      rw [isNode]
      refine .copied (Nat.le_refl _) List.mem_cons_self ?_ data
      have outside := covers.reworks.outside s.document.size inside fun member =>
        Nat.lt_irrefl _ (fits.under.inside _ member)
      rw [parents, Document.parent?, outside]
      exact under
  · obtain ⟨tag', attributes', given, holds⟩ := inner id c later found isElement'
    refine ⟨tag', attributes', ?_, lasting holds reading⟩
    refine given.transfer same larger (fun _ => by rw [parents]) fun n member => ?_
    exact List.mem_cons_of_mem _ (List.mem_append_left _ member)

theorem Bears.trans {G : Forest} (first : Bears P f s t) (second : Bears P g t u)
    (covers : Covers f f' s t) (covers' : Covers g g' t u)
    (grows : t.annotations.Grows parent G u.annotations) (fits : s.document.Fits g)
    (apart : ∀ n ∈ g.preorder, n ∉ f.preorder) : Bears P (f.append g) s u := by
  intro id b isNew found element
  rcases Nat.lt_or_ge id t.annotations.nodes.size with early | later
  · obtain ⟨a, before, core⟩ := grows.get?_old early found
    have isElement : a.isText = false := (AnnotatedNode.isText_of_core core).symm.trans element
    obtain ⟨tag, attributes, given, holds⟩ := first id a isNew before isElement
    have member := covers.mem_preorder isNew (AnnotatedTree.element?_eq before isElement)
    refine ⟨tag, attributes, ?_, lasting holds (AnnotatedNode.reading_of_core core)⟩
    rw [AnnotatedNode.source_of_core core]
    refine given.transfer (fun _ _ => rfl) (Nat.le_refl _) (fun outside => ?_) fun n member => ?_
    · rw [Document.parent?, Document.parent?, covers'.reworks.outside a.source
        (covers.reworks.fits.inside _ member) fun later =>
          Nat.not_le_of_gt (fits.inside _ later) outside]
    · rw [Forest.preorder_append]
      exact List.mem_append_left _ member
  · obtain ⟨tag, attributes, given, holds⟩ := second id b later found element
    refine ⟨tag, attributes, ?_, holds⟩
    refine given.transfer (fun n member => ?_) covers.reworks.size (fun _ => rfl) fun n member => ?_
    · exact (Document.data?_congr
        (covers.reworks.outside n (fits.inside n member) (apart n member))).symm
    · rw [Forest.preorder_append]
      exact List.mem_append_right _ member

/-- What entering an element establishes of its annotations, the walk leaves of all of them. -/
theorem Visits.bears
    (entering : ∀ {around : Surroundings} {node : NodeId} {tag : String} {attributes : Attributes}
      {s t : Pass} {entry : Entry}, (∀ q ∈ around.parent, q < s.annotations.nodes.size) →
      s.document.data? node = some (.element tag attributes) →
      s.enter around node tag = (t, some entry) →
        (∀ a, t.annotations.get? s.annotations.nodes.size = some a → P tag attributes a) ∧
          ∀ b, t.annotations.get? (s.annotations.nodes.size + 1) = some b →
            P tag (withoutDirectives attributes) b)
    {around : Surroundings} (visits : Visits f around s t) (walkable : Walkable around.parent f s) :
    Bears P f s t := by
  refine visits.induct (P := fun f _ s t => Bears P f s t) ?_ ?_ ?_ ?_ ?_ walkable
  · intro around s
    exact .of_texts fun id a isNew found =>
      absurd (AnnotatedTree.lt_size_of_get? found) (Nat.not_lt_of_ge isNew)
  · intro around node below s reports silent
    exact .of_texts fun id a isNew found =>
      absurd (AnnotatedTree.lt_size_of_get? found) (Nat.not_lt_of_ge isNew)
  · intro around node below s text data walkable
    exact .of_texts fun id a isNew found =>
      ((shows_visitText s around node text walkable.valid).new id a isNew found).isText
  · intro around node tag below s t u entry below' element found entered under covers walkable inside
      inner
    obtain ⟨attributes, data⟩ := Document.tag?_eq_some.1 element
    obtain ⟨F, grown, -⟩ := under.grown inside.valid
    obtain ⟨own, content⟩ := entering walkable.valid data found
    exact inner.element lasting entered data own content covers grown.tree walkable.fits
  · intro around f f' g s t u visits visits' first second covers walkable walkable' fits apart
    obtain ⟨G, grown, -⟩ := visits'.grown walkable'.valid
    obtain ⟨g', covers'⟩ := visits'.covers walkable'.valid walkable'.fits
    exact first.trans lasting second covers covers' grown.tree fits apart

end Lasting

end Pass
end ComponentMarkup
