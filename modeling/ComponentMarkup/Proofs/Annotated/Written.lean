import ComponentMarkup.Proofs.Annotated.Flags
import ComponentMarkup.Proofs.Document.Rework

/-!
The `id` attributes that a walk leaves behind. A numbered node of the static markup has its
identifier there; the sources of built nodes have the `id` that was written in the input, if any.
-/

namespace ComponentMarkup

theorem Document.bindsId_congr {d d' : Document} {n : NodeId} (same : d'.data? n = d.data? n) :
    d'.bindsId n = d.bindsId n := by
  rw [bindsId, bindsId, attributes?_congr same]

theorem AnnotatedNode.IsLeaf.isNumbered_eq {a : AnnotatedNode} {parent : Option AnnotatedId}
    {node : NodeId} {directive : Option Directive} {builds : Bool}
    (leaf : a.IsLeaf parent node directive builds) : a.isNumbered = false := by
  rw [isNumbered, leaf.identifier]
  cases a.isRoot <;> rfl

namespace Pass
variable {s s' t t' u : Pass} {parent : Option AnnotatedId} {id : AnnotatedId} {node : NodeId}
  {tag : String} {f f' g g' below rest : Forest} {a a' b : AnnotatedNode}

/-! ## Numbering -/

theorem document_identify_of_built (built : s.annotations.isBuilt id = true) :
    (s.identify id).document = s.document := by
  unfold identify
  split
  · rfl
  · split
    · rfl
    · rw [document_number, isBuilt_markQuery, built, if_pos rfl, document_markQuery]

/-- A node of the static markup that is numbered now has its identifier written. -/
theorem attribute?_identify (found : s.annotations.get? id = some a)
    (unnumbered : a.isNumbered = false) (element : s.document.tag? a.source = some tag)
    (unbuilt : s.annotations.isBuilt id = false)
    (after : (s.identify id).annotations.get? id = some b) (numbered : b.isNumbered = true) :
    (s.identify id).document.attribute? a.source "id" = b.identifier := by
  rcases identify_cases found with ⟨-, same⟩ | ⟨fresh, needed⟩
  · rw [same] at after
    obtain rfl := Option.some.inj (found.symm.trans after)
    rw [unnumbered] at numbered
    cases numbered
  · rw [get?_identify found fresh needed, found, Option.map_some] at after
    obtain rfl := Option.some.inj after
    rw [identify_eq found fresh needed, document_number, isBuilt_markQuery, unbuilt,
      if_neg Bool.false_ne_true, counter_markQuery, document_markQuery,
      s.document.attribute?_setAttribute_self a.source "id" _ element]
    exact (if_pos rfl).symm

theorem node?_identify_of_ne {n : NodeId} (source : s.annotations.element? id = some node)
    (other : n ≠ node) : (s.identify id).document.node? n = s.document.node? n := by
  obtain ⟨k, written⟩ := document_identify source
  rw [written, Document.node?_mapAttributes_of_ne _ _ other]

/-! ## What is written -/

/-- What the walk of `f` from `s` to `t` left of the `id` of the source of an annotation. -/
structure Written (f : Forest) (s t : Pass) (id : AnnotatedId) (a : AnnotatedNode) : Prop where
  /-- A node of the static markup stands for an element of the input. -/
  unbuilt : t.annotations.isBuilt id = false →
    (∃ tag, s.document.tag? a.source = some tag ∧ a.stripped.contains "id" =
      (readsAttributes tag a.directive? && s.document.bindsId a.source)) ∧
    (a.isNumbered = true → t.document.attribute? a.source "id" = a.identifier)
  /-- The source of a built node, or the element it was split off, had the `id` before. -/
  built : t.annotations.isBuilt id = true → ∀ v, t.document.attribute? a.source "id" = some v →
    s.document.attribute? a.source "id" = some v ∨
      ∃ host ∈ f.preorder, s.document.size ≤ a.source ∧ t.document.parent? a.source = some host ∧
        s.document.attribute? host "id" = some v

/-- Nothing of this changes while the source of the annotation and what the forest was before it
stay as they are. -/
theorem Written.transfer (written : Written f s t id a) (core : a'.core = a.core)
    (built : t'.annotations.isBuilt id = t.annotations.isBuilt id)
    (final : t'.document.node? a.source = t.document.node? a.source)
    (size : s'.document.size ≤ s.document.size)
    (start : ∀ n ∈ f.preorder, s'.document.data? n = s.document.data? n)
    (member : a.source ∈ f.preorder ∨ s.document.size ≤ a.source)
    (part : ∀ n ∈ f.preorder, n ∈ g.preorder) : Written g s' t' id a' := by
  have source := AnnotatedNode.source_of_core core
  have same : t'.document.attribute? a.source "id" = t.document.attribute? a.source "id" :=
    Document.attribute?_congr (Document.data?_congr final) "id"
  refine ⟨fun unbuilt => ?_, fun isBuilt v found => ?_⟩
  · rw [built] at unbuilt
    obtain ⟨⟨tag, element, stripped⟩, identity⟩ := written.unbuilt unbuilt
    rcases member with member | outside
    · have begun := start a.source member
      rw [source, AnnotatedNode.stripped_of_core core, AnnotatedNode.directive?_of_core core,
        AnnotatedNode.isNumbered_of_core core, AnnotatedNode.identifier_of_core core, same,
        Document.bindsId_congr begun]
      exact ⟨⟨tag, (Document.tag?_congr begun).trans element, stripped⟩, identity⟩
    · rw [Document.tag?_eq_none outside] at element
      cases element
  · rw [built] at isBuilt
    rw [source, same] at found
    rw [source]
    rcases written.built isBuilt v found with own | ⟨host, above, new, under, inherited⟩
    · rcases member with member | outside
      · exact .inl ((Document.attribute?_congr (start a.source member) "id").trans own)
      · rw [Document.attribute?_eq_none outside] at own
        cases own
    · refine .inr ⟨host, part host above, Nat.le_trans size new, ?_, ?_⟩
      · rw [Document.parent?, final]
        exact under
      · exact (Document.attribute?_congr (start host above) "id").trans inherited

theorem Written.identify {n : AnnotatedId} (written : Written f s t n a)
    (source : t.annotations.element? id = some node) (other : n ≠ id) (apart : a.source ≠ node)
    (member : a.source ∈ f.preorder ∨ s.document.size ≤ a.source)
    (before : t.annotations.get? n = some a) (after : (t.identify id).annotations.get? n = some b) :
    Written f s (t.identify id) n b := by
  obtain ⟨c, query, identifier, found, rfl, kept⟩ := get?_of_identify after
  obtain rfl := Option.some.inj (before.symm.trans found)
  obtain rfl := kept other
  exact written.transfer rfl (t.isBuilt_identify id n) (node?_identify_of_ne source apart)
    (Nat.le_refl _) (fun _ _ => rfl) member fun _ member => member

/-- An element that was entered as a whole, when it is numbered in the end. -/
theorem EntersAs.written {directive : Option Directive}
    (enters : EntersAs parent node tag directive s t) (element : s.document.tag? node = some tag)
    (grown : ∃ a a', t.annotations.get? s.annotations.nodes.size = some a ∧
      u.annotations.get? s.annotations.nodes.size = some a' ∧ a'.core = a.core)
    (still : u.document.tag? node = some tag)
    (kept : ∀ v, u.document.attribute? node "id" = some v →
      s.document.attribute? node "id" = some v)
    (after : (u.identify s.annotations.nodes.size).annotations.get? s.annotations.nodes.size =
      some b) :
    Written f s (u.identify s.annotations.nodes.size) s.annotations.nodes.size b := by
  obtain ⟨a₀, leaf₀, found₀⟩ : ∃ a, a.IsLeaf parent node directive
      (directive.isSome || s.hasBoundText node) ∧
      t.annotations.get? s.annotations.nodes.size = some a := by
    obtain ⟨a, found, leaf⟩ := enters.tree.here
    exact ⟨a, leaf, found⟩
  obtain ⟨a, a', entered, found, core⟩ := grown
  obtain rfl := Option.some.inj (found₀.symm.trans entered)
  have source : a'.source = node := (AnnotatedNode.source_of_core core).trans leaf₀.source
  have unnumbered : a'.isNumbered = false :=
    (AnnotatedNode.isNumbered_of_core core).trans leaf₀.isNumbered_eq
  have stripped := enters.stripped
  rw [isStripped, entered] at stripped
  refine ⟨fun unbuilt => ⟨⟨tag, ?_⟩, fun numbered => ?_⟩, fun built v written => .inl ?_⟩
  · obtain ⟨c, query, identifier, before, rfl, -⟩ := get?_of_identify after
    obtain rfl := Option.some.inj (found.symm.trans before)
    refine ⟨?_, ?_⟩
    · rw [source]
      exact element
    · change a'.stripped.contains "id" = (readsAttributes tag a'.directive? && _)
      rw [AnnotatedNode.stripped_of_core core, AnnotatedNode.directive?_of_core core,
        leaf₀.directive?, source]
      exact stripped
  · rw [isBuilt_identify] at unbuilt
    have identity := attribute?_identify found unnumbered (source ▸ still) unbuilt after numbered
    obtain ⟨c, query, identifier, before, rfl, -⟩ := get?_of_identify after
    obtain rfl := Option.some.inj (found.symm.trans before)
    exact identity
  · obtain ⟨c, query, identifier, before, rfl, -⟩ := get?_of_identify after
    obtain rfl := Option.some.inj (found.symm.trans before)
    rw [isBuilt_identify] at built
    rw [document_identify_of_built built] at written
    change s.document.attribute? a'.source "id" = some v
    change u.document.attribute? a'.source "id" = some v at written
    rw [source] at written ⊢
    exact kept v written

/-- What a walk left of the `id` attributes of all elements that it annotated. -/
def Writes (f : Forest) (s t : Pass) : Prop :=
  ∀ id a, s.annotations.nodes.size ≤ id → t.annotations.get? id = some a → a.isText = false →
    Written f s t id a

namespace Writes

theorem of_texts (texts : ∀ id a, s.annotations.nodes.size ≤ id →
    t.annotations.get? id = some a → a.isText = true) : Writes f s t := by
  intro id a isNew found element
  rw [texts id a isNew found] at element
  cases element

theorem trans {F G : Forest} (first : Writes f s t) (second : Writes g t u)
    (covers : Covers f f' s t) (covers' : Covers g g' t u) (settled : Settles parent g t u)
    (grows : s.annotations.Grows parent F t.annotations)
    (grows' : t.annotations.Grows parent G u.annotations) (closed : s.annotations.Closed)
    (fits : s.document.Fits g) (apart : ∀ n ∈ g.preorder, n ∉ f.preorder) :
    Writes (f.append g) s u := by
  intro n b isNew found element
  rcases Nat.lt_or_ge n t.annotations.nodes.size with inside | outside
  · obtain ⟨a, before, core⟩ := grows'.get?_old inside found
    have isElement : a.isText = false := (AnnotatedNode.isText_of_core core).symm.trans element
    have member := covers.mem_preorder isNew (AnnotatedTree.element?_eq before isElement)
    have origin := covers.reworks.origin a.source member
    have notLater : a.source ∉ g.preorder := fun later => origin.elim (apart _ later)
      (Nat.not_le_of_gt (fits.inside _ later))
    refine (first n a isNew before isElement).transfer core
      (grows'.isBuilt_old (grows.closed closed) settled.builds inside)
      (covers'.reworks.outside a.source (covers.reworks.fits.inside _ member) notLater)
      (Nat.le_refl _) (fun _ _ => rfl) origin fun m member => ?_
    rw [Forest.preorder_append]
    exact List.mem_append_left _ member
  · have member := covers'.mem_preorder outside (AnnotatedTree.element?_eq found element)
    refine (second n b outside found element).transfer rfl rfl rfl covers.reworks.size
      (fun m member => ?_) (covers'.reworks.origin b.source member) fun m member => ?_
    · exact (Document.data?_congr
        (covers.reworks.outside m (fits.inside m member) (apart m member))).symm
    · rw [Forest.preorder_append]
      exact List.mem_append_right _ member

end Writes
/-! ## Elements -/

theorem EntersAs.attribute?_eq {directive : Option Directive}
    (enters : EntersAs parent node tag directive s t) (n : NodeId) :
    t.document.attribute? n "id" = s.document.attribute? n "id" := by
  obtain ⟨f, others, document⟩ := enters.document
  rw [document]
  exact s.document.attribute?_mapAttributes node n f fun attributes =>
    others attributes "id" (by decide)

theorem EntersAs.after {directive : Option Directive} {F : Forest}
    (enters : EntersAs parent node tag directive s t)
    (grows : t.annotations.Grows (some s.annotations.nodes.size) F u.annotations) :
    (∃ a a', t.annotations.get? s.annotations.nodes.size = some a ∧
      u.annotations.get? s.annotations.nodes.size = some a' ∧ a'.core = a.core) ∧
      u.annotations.element? s.annotations.nodes.size = some node := by
  obtain ⟨a, here, leaf⟩ := enters.tree.here
  obtain ⟨a', found, core⟩ := grows.core here
  refine ⟨⟨a, a', here, found, core⟩, ?_⟩
  rw [AnnotatedTree.element?_eq found ((AnnotatedNode.isText_of_core core).trans leaf.isText),
    AnnotatedNode.source_of_core core, leaf.source]

theorem Writes.rebase {n : AnnotatedId} (inner : Writes below t u)
    (covers : Covers below below' t u) (size : s.document.size ≤ t.document.size)
    (same : ∀ m ∈ below.preorder, s.document.data? m = t.document.data? m)
    (isNew : t.annotations.nodes.size ≤ n) (found : u.annotations.get? n = some a)
    (element : a.isText = false) :
    Written (.cons node below .nil) s u n a ∧
      (a.source ∈ below.preorder ∨ t.document.size ≤ a.source) := by
  have origin := covers.reworks.origin a.source
    (covers.mem_preorder isNew (AnnotatedTree.element?_eq found element))
  refine ⟨(inner n a isNew found element).transfer rfl rfl rfl size same origin fun m member => ?_,
    origin⟩
  exact List.mem_cons_of_mem _ (List.mem_append_left _ member)

theorem Written.enclose {n : AnnotatedId} (written : Written (.cons node below .nil) s u n a)
    (origin : a.source ∈ below.preorder ∨ t.document.size ≤ a.source)
    (size : s.document.size ≤ t.document.size) (inside : node < t.document.size)
    (apart : node ∉ below.preorder) (source : u.annotations.element? id = some node)
    (other : n ≠ id) (before : u.annotations.get? n = some a)
    (after : (u.identify id).annotations.get? n = some b) :
    Written (.cons node below .nil) s (u.identify id) n b := by
  refine written.identify source other (fun isNode => ?_) ?_ before after
  · rw [isNode] at origin
    exact origin.elim apart (Nat.not_le_of_gt inside)
  · refine origin.imp (fun member => ?_) (Nat.le_trans size)
    exact List.mem_cons_of_mem _ (List.mem_append_left _ member)

theorem EntersAs.writes {directive : Option Directive} {F : Forest}
    (enters : EntersAs parent node tag directive s t) (element : s.document.tag? node = some tag)
    (fits : s.document.Fits (.cons node below .nil)) (inner : Writes below t u)
    (covers : Covers below below' t u)
    (grows : t.annotations.Grows (some s.annotations.nodes.size) F u.annotations) :
    Writes (.cons node below .nil) s (u.identify s.annotations.nodes.size) := by
  have opens := enters.opens fits
  have node_lt : node < s.document.size := fits.inside node List.mem_cons_self
  have inside : node < t.document.size := Nat.lt_of_lt_of_le node_lt opens.size
  have kept := covers.reworks.outside node inside fits.not_mem_below
  have same (m : NodeId) (member : m ∈ below.preorder) :
      s.document.data? m = t.document.data? m :=
    (opens.data m (fits.under.inside m member) fun isNode =>
      fits.not_mem_below (isNode ▸ member)).symm
  obtain ⟨grown, source⟩ := enters.after grows
  intro n b isNew after isElement
  by_cases own : n = s.annotations.nodes.size
  · subst own
    refine enters.written element grown ?_ (fun v found => ?_) after
    · rw [Document.tag?_congr (Document.data?_congr kept), opens.tags node node_lt, element]
    · rwa [Document.attribute?_congr (Document.data?_congr kept), enters.attribute?_eq] at found
  · obtain ⟨a, query, identifier, before, rfl, -⟩ := get?_of_identify after
    have later : t.annotations.nodes.size ≤ n := by
      rw [enters.size]
      exact Nat.lt_of_le_of_ne isNew (Ne.symm own)
    obtain ⟨written, origin⟩ := inner.rebase covers opens.size same later before isElement
    exact written.enclose origin opens.size inside fits.not_mem_below source own before after

/-! ## Split elements -/

section Divided
variable {d : Document} {host : Pass} {F : Forest}
  (divided : Divided parent node tag below d s host t)
include divided

theorem Divided.isBuilt (grown : Grown (some (s.annotations.nodes.size + 1)) F t u) :
    u.annotations.isBuilt (s.annotations.nodes.size + 1) = true := by
  obtain ⟨condition, enters⟩ := divided.enters
  obtain ⟨a, here, leaf⟩ := divided.content.tree.here
  rw [divided.size_host] at here
  obtain ⟨a', found, core⟩ := grown.tree.core here
  obtain ⟨h, hosted, hostLeaf⟩ := enters.tree.here
  obtain ⟨h', hosted', -, -, -, builds, -⟩ := divided.content.tree.elsewhere _ h hosted
  have under : u.annotations.parent? (s.annotations.nodes.size + 1) =
      some s.annotations.nodes.size := by
    rw [AnnotatedTree.parent?_eq found, AnnotatedNode.parent_of_core core, leaf.parent]
  have other : some (s.annotations.nodes.size + 1) ≠ some s.annotations.nodes.size :=
    fun same => Nat.succ_ne_self _ (Option.some.inj same)
  obtain ⟨h'', hosted'', extended, -⟩ := grown.tree.old _ h' hosted'
  rw [if_neg other] at extended
  rw [AnnotatedTree.isBuilt, under]
  dsimp only
  rw [AnnotatedTree.buildsChildren_eq hosted'', extended.buildsChildren, builds,
    hostLeaf.buildsChildren]
  rfl

theorem Divided.node?_of_ne {m : NodeId} (other : m ≠ s.document.size) :
    t.document.node? m = d.node? m := by
  obtain ⟨f, -, document⟩ := divided.content.document
  rw [document]
  exact Document.node?_mapAttributes_of_ne _ _ other

theorem Divided.document_size : t.document.size = s.document.size + 1 := by
  obtain ⟨f, -, document⟩ := divided.content.document
  rw [document, Document.size_mapAttributes]
  exact divided.size

theorem Divided.written_content (grown : Grown (some (s.annotations.nodes.size + 1)) F t u)
    (covers : Covers below below' t u) (fits : s.document.Fits (.cons node below .nil))
    (found : (u.identify (s.annotations.nodes.size + 1)).annotations.get?
      (s.annotations.nodes.size + 1) = some a) :
    Written (.cons node below .nil) s (u.identify (s.annotations.nodes.size + 1))
      (s.annotations.nodes.size + 1) a ∧ a.source = s.document.size := by
  have built := divided.isBuilt grown
  have source : a.source = s.document.size := by
    obtain ⟨c, query, identifier, before, rfl, -⟩ := get?_of_identify found
    obtain ⟨b, here, leaf⟩ := divided.content.tree.here
    rw [divided.size_host] at here
    obtain ⟨b', after, core⟩ := grown.tree.core here
    obtain rfl := Option.some.inj (after.symm.trans before)
    exact (AnnotatedNode.source_of_core core).trans leaf.source
  have kept := covers.reworks.outside s.document.size (divided.document_size ▸ Nat.lt_succ_self _)
    fun member => Nat.lt_irrefl _ (fits.under.inside _ member)
  refine ⟨⟨fun unbuilt => ?_, fun _ v held => .inr ⟨node, List.mem_cons_self, ?_, ?_, ?_⟩⟩,
    source⟩
  · rw [isBuilt_identify, built] at unbuilt
    cases unbuilt
  · exact Nat.le_of_eq source.symm
  · rw [document_identify_of_built built, source, Document.parent?, kept]
    obtain ⟨f, -, document⟩ := divided.content.document
    rw [← divided.under]
    change t.document.parent? _ = _
    rw [document, Document.parent?_mapAttributes]
    rfl
  · rw [document_identify_of_built built, source,
      Document.attribute?_congr (Document.data?_congr kept), divided.content.attribute?_eq] at held
    rw [← divided.moved]
    exact held

theorem Divided.writes (element : s.document.tag? node = some tag) (inner : Writes below t u)
    (covers : Covers below below' t u)
    (grown : Grown (some (s.annotations.nodes.size + 1)) F t u)
    (fits : s.document.Fits (.cons node below .nil)) :
    Writes (.cons node below .nil) s
      ((u.identify (s.annotations.nodes.size + 1)).identify s.annotations.nodes.size) := by
  have isBuilt := divided.isBuilt grown
  have same := document_identify_of_built isBuilt
  have node_lt : node < s.document.size := fits.inside node List.mem_cons_self
  have larger : s.document.size < t.document.size := divided.document_size ▸ Nat.lt_succ_self _
  have inside : node < t.document.size := Nat.lt_trans node_lt larger
  have kept : u.document.node? node = d.node? node :=
    (covers.reworks.outside node inside fits.not_mem_below).trans
      (divided.node?_of_ne (Nat.ne_of_lt node_lt))
  have data (m : NodeId) (member : m ∈ below.preorder) :
      s.document.data? m = t.document.data? m := by
    have old := fits.under.inside m member
    rw [Document.data?_congr (divided.node?_of_ne (Nat.ne_of_lt old))]
    exact (divided.opens.data m old fun isNode => fits.not_mem_below (isNode ▸ member)).symm
  obtain ⟨condition, enters⟩ := divided.enters
  obtain ⟨hosted, hostSource⟩ := enters.after (divided.numbered grown).tree
  intro n b isNew after isElement
  -- A new node is the host, the content that is split off, or below the content.
  by_cases isHost : n = s.annotations.nodes.size
  · subst isHost
    refine enters.written element hosted ?_ (fun v found => ?_) after
    · rw [same, Document.tag?_congr (Document.data?_congr kept), divided.opens.tags node node_lt,
        element]
    · rw [same, Document.attribute?_congr (Document.data?_congr kept), divided.cleared] at found
      cases found
  · obtain ⟨c, query, identifier, before, rfl, -⟩ := get?_of_identify after
    by_cases isContent : n = s.annotations.nodes.size + 1
    · subst isContent
      obtain ⟨written, source⟩ := divided.written_content grown covers fits before
      refine written.identify hostSource isHost (fun isNode => ?_) (.inr ?_) before after
      · exact Nat.ne_of_lt node_lt (isNode.symm.trans source)
      · exact Nat.le_of_eq source.symm
    · obtain ⟨a, query', identifier', first, rfl, -⟩ := get?_of_identify before
      have later : t.annotations.nodes.size ≤ n := by
        rw [divided.content.size, divided.size_host]
        exact Nat.lt_of_le_of_ne (Nat.lt_of_le_of_ne isNew (Ne.symm isHost)) (Ne.symm isContent)
      obtain ⟨written, origin⟩ := inner.rebase covers (Nat.le_of_lt larger) data later first isElement
      have contentSource : u.annotations.element? (s.annotations.nodes.size + 1) =
          some s.document.size := by
        have grows := grown.tree
        rw [← divided.size_host] at grows ⊢
        exact (divided.content.after grows).2
      have notContent : a.source ≠ s.document.size := by
        intro isNew
        rw [isNew] at origin
        exact origin.elim (fun member => Nat.lt_irrefl _ (fits.under.inside _ member))
          (Nat.not_le_of_gt larger)
      have member : a.source ∈ (Forest.cons node below .nil).preorder ∨
          s.document.size ≤ a.source :=
        origin.imp (fun member => List.mem_cons_of_mem _ (List.mem_append_left _ member))
          (Nat.le_trans (Nat.le_of_lt larger))
      exact (written.identify contentSource isContent notContent member first before).enclose
        origin (Nat.le_of_lt larger) inside fits.not_mem_below hostSource isHost before after

end Divided

/-! ## Walks -/

theorem Entered.writes {entry : Entry} {F : Forest} (entered : Entered parent node tag s t entry)
    (element : s.document.tag? node = some tag) (inner : Writes below t u)
    (covers : Covers below below' t u) (grown : Grown entry.inner.parent F t u)
    (fits : s.document.Fits (.cons node below .nil)) :
    Writes (.cons node below .nil) s (entry.opened.foldl Pass.identify u) := by
  rcases entered.cases element fits with
    ⟨directive, enters, opened, inner'⟩ | ⟨d, host, divided, opened, inner'⟩
  · rw [inner'] at grown
    rw [opened]
    exact enters.writes element fits inner covers grown.tree
  · rw [inner'] at grown
    rw [opened]
    exact divided.writes element inner covers grown fits

/-- Every walk writes the identifiers of static nodes and leaves the `id` of built ones. -/
theorem Visits.writes {f : Forest} {around : Surroundings} (visits : Visits f around s t)
    (walkable : Walkable around.parent f s) (ready : Ready around.parent f s) : Writes f s t := by
  refine visits.induct (P := fun f around s t => Ready around.parent f s → Writes f s t)
    ?_ ?_ ?_ ?_ ?_ walkable ready
  · intro around s _
    exact .of_texts fun id a isNew found =>
      absurd (AnnotatedTree.lt_size_of_get? found) (Nat.not_lt_of_ge isNew)
  · intro around node below s reports silent _
    exact .of_texts fun id a isNew found =>
      absurd (AnnotatedTree.lt_size_of_get? found) (Nat.not_lt_of_ge isNew)
  · intro around node below s text data walkable _
    exact .of_texts fun id a isNew found =>
      ((shows_visitText s around node text walkable.valid).new id a isNew found).isText
  · intro around node tag below s t u entry below' element _ entered under covers walkable
      inside inner _
    obtain ⟨F, grown, -⟩ := under.grown inside.valid
    exact entered.writes element (inner (entered.ready element walkable.fits)) covers grown
      walkable.fits
  · intro around f f' g s t u visits visits' first second covers walkable walkable' fits apart ready
    obtain ⟨F, grown, -⟩ := visits.grown walkable.valid
    obtain ⟨G, grown', -⟩ := visits'.grown walkable'.valid
    obtain ⟨g', covers'⟩ := visits'.covers walkable'.valid walkable'.fits
    have settled := visits.settles walkable ready.first
    have ready' := ready.later settled walkable.valid (covers.bindsText_later fits apart)
    exact (first ready.first).trans (second ready') covers covers'
      (visits'.settles walkable' ready') grown.tree grown'.tree walkable.closed fits apart

end Pass
end ComponentMarkup
