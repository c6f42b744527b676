import ComponentMarkup.Proofs.Annotated.Correspondence
import ComponentMarkup.Proofs.Ordered

/-!
All that a pass changes of the document, as a function of the annotations it leaves: each old node is
what it was but for the class list, the `id`, the blanks at the edges of a text and the place of a
split, and each new node is a piece of a text or was split off.
-/

namespace ComponentMarkup

/-! ## Attributes -/

/-- The attributes of an element when its class list has been read, if it has one. -/
def Pass.classesRead (attributes : Attributes) : Attributes :=
  match attributes.find? "class" with
  | some value => Pass.setClasses value attributes
  | none => attributes

theorem Pass.attributesRead_of_distinct {attributes : Attributes}
    (distinct : OrderedMap.Distinct attributes.entries) :
    attributesRead attributes = classesRead attributes := by
  have fold (entries : List (String × String)) (distinct : OrderedMap.Distinct entries)
      (left : Attributes) :
      entries.foldl (fun left entry => if entry.1 = "class" then setClasses entry.2 left else left)
        left = match (OrderedMap.mk entries).find? "class" with
          | some value => setClasses value left
          | none => left := by
    induction entries generalizing left with
    | nil => rfl
    | cons entry entries ih =>
        obtain ⟨apart, distinctRest⟩ := List.pairwise_cons.1 distinct
        rw [List.foldl_cons, ih distinctRest]
        by_cases isClass : entry.1 = "class"
        · have absent : entries.find? (fun other => other.1 == "class") = none := by
            rw [List.find?_eq_none]
            intro other member same
            have different := apart other member
            rw [isClass, eq_of_beq same] at different
            cases different
          simp only [absent, isClass, if_true, OrderedMap.find?, List.find?_cons, beq_self_eq_true,
            Option.map_some, Option.map_none]
        · have other : (entry.1 == "class") = false := beq_eq_false_iff_ne.2 isClass
          simp only [isClass, if_false, OrderedMap.find?, List.find?_cons, other]
  exact fold attributes.entries distinct attributes

/-- A split leaves the old element the directives it has, in their order. -/
theorem Pass.directivesOf_of_distinct {d : Document} {node : NodeId} {attributes : Attributes}
    (held : d.attributes? node = some attributes)
    (distinct : OrderedMap.Distinct attributes.entries) : directivesOf d node =
      ⟨attributes.entries.filter fun entry => directiveNames.contains entry.1⟩ := by
  have fold (entries kept : List (String × String))
      (distinct : OrderedMap.Distinct (kept ++ entries)) :
      entries.foldl (fun (kept : Attributes) entry => kept.insert entry.1 entry.2) ⟨kept⟩ =
        ⟨kept ++ entries⟩ := by
    induction entries generalizing kept with
    | nil => rw [List.append_nil]; rfl
    | cons entry entries ih =>
        have fresh : OrderedMap.write entry.1 entry.2 kept = kept ++ [entry] := by
          have apart := (List.pairwise_append.1 distinct).2.2
          clear ih distinct
          induction kept with
          | nil => rfl
          | cons first kept ih =>
              have other := apart first List.mem_cons_self entry List.mem_cons_self
              rw [OrderedMap.write, other, if_neg Bool.false_ne_true,
                ih fun earlier member => apart earlier (List.mem_cons_of_mem _ member)]
              rfl
        rw [List.foldl_cons, OrderedMap.insert, fresh, ih, List.append_assoc]
        · rfl
        · rwa [List.append_assoc]
  rw [directivesOf, heldDirectives, held]
  exact fold _ [] (List.Pairwise.filter _ distinct)

/-! ## Documents -/

/-- No element has two attributes of one name. -/
def Document.NamesAttributesOnce (d : Document) : Prop :=
  ∀ node attributes, d.attributes? node = some attributes → OrderedMap.Distinct attributes.entries

/-- Numbers beyond the nodes have no attributes. -/
theorem Document.NamesAttributesOnce.of_checked {d : Document} (checked : ∀ n < d.size,
      ∀ attributes ∈ d.attributes? n, OrderedMap.Distinct attributes.entries) :
    d.NamesAttributesOnce := by
  intro n attributes held
  refine checked n ?_ attributes held
  by_contra outside
  rw [attributes?, data?, node?, Array.getElem?_eq_none (Nat.le_of_not_lt outside)] at held
  cases held

namespace AnnotatedTree

/-- The annotation that stands for an element. -/
def on? (t : AnnotatedTree) (node : NodeId) : Option AnnotatedId :=
  (List.range t.nodes.size).find? fun id => t.element? id == some node

/-- The element that was split off a host. -/
def splitOff? (t : AnnotatedTree) (node : NodeId) : Option NodeId :=
  ((t.on? node).bind t.content?).bind t.element?

/-- Whether text below an annotation keeps its blanks: the nearest `indentation` above it decides. -/
def keepsBlanks (t : AnnotatedTree) (before : Document) (byDefault : Bool)
    (below : Option AnnotatedId) : Bool :=
  (t.line below).foldr
    (fun id inherited => match t.element? id with
      | some node => before.keepsBlanks node inherited
      | none => inherited)
    byDefault

end AnnotatedTree

namespace SourceFile

/-- An unbound text below an element that is annotated is written as it is shown. -/
def textAfter (before : Document) (keepBlanks : Bool) (file : SourceFile) (above : Option NodeId)
    (text : String) : String :=
  match above.bind file.annotations.on? with
  | some id =>
      if Binding.hasBinding text then text
      else shownText (file.annotations.keepsBlanks before keepBlanks (some id)) text
  | none => text

/-- A host that was split has its directives left, an element whose attributes were read the words
of its class list, and an element of the static markup its identifier. -/
def attributesAfter (file : SourceFile) (node : NodeId) (tag : String) (attributes : Attributes) :
    Attributes :=
  match file.annotations.on? node with
  | none => attributes
  | some id =>
      match file.annotations.get? id with
      | none => attributes
      | some a =>
          file.annotations.identified id a
            (if Pass.splits tag a.directive? then
              ⟨attributes.entries.filter fun entry => directiveNames.contains entry.1⟩
            else if Pass.readsAttributes tag a.directive? then Pass.classesRead attributes
            else attributes)

def dataAfter (before : Document) (keepBlanks : Bool) (file : SourceFile) (node : NodeId)
    (old : Node) : NodeData :=
  match old.data with
  | .text text => .text (file.textAfter before keepBlanks old.parent text)
  | .element tag attributes => .element tag (file.attributesAfter node tag attributes)
  | data => data

/-- What a pass leaves of the node `node`, which was `old`. -/
def nodeAfter (before : Document) (keepBlanks : Bool) (file : SourceFile) (node : NodeId)
    (old : Node) : Node where
  parent := old.parent.map fun above => (file.annotations.splitOff? above).getD above
  children := match file.annotations.splitOff? node with
    | some new => [new]
    | none => old.children
  data := file.dataAfter before keepBlanks node old
  position := old.position

/-- A new text is no child of any node. -/
def AddsText (file : SourceFile) (node : NodeId) (new : Node) : Prop :=
  (∃ id a, file.annotations.get? id = some a ∧ a.isText = true ∧ a.source = node) ∧
    ∃ contents position, new = { data := .text contents, position }

/-- A new element has what its host was but for the directives. -/
def AddsElement (before : Document) (file : SourceFile) (node : NodeId) (new : Node) : Prop :=
  ∃ host old tag attributes, before.node? host = some old ∧ old.data = .element tag attributes ∧
    file.annotations.splitOff? host = some node ∧
    new = { old with
      parent := some host
      data := .element tag (Pass.classesRead
        ⟨attributes.entries.filter fun entry => !directiveNames.contains entry.1⟩) }

/-- All that a pass has changed of the document of a file, which was `before`. -/
structure Frames (before : Document) (keepBlanks : Bool) (file : SourceFile) : Prop where
  hosts : ∀ id a node tag, file.annotations.get? id = some a →
    file.annotations.element? id = some node → before.tag? node = some tag →
      a.content?.isSome = Pass.splits tag a.directive?
  old : ∀ node old, before.node? node = some old →
    file.document.node? node = some (file.nodeAfter before keepBlanks node old)
  new : ∀ node new, before.size ≤ node → file.document.node? node = some new →
    file.AddsText node new ∨ file.AddsElement before node new

end SourceFile

namespace AnnotatedTree
variable {t : AnnotatedTree} {id : AnnotatedId} {node : NodeId} {a : AnnotatedNode}
  {before : Document} {keepBlanks : Bool}

theorem on?_eq_none (unannotated : ∀ id, t.element? id ≠ some node) : t.on? node = none :=
  List.find?_eq_none.2 fun id _ same => unannotated id (eq_of_beq same)

theorem element?_of_on? (found : t.on? node = some id) : t.element? id = some node := by
  have here : (t.element? id == some node) = true := by
    simpa using List.find?_some found
  exact eq_of_beq here

theorem source_of_element? (element : t.element? id = some node) (found : t.get? id = some a) :
    a.source = node := by
  obtain ⟨b, here, shape⟩ := Option.bind_eq_some_iff.1 element
  obtain rfl := Option.some.inj (found.symm.trans here)
  split at shape
  · cases shape
  · exact Option.some.inj shape

theorem on?_eq_some (element : t.element? id = some node)
    (apart : ∀ other, t.element? other = some node → other = id) : t.on? node = some id := by
  cases found : t.on? node with
  | some other => rw [apart other (element?_of_on? found)]
  | none =>
      obtain ⟨a, here, -⟩ := Option.bind_eq_some_iff.1 element
      have absent := List.find?_eq_none.1 found id (List.mem_range.2 (lt_size_of_get? here))
      rw [element] at absent
      exact absurd (beq_self_eq_true _) absent

theorem splitOff?_eq_none (unannotated : t.on? node = none) : t.splitOff? node = none := by
  rw [splitOff?, unannotated]
  rfl

theorem keepsBlanks_eq (found : t.get? id = some a) (element : a.isText = false)
    (ordered : ∀ p, a.parent = some p → p < id) : t.keepsBlanks before keepBlanks (some id) =
      before.keepsBlanks a.source (t.keepsBlanks before keepBlanks a.parent) := by
  have line : t.line (some id) = id :: t.line a.parent := by
    rw [AnnotatedTree.line, ancestors, parent?_eq found]
    cases above : a.parent with
    | none => rfl
    | some p =>
        dsimp only
        rw [if_pos (ordered p above), AnnotatedTree.line]
  rw [keepsBlanks, line, List.foldr_cons, element?_eq found element]
  rfl

end AnnotatedTree

namespace Pass
variable {d : Document} {u : Pass} {place : Place} {f F : Forest} {id : AnnotatedId}
  {a : AnnotatedNode} {node : NodeId} {above : Option NodeId} {old : Node} {keepBlanks : Bool}

/-- The annotations stand for nodes that were walked or are new. -/
theorem Mirrors.sources (mirrors : Mirrors d u place f F) : ∀ id ∈ F.preorder, ∃ a,
    u.annotations.get? id = some a ∧ (a.source ∈ f.preorder ∨ d.size ≤ a.source) := by
  induction mirrors with
  | nil => exact fun id impossible => nomatch impossible
  | passed => exact fun id impossible => nomatch impossible
  | append _ _ ihFirst ihLater =>
      intro id member
      rw [Forest.preorder_append, List.mem_append] at member
      rw [Forest.preorder_append]
      rcases member with member | member
      · obtain ⟨a, found, source⟩ := ihFirst id member
        exact ⟨a, found, source.imp_left (List.mem_append_left _)⟩
      · obtain ⟨a, found, source⟩ := ihLater id member
        exact ⟨a, found, source.imp_left (List.mem_append_right _)⟩
  | text under found isText row same =>
      intro id member
      rw [Forest.preorder_leaves] at member
      cases row with
      | hidden => cases member
      | own unbound something after here source =>
          obtain rfl := List.mem_singleton.1 member
          exact ⟨_, here, .inl (source ▸ List.mem_cons_self)⟩
      | cut bound after pieces =>
          obtain ⟨piece, -, a, here, -, -, -, isNew, -⟩ := exists_isPiece_of_mem pieces member
          exact ⟨a, here, .inr isNew⟩
  | whole found element stands _ after _ ih =>
      intro id member
      rw [Forest.mem_preorder_tree] at member
      rcases member with rfl | member
      · exact ⟨_, stands.found, .inl (stands.source ▸ List.mem_cons_self)⟩
      · obtain ⟨a, here, source⟩ := ih id member
        exact ⟨a, here, source.imp_left fun below => Forest.mem_preorder_tree.2 (.inr below)⟩
  | split found element stands _ content _ isNew after made _ ih =>
      intro id member
      rw [Forest.mem_preorder_tree, Forest.mem_preorder_tree] at member
      rcases member with rfl | rfl | member
      · exact ⟨_, stands.found, .inl (stands.source ▸ List.mem_cons_self)⟩
      · exact ⟨_, content.found, .inr (content.source ▸ isNew)⟩
      · obtain ⟨a, here, source⟩ := ih id member
        exact ⟨a, here, source.imp_left fun below => Forest.mem_preorder_tree.2 (.inr below)⟩

/-! ### New nodes -/

section Recorded
variable (apart : ∀ id other n, u.annotations.element? id = some n →
    u.annotations.element? other = some n → other = id)
  (distinct : d.NamesAttributesOnce)

include apart in
theorem Stands.on? {parent : Option AnnotatedId} {content : Option AnnotatedId}
    {children : List AnnotatedId} (stands : u.Stands parent node content children id a) :
    u.annotations.on? node = some id := by
  have element := AnnotatedTree.element?_eq stands.found stands.element
  rw [stands.source] at element
  exact AnnotatedTree.on?_eq_some element fun other found => apart id other node element found

include apart in
theorem Stands.splitOff? {parent : Option AnnotatedId} {content : Option AnnotatedId}
    {children : List AnnotatedId} (stands : u.Stands parent node content children id a) :
    u.annotations.splitOff? node = content.bind u.annotations.element? := by
  rw [AnnotatedTree.splitOff?, stands.on? apart, Option.bind_some,
    AnnotatedTree.content?_eq stands.found, stands.content]

include apart distinct in
/-- What is annotated of the new nodes is a text or was split off. -/
theorem Mirrors.adds (mirrors : Mirrors d u place f F) : ∀ id ∈ F.preorder, ∀ a,
    u.annotations.get? id = some a → d.size ≤ a.source → ∀ new,
      u.document.node? a.source = some new →
        u.file.AddsText a.source new ∨ u.file.AddsElement d a.source new := by
  -- The annotation of a node of `d` has no new source.
  have old {id : AnnotatedId} {a b : AnnotatedNode} {node : NodeId} {old : Node}
      (found : d.node? node = some old) (here : u.annotations.get? id = some b)
      (source : b.source = node) (here' : u.annotations.get? id = some a)
      (isNew : d.size ≤ a.source) : False := by
    obtain rfl := Option.some.inj (here.symm.trans here')
    exact Nat.not_lt_of_ge isNew (source ▸ d.lt_size_of_node? found)
  induction mirrors with
  | nil => exact fun id impossible => nomatch impossible
  | passed => exact fun id impossible => nomatch impossible
  | append _ _ ihFirst ihLater =>
      intro id member
      rw [Forest.preorder_append, List.mem_append] at member
      exact member.elim (ihFirst id) (ihLater id)
  | text under found isText row same =>
      intro id member a here isNew new present
      rw [Forest.preorder_leaves] at member
      cases row with
      | hidden => cases member
      | own unbound something after here' source =>
          obtain rfl := List.mem_singleton.1 member
          exact (old found here' source here isNew).elim
      | cut bound after pieces =>
          obtain ⟨piece, -, b, here', -, kind, -, -, made⟩ := exists_isPiece_of_mem pieces member
          obtain rfl := Option.some.inj (here'.symm.trans here)
          refine .inl ⟨⟨id, b, here, ?_, rfl⟩, _, _, Option.some.inj (present.symm.trans made)⟩
          rw [AnnotatedNode.isText, kind]
  | whole found element stands _ after _ ih =>
      intro id member a here isNew new present
      rw [Forest.mem_preorder_tree] at member
      rcases member with rfl | member
      · exact (old found stands.found stands.source here isNew).elim
      · exact ih id member a here isNew new present
  | @split place host new below F before tag attributes id inner a b found element stands _ content
      _ isNew after made _ ih =>
      intro n member c here isNew' node present
      rw [Forest.mem_preorder_tree, Forest.mem_preorder_tree] at member
      rcases member with rfl | rfl | member
      · exact (old found stands.found stands.source here isNew').elim
      · obtain rfl := Option.some.inj (content.found.symm.trans here)
        refine .inr ⟨host, before, tag, attributes, found, element, ?_, ?_⟩
        · refine (stands.splitOff? apart).trans ?_
          rw [Option.bind_some, AnnotatedTree.element?_eq content.found content.element]
        · rw [content.source, made] at present
          have held : d.attributes? host = some attributes := by
            rw [Document.attributes?, Document.data?_eq found, element]
          rw [← Option.some.inj present, withoutDirectives_eq,
            attributesRead_of_distinct (List.Pairwise.filter _ (distinct host attributes held))]
      · exact ih n member c here isNew' node present

/-! ### Old nodes -/

/-- `f` is as the annotations say that a pass leaves it. -/
def Framed (d : Document) (u : Pass) (keepBlanks : Bool) (f : Forest) : Prop :=
  ∀ n ∈ f.preorder, ∀ old, d.node? n = some old →
    u.document.node? n = some (u.file.nodeAfter d keepBlanks n old)

/-- The place of a forest that hung below `above` at first. -/
structure Place.Under (d : Document) (u : Pass) (keepBlanks : Bool) (place : Place)
    (above : Option NodeId) : Prop where
  holder : place.holder = above.map fun host => (u.annotations.splitOff? host).getD host
  mode : u.annotations.keepsBlanks d keepBlanks place.parent = place.keepBlanks
  shown : ∀ p ∈ place.parent, ∃ id, above.bind u.annotations.on? = some id ∧
    u.annotations.keepsBlanks d keepBlanks (some id) = place.keepBlanks

theorem nodeAfter_of_unannotated (unannotated : u.annotations.on? node = none)
    (silent : ∀ text, old.data = .text text → old.parent.bind u.annotations.on? = none) :
    u.file.nodeAfter d keepBlanks node old =
      { old with
        parent := old.parent.map fun above => (u.annotations.splitOff? above).getD above } := by
  have whole : u.file.annotations.splitOff? node = none :=
    AnnotatedTree.splitOff?_eq_none unannotated
  have data : u.file.dataAfter d keepBlanks node old = old.data := by
    rw [SourceFile.dataAfter]
    cases shape : old.data with
    | text text =>
        have above : old.parent.bind u.file.annotations.on? = none := silent text shape
        dsimp only
        rw [SourceFile.textAfter, above]
    | element tag attributes =>
        have none : u.file.annotations.on? node = none := unannotated
        dsimp only
        rw [SourceFile.attributesAfter, none]
    | _ => rfl
  rw [SourceFile.nodeAfter, data, whole]
  rfl

/-- What was carried over without annotations is as it was, below what was split off above it. -/
theorem framed_of_carries (above : Option NodeId) {holder : Option NodeId}
    (carries : d.Carries u.document holder f)
    (wellFormed : d.WellFormed) (follows : f.Follows d.children)
    (unannotated : ∀ n ∈ f.preorder, u.annotations.on? n = none)
    (under : ∀ n ∈ f.tops, d.parent? n = above)
    (moved : holder = above.map fun host => (u.annotations.splitOff? host).getD host)
    (silent : ∀ n ∈ f.tops, d.text? n = none ∨ above.bind u.annotations.on? = none) :
    Framed d u keepBlanks f := by
  induction f generalizing above holder with
  | nil => exact fun n impossible => nomatch impossible
  | cons node below rest ihBelow ihRest =>
      obtain ⟨⟨old, before, after⟩, inside, later⟩ := carries
      obtain ⟨tops, followsBelow, followsRest⟩ := follows
      simp only [Forest.preorder, List.mem_cons, List.mem_append, Forest.tops] at unannotated under silent
      have none := unannotated node (.inl rfl)
      intro n member old' found
      simp only [Forest.preorder, List.mem_cons, List.mem_append] at member
      rcases member with rfl | member | member
      · obtain rfl := Option.some.inj (before.symm.trans found)
        have parent := (Document.parent?_eq before).symm.trans (under n (.inl rfl))
        rw [after, nodeAfter_of_unannotated none fun text isText => ?_, moved, parent]
        have shown : d.text? n = some text := by
          rw [Document.text?, Document.data?_eq before, isText]
        rw [parent]
        exact (silent n (.inl rfl)).resolve_left fun silent => by
          rw [shown] at silent
          cases silent
      · refine ihBelow (some node) inside followsBelow
          (fun m below => unannotated m (.inr (.inl below))) (fun m top => ?_) ?_
          (fun m _ => .inr none) n member old' found
        · exact (wellFormed.linked node m).1 (tops ▸ top)
        · rw [Option.map_some, AnnotatedTree.splitOff?_eq_none none]
          rfl
      · exact ihRest above later followsRest (fun m later => unannotated m (.inr (.inr later)))
          (fun m top => under m (.inr top)) moved (fun m top => silent m (.inr top)) n member old' found

include apart in
theorem Stands.attributesAfter {parent : Option AnnotatedId} {content : Option AnnotatedId}
    {children : List AnnotatedId} (stands : u.Stands parent node content children id a)
    (tag : String) (attributes : Attributes) : u.file.attributesAfter node tag attributes =
      u.annotations.identified id a
        (if splits tag a.directive? then
          ⟨attributes.entries.filter fun entry => directiveNames.contains entry.1⟩
        else if readsAttributes tag a.directive? then classesRead attributes else attributes) := by
  have on : u.file.annotations.on? node = some id := stands.on? apart
  have here : u.file.annotations.get? id = some a := stands.found
  rw [SourceFile.attributesAfter, on]
  dsimp only
  rw [here]
  rfl

theorem Stands.mode {content : Option AnnotatedId} {children : List AnnotatedId}
    (stands : u.Stands place.parent node content children id a)
    (ordered : ∀ id p, u.annotations.parent? id = some p → p < id)
    (under : place.Under d u keepBlanks above) :
    u.annotations.keepsBlanks d keepBlanks (some id) = d.keepsBlanks node place.keepBlanks := by
  rw [AnnotatedTree.keepsBlanks_eq stands.found stands.element, stands.source, stands.parent,
    under.mode]
  exact fun p isParent => ordered id p ((AnnotatedTree.parent?_eq stands.found).trans isParent)

include apart distinct in
/-- Every walked node is as the annotations say. -/
theorem Mirrors.framed (mirrors : Mirrors d u place f F) (fits : d.Fits f)
    (wellFormed : d.WellFormed)
    (ordered : ∀ id p, u.annotations.parent? id = some p → p < id)
    (within : ∀ id n, u.annotations.element? id = some n → n ∈ f.preorder → id ∈ F.preorder)
    (above : Option NodeId) (tops : ∀ n ∈ f.tops, d.parent? n = above)
    (under : place.Under d u keepBlanks above) : Framed d u keepBlanks f := by
  induction mirrors generalizing above with
  | nil => exact fun n impossible => nomatch impossible
  | @append place f g F G first later ihFirst ihLater =>
      have distinctBoth := fits.distinct
      rw [Forest.preorder_append] at distinctBoth
      obtain ⟨-, -, disjoint⟩ := List.nodup_append.1 distinctBoth
      have inside (n : NodeId) (member : n ∈ f.preorder ∨ n ∈ g.preorder) : n < d.size := by
        refine fits.inside n ?_
        rwa [Forest.preorder_append, List.mem_append]
      simp only [Forest.preorder_append, Forest.tops_append, List.mem_append] at within tops
      have firstFits := fits.left
      have laterFits := fits.right
      -- The annotations of the one forest stand for no node of the other.
      have withinFirst (id : AnnotatedId) (n : NodeId)
          (element : u.annotations.element? id = some n) (member : n ∈ f.preorder) :
          id ∈ F.preorder := by
        refine (within id n element (.inl member)).resolve_right fun isLater => ?_
        obtain ⟨a, found, source⟩ := later.sources id isLater
        have same := AnnotatedTree.source_of_element? element found
        rcases source with source | isNew
        · exact disjoint n member n (same ▸ source) rfl
        · exact Nat.not_lt_of_ge isNew (same ▸ inside n (.inl member))
      have withinLater (id : AnnotatedId) (n : NodeId)
          (element : u.annotations.element? id = some n) (member : n ∈ g.preorder) :
          id ∈ G.preorder := by
        refine (within id n element (.inr member)).resolve_left fun isFirst => ?_
        obtain ⟨a, found, source⟩ := first.sources id isFirst
        have same := AnnotatedTree.source_of_element? element found
        rcases source with source | isNew
        · exact disjoint n (same ▸ source) n member rfl
        · exact Nat.not_lt_of_ge isNew (same ▸ inside n (.inr member))
      intro n member
      rw [Forest.preorder_append, List.mem_append] at member
      rcases member with member | member
      · exact ihFirst firstFits withinFirst above (fun m top => tops m (.inl top)) under n member
      · exact ihLater laterFits withinLater above (fun m top => tops m (.inr top)) under n member
  | passed silent left same =>
      refine framed_of_carries above same wellFormed fits.follows (fun n member => ?_) tops under.holder
        fun n top => .inl ?_
      · exact AnnotatedTree.on?_eq_none fun id element => nomatch within id n element member
      · rwa [List.mem_singleton.1 top]
  | @text place parent node below before contents ids isParent found isText row same =>
      -- Annotations of texts stand for no element.
      have unannotated : ∀ n ∈ (Forest.cons node below .nil).preorder, u.annotations.on? n = none := by
        refine fun n member => AnnotatedTree.on?_eq_none fun id element => ?_
        have among := within id n element member
        rw [Forest.preorder_leaves] at among
        obtain ⟨a, here, kind⟩ := row.isText among
        rw [AnnotatedTree.element?, here, Option.bind_some, kind] at element
        cases element
      have none := unannotated node List.mem_cons_self
      obtain ⟨id, annotated, mode⟩ := under.shown parent isParent
      have parentBefore := (Document.parent?_eq found).symm.trans (tops node List.mem_cons_self)
      intro n member old present
      rw [Forest.mem_preorder_tree] at member
      rcases member with rfl | member
      · obtain rfl := Option.some.inj (found.symm.trans present)
        have text : u.file.textAfter d keepBlanks before.parent contents =
            if Binding.hasBinding contents then contents
            else shownText place.keepBlanks contents := by
          have annotated' : above.bind u.file.annotations.on? = some id := annotated
          rw [SourceFile.textAfter, parentBefore, annotated', ← mode]
          rfl
        have whole : u.file.nodeAfter d keepBlanks n before =
            { before with
              parent := place.holder
              data := .text (if Binding.hasBinding contents then contents
                else shownText place.keepBlanks contents) } := by
          have unsplit : u.file.annotations.splitOff? n = Option.none :=
            AnnotatedTree.splitOff?_eq_none none
          rw [SourceFile.nodeAfter, SourceFile.dataAfter, isText, unsplit, under.holder, ← parentBefore]
          dsimp only
          rw [text]
          rfl
        rw [whole]
        cases row with
        | hidden unbound nothing after => rw [after, unbound, if_neg Bool.false_ne_true, nothing]
        | own unbound something after => rw [after, unbound, if_neg Bool.false_ne_true]
        | cut bound after => rw [after, bound, if_pos rfl, ← isText]
      · refine framed_of_carries (some node) same wellFormed fits.under.follows
          (fun m inside => unannotated m (Forest.mem_preorder_tree.2 (.inr inside)))
          (fun m top => (wellFormed.linked node m).1 (fits.follows.1 ▸ top)) ?_ (fun m _ => .inr none)
          n member old present
        rw [Option.map_some, AnnotatedTree.splitOff?_eq_none none]
        rfl
  | @whole place node below F before tag attributes id a found element stands unsplit after inside
      ih =>
      have on := stands.on? apart
      have alone := stands.splitOff? apart
      rw [Option.bind_none] at alone
      have parentBefore := (Document.parent?_eq found).symm.trans (tops node List.mem_cons_self)
      intro n member old present
      rw [Forest.mem_preorder_tree] at member
      rcases member with rfl | member
      · obtain rfl := Option.some.inj (found.symm.trans present)
        have held : d.attributes? n = some attributes := by
          rw [Document.attributes?, Document.data?_eq found, element]
        have alone' : u.file.annotations.splitOff? n = none := alone
        rw [after, SourceFile.nodeAfter, SourceFile.dataAfter, element, alone', under.holder,
          ← parentBefore]
        dsimp only
        rw [stands.attributesAfter apart, unsplit, if_neg Bool.false_ne_true,
          attributesRead_of_distinct (distinct n attributes held)]
        rfl
      · have mode := stands.mode ordered under
        refine ih fits.under (fun id' m element member => ?_) (some node)
          (fun m top => (wellFormed.linked node m).1 (fits.follows.1 ▸ top))
          ⟨by rw [Option.map_some, alone]; rfl, mode, fun _ _ => ⟨id, on, mode⟩⟩ n member old present
        have among := within id' m element (Forest.mem_preorder_tree.2 (.inr member))
        refine (Forest.mem_preorder_tree.1 among).resolve_left ?_
        rintro rfl
        have same := AnnotatedTree.source_of_element? element stands.found
        exact fits.not_mem_below (stands.source.symm.trans same ▸ member)
  | @split place host new below F before tag attributes id inner a b found element stands splits
      content plain isNew after made inside ih =>
      have on := stands.on? apart
      have off := stands.splitOff? apart
      rw [Option.bind_some, AnnotatedTree.element?_eq content.found content.element,
        content.source] at off
      have parentBefore := (Document.parent?_eq found).symm.trans (tops host List.mem_cons_self)
      intro n member old present
      rw [Forest.mem_preorder_tree] at member
      rcases member with rfl | member
      · obtain rfl := Option.some.inj (found.symm.trans present)
        have held : d.attributes? n = some attributes := by
          rw [Document.attributes?, Document.data?_eq found, element]
        have off' : u.file.annotations.splitOff? n = some new := off
        rw [after, SourceFile.nodeAfter, SourceFile.dataAfter, element, off', under.holder,
          ← parentBefore]
        dsimp only
        rw [stands.attributesAfter apart, splits, if_pos rfl,
          directivesOf_of_distinct held (distinct n attributes held)]
        rfl
      · -- The new element has no attributes before, so the mode below it is that below the host.
        have mode := stands.mode ordered under
        have mode' : u.annotations.keepsBlanks d keepBlanks (some inner) =
            d.keepsBlanks host place.keepBlanks := by
          rw [AnnotatedTree.keepsBlanks_eq content.found content.element, content.source,
            content.parent, mode, Document.keepsBlanks, Document.attribute?_eq_none isNew]
          exact fun p isParent =>
            ordered inner p ((AnnotatedTree.parent?_eq content.found).trans isParent)
        refine ih fits.under (fun id' m element member => ?_) (some host)
          (fun m top => (wellFormed.linked host m).1 (fits.follows.1 ▸ top))
          ⟨by rw [Option.map_some, off]; rfl, mode', fun _ _ => ⟨id, on, mode⟩⟩ n member old present
        have among := within id' m element (Forest.mem_preorder_tree.2 (.inr member))
        rw [Forest.mem_preorder_tree, Forest.mem_preorder_tree] at among
        rcases among with rfl | rfl | among
        · have same := AnnotatedTree.source_of_element? element stands.found
          exact absurd member (stands.source.symm.trans same ▸ fits.not_mem_below)
        · have same := AnnotatedTree.source_of_element? element content.found
          have early := fits.under.inside m member
          exact absurd early (Nat.not_lt_of_ge (content.source.symm.trans same ▸ isNew))
        · exact among

end Recorded

/-- The elements that are hosts of others are those that are split. -/
theorem Mirrors.hosts {tag : String} (mirrors : Mirrors d u place f F) : ∀ id ∈ F.preorder, ∀ a,
    u.annotations.get? id = some a → u.annotations.element? id = some node →
      d.tag? node = some tag → a.content?.isSome = splits tag a.directive? := by
  -- Of an annotation that is known to stand for an element, it is enough to look at that element.
  have decide {parent content : Option AnnotatedId} {children : List AnnotatedId} {n : NodeId}
      {id : AnnotatedId} {a b : AnnotatedNode}
      (stands : u.Stands parent n content children id b) (here : u.annotations.get? id = some a)
      (element : u.annotations.element? id = some node) :
      a = b ∧ n = node :=
    ⟨Option.some.inj (here.symm.trans stands.found),
      stands.source.symm.trans (AnnotatedTree.source_of_element? element stands.found)⟩
  induction mirrors with
  | nil => exact fun id impossible => nomatch impossible
  | passed => exact fun id impossible => nomatch impossible
  | append _ _ ihFirst ihLater =>
      intro id member
      rw [Forest.preorder_append, List.mem_append] at member
      exact member.elim (ihFirst id) (ihLater id)
  | text under found isText row same =>
      intro id member a here element
      rw [Forest.preorder_leaves] at member
      obtain ⟨b, here', kind⟩ := row.isText member
      rw [AnnotatedTree.element?, here', Option.bind_some, kind] at element
      cases element
  | whole found element stands unsplit after _ ih =>
      intro id member a here isElement isTag
      rw [Forest.mem_preorder_tree] at member
      rcases member with rfl | member
      · obtain ⟨rfl, rfl⟩ := decide stands here isElement
        obtain rfl := Option.some.inj ((Document.tag?_eq found element).symm.trans isTag)
        rw [stands.content, unsplit]
        rfl
      · exact ih id member a here isElement isTag
  | split found element stands splits content plain isNew after made _ ih =>
      intro id member a here isElement isTag
      rw [Forest.mem_preorder_tree, Forest.mem_preorder_tree] at member
      rcases member with rfl | rfl | member
      · obtain ⟨rfl, rfl⟩ := decide stands here isElement
        obtain rfl := Option.some.inj ((Document.tag?_eq found element).symm.trans isTag)
        rw [stands.content, splits]
        rfl
      · obtain ⟨rfl, rfl⟩ := decide content here isElement
        rw [Document.tag?_eq_none isNew] at isTag
        cases isTag
      · exact ih id member a here isElement isTag

end Pass

open Pass in
/-- A first pass changes nothing of the document but what its annotations ask for. -/
theorem frames_file_annotateFile (keepBlanks : Bool) {s : Pass} (fresh : s.annotations = {})
    (wellFormed : s.document.WellFormed)
    (distinct : s.document.NamesAttributesOnce) :
    (annotateFile keepBlanks s).file.Frames s.document keepBlanks := by
  obtain ⟨F, grown, mirrors⟩ := mirrors_annotateFile keepBlanks fresh wellFormed
  have walkable := walkable_bodyForest fresh wellFormed
  have visits := visits_annotateFile keepBlanks s
  have sourced := visits.sourced walkable
  obtain ⟨f', covers⟩ := visits.covers walkable.valid walkable.fits
  have mirrored := mirrors_file_annotateFile keepBlanks fresh wellFormed
  have tree := grown.tree
  rw [fresh] at tree
  generalize annotateFile keepBlanks s = t at *
  have fits := walkable.fits
  have all {id : AnnotatedId} {a : AnnotatedNode} (found : t.annotations.get? id = some a) :
      id ∈ F.preorder :=
    tree.mem_preorder.2 ⟨Nat.zero_le id, AnnotatedTree.lt_size_of_get? found⟩
  have apart (id other : AnnotatedId) (n : NodeId) (element : t.annotations.element? id = some n)
      (element' : t.annotations.element? other = some n) : other = id := by
    obtain ⟨a, found, -⟩ := Option.bind_eq_some_iff.1 element
    obtain ⟨b, found', -⟩ := Option.bind_eq_some_iff.1 element'
    exact mirrored.distinct other id b a found' found
      ((AnnotatedTree.source_of_element? element' found').trans
        (AnnotatedTree.source_of_element? element found).symm)
  -- Outside the body nothing is annotated.
  have unannotated {n : NodeId} (inside : n < s.document.size)
      (outside : n ∉ s.document.bodyForest.preorder) : t.annotations.on? n = none := by
    refine AnnotatedTree.on?_eq_none fun id element => ?_
    obtain ⟨a, found, -⟩ := Option.bind_eq_some_iff.1 element
    obtain ⟨b, found', source⟩ := mirrors.sources id (all found)
    rw [AnnotatedTree.source_of_element? element found'] at source
    exact source.elim outside (Nat.not_le_of_gt inside)
  have unmoved {above : Option NodeId}
      (outside : ∀ h ∈ above, h < s.document.size ∧ h ∉ s.document.bodyForest.preorder) :
      above.map (fun host => (t.annotations.splitOff? host).getD host) = above := by
    cases above with
    | none => rfl
    | some host =>
        obtain ⟨inside, notBelow⟩ := outside host rfl
        rw [Option.map_some, AnnotatedTree.splitOff?_eq_none (unannotated inside notBelow)]
        rfl
  refine ⟨fun id a node tag found element isTag => ?_, fun node old found => ?_,
    fun node new isNew found => ?_⟩
  · exact mirrors.hosts id (all found) a found element isTag
  · by_cases member : node ∈ s.document.bodyForest.preorder
    · refine mirrors.framed apart distinct fits wellFormed mirrored.ordered
        (fun id n element _ => ?_) s.document.bodyHolder
        (fun n top => (wellFormed.of_top_bodyForest top).1)
        ⟨?_, rfl, fun p impossible => nomatch impossible⟩ node member old found
      · obtain ⟨a, found, -⟩ := Option.bind_eq_some_iff.1 element
        exact all found
      · exact (unmoved wellFormed.of_bodyHolder).symm
    · have inside := s.document.lt_size_of_node? found
      have outside (host : NodeId) (above : host ∈ old.parent) :
          host < s.document.size ∧ host ∉ s.document.bodyForest.preorder := by
        have isChild := (wellFormed.linked host node).2 ((Document.parent?_eq found).trans above)
        exact ⟨Document.lt_size_of_mem_children isChild,
          fun inside => member (fits.follows.mem_of_mem_children inside isChild)⟩
      have silent : old.parent.bind t.annotations.on? = none := by
        cases above : old.parent with
        | none => rfl
        | some host => exact unannotated (outside host above).1 (outside host above).2
      rw [nodeAfter_of_unannotated (unannotated inside member) fun _ _ => silent, unmoved outside]
      exact (covers.reworks.outside node inside member).trans found
  · have inside := t.document.lt_size_of_node? found
    obtain ⟨id, a, -, here, rfl⟩ := sourced.made node isNew inside
    exact mirrors.adds apart distinct id (all here) a here isNew new found

end ComponentMarkup
