import ComponentMarkup.Annotated.Walk
import ComponentMarkup.Proofs.Document.Changes

/-!
What splitting an element leaves in the document: the new element has the children and the other
attributes, the old one the directives and the new one as its only child.
-/

namespace ComponentMarkup

namespace Document
variable (d : Document) (id n : NodeId)

theorem foldl_mapAttributes {α : Type} (f : α → Attributes → Attributes) (items : List α) :
    items.foldl (fun d item => d.mapAttributes id (f item)) d =
      d.mapAttributes id fun attributes => items.foldl (fun attributes item => f item attributes)
        attributes := by
  induction items generalizing d with
  | nil => exact d.mapAttributes_id id |>.symm
  | cons item items ih =>
      rw [List.foldl_cons, ih, mapAttributes_mapAttributes]
      rfl

/-! ## Placing nodes -/

theorem node?_place_of_ne {parent child n : NodeId} (notParent : n ≠ parent)
    (notChild : n ≠ child) : (d.place parent child).node? n = d.node? n := by
  rw [place, node?_update_of_ne _ _ notParent, node?_update_of_ne _ _ notChild]

theorem parent?_update (f : Node → Node) (same : ∀ node, (f node).parent = node.parent) :
    (d.update id f).parent? n = d.parent? n := by
  rw [parent?_eq_map, parent?_eq_map, map_node?_update d id n Node.parent f same]

theorem parent?_place (parent child : NodeId) :
    (d.place parent child).parent? n =
      if child = n ∧ n < d.size then some parent else d.parent? n := by
  have last := (d.update child fun node => { node with parent := some parent }).parent?_update
    parent n (fun node => { node with children := node.children ++ [child] }) fun _ => rfl
  rw [place, last]
  simp only [parent?, node?_update]
  by_cases same : child = n
  · subst same
    by_cases inside : child < d.size
    · obtain ⟨node, found⟩ : ∃ node, d.node? child = some node :=
        ⟨_, Array.getElem?_eq_getElem inside⟩
      simp only [if_true, inside, and_self, found, Option.map_some, Option.bind_some]
    · simp only [if_true, inside, and_false, if_false,
        d.node?_eq_none (Nat.le_of_not_lt inside), Option.map_none]
  · simp only [same, false_and, if_false]

section PlaceAll
variable (target : NodeId) (ids : List NodeId)

@[simp] theorem size_placeAll : (ids.foldl (·.place target ·) d).size = d.size := by
  induction ids generalizing d with
  | nil => rfl
  | cons child ids ih => rw [List.foldl_cons, ih, size_place]

theorem data?_placeAll : (ids.foldl (·.place target ·) d).data? n = d.data? n := by
  induction ids generalizing d with
  | nil => rfl
  | cons child ids ih => rw [List.foldl_cons, ih, data?_place]

theorem children_placeAll :
    (ids.foldl (·.place target ·) d).children n =
      if target = n ∧ n < d.size then d.children n ++ ids else d.children n := by
  induction ids generalizing d with
  | nil => simp
  | cons child ids ih =>
      rw [List.foldl_cons, ih, size_place, children_place]
      split
      · rw [List.append_assoc, List.singleton_append]
      · rfl

theorem parent?_placeAll :
    (ids.foldl (·.place target ·) d).parent? n =
      if n ∈ ids ∧ n < d.size then some target else d.parent? n := by
  induction ids generalizing d with
  | nil => simp
  | cons child ids ih =>
      rw [List.foldl_cons, ih, size_place, parent?_place]
      by_cases first : child = n
      · subst first
        by_cases inside : child < d.size <;> simp [inside]
      · simp [first, Ne.symm first]

theorem node?_placeAll_of_ne {n : NodeId} (notTarget : n ≠ target) (notMoved : n ∉ ids) :
    (ids.foldl (·.place target ·) d).node? n = d.node? n := by
  induction ids generalizing d with
  | nil => rfl
  | cons child ids ih =>
      rw [List.foldl_cons, ih _ (List.not_mem_of_not_mem_cons notMoved),
        node?_place_of_ne _ notTarget fun same => notMoved (same ▸ List.mem_cons_self)]

end PlaceAll

theorem children_emptied : (d.update id fun node => { node with children := [] }).children n =
    if n = id then [] else d.children n := by
  simp only [children, node?_update]
  by_cases same : id = n
  · subst same
    cases d.node? id <;> simp
  · simp only [same, Ne.symm same, if_false]

theorem parent?_emptied : (d.update id fun node => { node with children := [] }).parent? n =
    d.parent? n :=
  d.parent?_update id n _ fun _ => rfl

theorem data?_moveChildren (source target : NodeId) :
    (d.moveChildren source target).data? n = d.data? n := by
  rw [moveChildren, data?_placeAll]
  exact d.map_node?_update source n Node.data _ fun _ => rfl

theorem data?_append (parent child : NodeId) : (d.append parent child).data? n = d.data? n := by
  have updated (e : Document) (m : NodeId) (f : Node → Node) (same : ∀ node, (f node).data = node.data) :
      (e.update m f).data? n = e.data? n := e.map_node?_update m n Node.data f same
  rw [append, data?_place, detach]
  split
  · rfl
  · rw [updated, updated] <;> exact fun _ => rfl

@[simp] theorem size_append (parent child : NodeId) : (d.append parent child).size = d.size := by
  rw [append, size_place, detach]
  split
  · rfl
  · rw [size_update, size_update]

theorem data?_mapAttributes (f : Attributes → Attributes) :
    (d.mapAttributes id f).data? n =
      if id = n then (d.data? n).map fun
        | .element tag attributes => .element tag (f attributes)
        | data => data
      else d.data? n := by
  simp only [data?, mapAttributes, node?_update]
  split
  · cases d.node? n with
    | none => rfl
    | some node =>
        obtain ⟨_, _, data, _⟩ := node
        cases data <;> rfl
  · rfl

end Document

namespace Pass
open Document
variable {d : Document} {node : NodeId}

def heldDirectives (d : Document) (node : NodeId) : List (String × String) :=
  match d.attributes? node with
  | some attributes => attributes.entries.filter fun (name, _) => directiveNames.contains name
  | none => []

/-- The attributes that a split leaves at the old element. -/
def directivesOf (d : Document) (node : NodeId) : Attributes :=
  (heldDirectives d node).foldl (fun kept entry => kept.insert entry.1 entry.2) {}

/-- The attributes that a split moves to the new element. -/
def withoutDirectives (attributes : Attributes) : Attributes :=
  directiveNames.foldl (fun left name => left.erase name) attributes

theorem find?_withoutDirectives (attributes : Attributes) {name : String}
    (plain : name ∉ directiveNames) :
    (withoutDirectives attributes).find? name = attributes.find? name := by
  unfold withoutDirectives
  generalize directiveNames = names at plain
  induction names generalizing attributes with
  | nil => rfl
  | cons first names ih =>
      rw [List.foldl_cons, ih _ (List.not_mem_of_not_mem_cons plain), OrderedMap.find?_erase_of_ne]
      exact fun same => plain (same ▸ List.mem_cons_self)

theorem find?_directivesOf {name : String} (plain : name ∉ directiveNames) :
    (directivesOf d node).find? name = none := by
  have fold (entries : List (String × String)) (kept : Attributes)
      (directives : ∀ entry ∈ entries, entry.1 ∈ directiveNames) :
      (entries.foldl (fun kept entry => kept.insert entry.1 entry.2) kept).find? name =
        kept.find? name := by
    induction entries generalizing kept with
    | nil => rfl
    | cons entry entries ih =>
        rw [List.foldl_cons, ih _ fun other member => directives other (List.mem_cons_of_mem _ member),
          OrderedMap.find?_insert_of_ne]
        exact fun same => plain (same ▸ directives entry List.mem_cons_self)
  rw [directivesOf, fold]
  · rfl
  · intro entry member
    unfold heldDirectives at member
    split at member
    · simpa using (List.mem_filter.1 member).2
    · cases member

/-- The document of a split before the new element is put into its place. -/
def movedContent (d : Document) (node : NodeId) (old : Node) : Document :=
  (((d.add old.data old.position).2.mapAttributes d.size withoutDirectives).moveChildren node
    d.size).mapAttributes node fun _ => directivesOf d node

theorem splitContent_eq {old : Node} (found : d.node? node = some old) :
    splitContent d node = (d.size, (movedContent d node old).append node d.size) := by
  have cloned : d.clone node = (d.size, (d.add old.data old.position).2) := by
    rw [clone, found]
    rfl
  unfold splitContent movedContent
  rw [cloned]
  dsimp only
  have removed := (d.add old.data old.position).2.foldl_mapAttributes d.size
    (fun name attributes => attributes.erase name) directiveNames
  simp only [removeAttribute, setAttribute, clearAttributes] at removed ⊢
  rw [removed]
  have kept (e : Document) : (heldDirectives d node).foldl
      (fun e entry => e.mapAttributes node (·.insert entry.1 entry.2))
        (e.mapAttributes node fun _ => {}) = e.mapAttributes node fun _ => directivesOf d node :=
    (foldl_mapAttributes _ node (fun (entry : String × String) kept => kept.insert entry.1 entry.2)
      _).trans
      (mapAttributes_mapAttributes _ _ _ _)
  exact congrArg (fun e => (d.size, append e node d.size)) (kept _)

@[simp] theorem size_movedContent (old : Node) :
    (movedContent d node old).size = d.size + 1 := by
  simp only [movedContent, moveChildren, size_mapAttributes, size_placeAll, size_update, size_add]

theorem children_movedContent (old : Node) (inside : node < d.size) (n : NodeId) :
    (movedContent d node old).children n =
      if n = node then [] else if n = d.size then d.children node else d.children n := by
  rw [movedContent, children_mapAttributes, moveChildren, children_placeAll, children_mapAttributes,
    children_add, children_emptied, children_mapAttributes, children_add]
  simp only [size_update, size_mapAttributes, size_add]
  by_cases isNode : n = node
  · subst isNode
    simp [Nat.ne_of_gt inside]
  · by_cases isNew : n = d.size
    · subst isNew
      simp [isNode, children, d.node?_eq_none (Nat.le_refl _)]
    · simp [isNode, isNew, Ne.symm isNew]

theorem parent?_movedContent (old : Node) (bounded : ∀ child ∈ d.children node, child < d.size)
    (n : NodeId) : (movedContent d node old).parent? n =
      if n ∈ d.children node then some d.size else d.parent? n := by
  rw [movedContent, parent?_mapAttributes, moveChildren, parent?_placeAll, children_mapAttributes,
    children_add, parent?_emptied, parent?_mapAttributes, parent?_add]
  simp only [size_update, size_mapAttributes, size_add]
  by_cases member : n ∈ d.children node
  · simp [member, Nat.lt_succ_of_lt (bounded n member)]
  · simp [member]

theorem node?_movedContent_of_ne (old : Node) {n : NodeId} (notNode : n ≠ node)
    (notNew : n ≠ d.size) (notMoved : n ∉ d.children node) :
    (movedContent d node old).node? n = d.node? n := by
  rw [movedContent, node?_mapAttributes_of_ne _ _ notNode, moveChildren, children_mapAttributes,
    children_add, node?_placeAll_of_ne _ _ _ notNew notMoved, node?_update_of_ne _ _ notNode,
    node?_mapAttributes_of_ne _ _ notNew, node?_add, if_neg notNew]

/-! ## The split document -/

section Split
variable {tag : String} (element : d.tag? node = some tag)

section Data
include element

theorem splitContent_eq_append : ∃ old, d.node? node = some old ∧
    splitContent d node = (d.size, (movedContent d node old).append node d.size) := by
  cases found : d.node? node with
  | none => simp [tag?, data?, found] at element
  | some old => exact ⟨old, rfl, splitContent_eq found⟩

theorem fst_splitContent : (splitContent d node).1 = d.size := by
  obtain ⟨old, -, same⟩ := splitContent_eq_append element
  rw [same]

theorem size_splitContent : (splitContent d node).2.size = d.size + 1 := by
  obtain ⟨old, -, same⟩ := splitContent_eq_append element
  rw [same, size_append, size_movedContent]

theorem lt_size_splitContent : d.size < (splitContent d node).2.size := by
  rw [size_splitContent element]
  exact Nat.lt_succ_self _

theorem data?_splitContent_of_ne {n : NodeId} (notNode : n ≠ node) (notNew : n ≠ d.size) :
    (splitContent d node).2.data? n = d.data? n := by
  obtain ⟨old, found, same⟩ := splitContent_eq_append element
  rw [same, data?_append, movedContent, data?_mapAttributes, if_neg (Ne.symm notNode),
    data?_moveChildren, data?_mapAttributes, if_neg (Ne.symm notNew), data?_add, if_neg notNew]

theorem attributes?_splitContent_old :
    (splitContent d node).2.attributes? node = some (directivesOf d node) := by
  obtain ⟨old, found, same⟩ := splitContent_eq_append element
  obtain ⟨attributes, data⟩ := tag?_eq_some.1 element
  have notNew : node ≠ d.size := Nat.ne_of_lt (d.lt_size_of_node? found)
  rw [same, attributes?, data?_append, movedContent, data?_mapAttributes, if_pos rfl,
    data?_moveChildren, data?_mapAttributes, if_neg (Ne.symm notNew), data?_add, if_neg notNew, data]
  rfl

theorem attributes?_splitContent_new :
    (splitContent d node).2.attributes? d.size = (d.attributes? node).map withoutDirectives := by
  obtain ⟨old, found, same⟩ := splitContent_eq_append element
  obtain ⟨attributes, data⟩ := tag?_eq_some.1 element
  have notNew : node ≠ d.size := Nat.ne_of_lt (d.lt_size_of_node? found)
  have copied : old.data = .element tag attributes := by
    simpa [data?, found] using data
  rw [same, attributes?, data?_append, movedContent, data?_mapAttributes, if_neg notNew,
    data?_moveChildren, data?_mapAttributes, if_pos rfl, data?_add, if_pos rfl, attributes?, data,
    copied]
  rfl

theorem tag?_splitContent (n : NodeId) : (splitContent d node).2.tag? n =
    if n = d.size then some tag else d.tag? n := by
  obtain ⟨old, found, same⟩ := splitContent_eq_append element
  obtain ⟨attributes, data⟩ := tag?_eq_some.1 element
  have copied : old.data = .element tag attributes := by
    simpa [data?, found] using data
  rw [same, tag?_congr (data?_append _ _ _ _), movedContent, tag?_mapAttributes,
    tag?_congr (data?_moveChildren _ _ _ _), tag?_mapAttributes]
  by_cases isNew : n = d.size
  · simp only [tag?, data?_add, copied, isNew, if_true]
  · simp only [tag?, data?_add, isNew, if_false]

end Data

/-- The new element has the attributes of the old one that are no directives. -/
theorem data?_splitContent_made {attributes : Attributes} (data : d.data? node = some (.element tag attributes)) :
    (splitContent d node).2.data? d.size = some (.element tag (withoutDirectives attributes)) := by
  have element : d.tag? node = some tag := tag?_eq_some.2 ⟨_, data⟩
  have newTag := tag?_splitContent element d.size
  rw [if_pos rfl] at newTag
  obtain ⟨copied, new⟩ := tag?_eq_some.1 newTag
  have kept := attributes?_splitContent_new element
  rw [attributes?, new, attributes?, data] at kept
  rw [new, Option.some.inj kept]

variable (bounded : ∀ child ∈ d.children node, child < d.size)
include element bounded

/-- The new element is free when it is put into its place. -/
theorem splitContent_eq_place : ∃ old, d.node? node = some old ∧
    splitContent d node = (d.size, (movedContent d node old).place node d.size) := by
  obtain ⟨old, found, same⟩ := splitContent_eq_append element
  have free : (movedContent d node old).parent? d.size = none := by
    have notMoved : d.size ∉ d.children node := fun member =>
      Nat.lt_irrefl _ (bounded _ member)
    rw [parent?_movedContent old bounded, if_neg notMoved, parent?,
      d.node?_eq_none (Nat.le_refl _), Option.bind_none]
  refine ⟨old, found, ?_⟩
  rw [same, append, detach, free]

theorem children_splitContent (n : NodeId) : (splitContent d node).2.children n =
    if n = node then [d.size] else if n = d.size then d.children node else d.children n := by
  obtain ⟨old, found, same⟩ := splitContent_eq_place element bounded
  have inside := d.lt_size_of_node? found
  rw [same, children_place, size_movedContent, children_movedContent old inside]
  by_cases isNode : n = node
  · subst isNode
    simp [Nat.lt_succ_of_lt inside]
  · simp [isNode, Ne.symm isNode]

theorem parent?_splitContent (n : NodeId) : (splitContent d node).2.parent? n =
    if n = d.size then some node
    else if n ∈ d.children node then some d.size else d.parent? n := by
  obtain ⟨old, found, same⟩ := splitContent_eq_place element bounded
  rw [same, parent?_place, size_movedContent, parent?_movedContent old bounded]
  by_cases isNew : n = d.size
  · subst isNew
    simp
  · simp [isNew, Ne.symm isNew]

theorem node?_splitContent_of_ne {n : NodeId} (notNode : n ≠ node) (notNew : n ≠ d.size)
    (notMoved : n ∉ d.children node) : (splitContent d node).2.node? n = d.node? n := by
  obtain ⟨old, found, same⟩ := splitContent_eq_place element bounded
  rw [same, node?_place_of_ne _ notNode notNew, node?_movedContent_of_ne old notNode notNew notMoved]

end Split
end Pass
end ComponentMarkup
