import ComponentMarkup.Document.Forest

/-!
What a change of a document leaves at each of its nodes.
-/

namespace ComponentMarkup

theorem modify_modify {α : Type} (xs : Array α) (i : Nat) (f g : α → α) :
    (xs.modify i f).modify i g = xs.modify i (g ∘ f) := by
  apply Array.ext_getElem?
  intro j
  simp only [Array.getElem?_modify]
  split
  · rw [Option.map_map]
  · rfl

theorem modify_id {α : Type} (xs : Array α) (i : Nat) : xs.modify i id = xs := by
  apply Array.ext_getElem?
  intro j
  rw [Array.getElem?_modify]
  split
  · cases xs[j]? <;> rfl
  · rfl

theorem any_congr_mem {α : Type} {p q : α → Bool} {xs : List α} (same : ∀ x ∈ xs, p x = q x) :
    xs.any p = xs.any q := by
  induction xs with
  | nil => rfl
  | cons x xs ih =>
      rw [List.any_cons, List.any_cons, same x List.mem_cons_self,
        ih fun y member => same y (List.mem_cons_of_mem x member)]

namespace Document
variable (d : Document) (id n : NodeId)

/-! ## Single nodes -/

theorem node?_update (f : Node → Node) :
    (d.update id f).node? n = if id = n then (d.node? n).map f else d.node? n := by
  simp only [node?, update, Array.getElem?_modify]

theorem node?_update_of_ne (f : Node → Node) {id n : NodeId} (different : n ≠ id) :
    (d.update id f).node? n = d.node? n := by
  rw [node?_update, if_neg (Ne.symm different)]

@[simp] theorem size_update (f : Node → Node) : (d.update id f).size = d.size := by
  simp only [size, update, Array.size_modify]

theorem node?_eq_none {n : NodeId} (outside : d.size ≤ n) : d.node? n = none :=
  Array.getElem?_eq_none outside

theorem lt_size_of_node? {n : NodeId} {node : Node} (found : d.node? n = some node) : n < d.size :=
  (Array.getElem?_eq_some_iff.1 found).1

theorem map_node?_update {α : Type} (g : Node → α) (f : Node → Node)
    (same : ∀ node, g (f node) = g node) :
    ((d.update id f).node? n).map g = (d.node? n).map g := by
  rw [node?_update]
  split
  · cases d.node? n with
    | none => rfl
    | some node => simp only [Option.map_some, same]
  · rfl

theorem children_eq_map : d.children n = ((d.node? n).map Node.children).getD [] := by
  simp only [children]
  cases d.node? n <;> rfl

theorem parent?_eq_map : d.parent? n = ((d.node? n).map Node.parent).getD none := by
  simp only [parent?]
  cases d.node? n <;> rfl

theorem node?_add (data : NodeData) (position : Position) :
    (d.add data position).2.node? n =
      if n = d.size then some { data, position } else d.node? n := by
  simp only [node?, add, size, Array.getElem?_push]
  rfl

@[simp] theorem size_add (data : NodeData) (position : Position) :
    (d.add data position).2.size = d.size + 1 := by
  simp only [size, add, Array.size_push]

theorem children_add (data : NodeData) (position : Position) :
    (d.add data position).2.children n = d.children n := by
  rw [children_eq_map, children_eq_map, node?_add]
  split
  · next new => rw [new, d.node?_eq_none (Nat.le_refl _)]; rfl
  · rfl

theorem parent?_add (data : NodeData) (position : Position) :
    (d.add data position).2.parent? n = d.parent? n := by
  rw [parent?_eq_map, parent?_eq_map, node?_add]
  split
  · next new => rw [new, d.node?_eq_none (Nat.le_refl _)]; rfl
  · rfl

theorem data?_add (data : NodeData) (position : Position) :
    (d.add data position).2.data? n = if n = d.size then some data else d.data? n := by
  simp only [data?, node?_add]
  split <;> rfl

theorem node?_add_of_lt (data : NodeData) (position : Position) {n : NodeId} (old : n < d.size) :
    (d.add data position).2.node? n = d.node? n := by
  rw [node?_add, if_neg (Nat.ne_of_lt old)]

/-! ## Data -/

section Data
variable {d d' : Document} {n : NodeId}

theorem tag?_congr (same : d'.data? n = d.data? n) : d'.tag? n = d.tag? n := by
  simp only [tag?, same]

theorem text?_congr (same : d'.data? n = d.data? n) : d'.text? n = d.text? n := by
  simp only [text?, same]

theorem attributes?_congr (same : d'.data? n = d.data? n) : d'.attributes? n = d.attributes? n := by
  simp only [attributes?, same]

theorem attribute?_congr (same : d'.data? n = d.data? n) (name : String) :
    d'.attribute? n name = d.attribute? n name := by
  simp only [attribute?, attributes?, same]

theorem data?_congr (same : d'.node? n = d.node? n) : d'.data? n = d.data? n := by
  simp only [data?, same]

theorem children_congr (same : d'.node? n = d.node? n) : d'.children n = d.children n := by
  simp only [children, same]

theorem tag?_eq_some {tag : String} :
    d.tag? n = some tag ↔ ∃ attributes, d.data? n = some (.element tag attributes) := by
  simp only [tag?]
  constructor
  · intro found
    split at found
    · next attributes data => exact ⟨attributes, by rw [data, Option.some.inj found]⟩
    · cases found
  · rintro ⟨attributes, data⟩
    simp only [data]

theorem tag?_eq_none (outside : d.size ≤ n) : d.tag? n = none := by
  rw [tag?, data?, d.node?_eq_none outside]
  rfl

theorem lt_size_of_tag? {tag : String} (element : d.tag? n = some tag) : n < d.size := by
  refine Nat.lt_of_not_le fun outside => ?_
  rw [tag?_eq_none outside] at element
  cases element

theorem text?_eq_some {text : String} : d.text? n = some text ↔ d.data? n = some (.text text) := by
  rw [text?]
  constructor
  · intro found
    split at found
    · next data => rw [data, Option.some.inj found]
    · cases found
  · intro data
    rw [data]

theorem data?_eq_of_tag?_of_attributes? {tag : String} (found : d.tag? n = some tag)
    (tags : d'.tag? n = d.tag? n) (attributes : d'.attributes? n = d.attributes? n) :
    d'.data? n = d.data? n := by
  obtain ⟨values, data⟩ := tag?_eq_some.1 found
  obtain ⟨values', data'⟩ := tag?_eq_some.1 (tags.trans found)
  simp only [attributes?, data, data', Option.some.injEq] at attributes
  rw [data, data', attributes]

theorem attributes?_isSome : (d.attributes? n).isSome = (d.tag? n).isSome := by
  simp only [attributes?, tag?]
  cases d.data? n with
  | none => rfl
  | some data => cases data <;> rfl

end Data

/-! ## Attributes -/

/-- Leaves the attributes of other names as they are. -/
def KeepsOthers (name : String) (f : Attributes → Attributes) : Prop :=
  ∀ (attributes : Attributes) (other : String), other ≠ name →
    (f attributes).find? other = attributes.find? other

section Attributes
variable (f : Attributes → Attributes)

theorem mapAttributes_id : d.mapAttributes id (fun attributes => attributes) = d := by
  refine Eq.trans ?_ (congrArg mk (modify_id d.nodes id))
  rw [mapAttributes, update]
  congr 2
  funext node
  obtain ⟨_, _, data, _⟩ := node
  cases data <;> rfl

theorem mapAttributes_mapAttributes (g : Attributes → Attributes) :
    (d.mapAttributes id f).mapAttributes id g = d.mapAttributes id (g ∘ f) := by
  simp only [mapAttributes, update, modify_modify]
  congr 2
  funext node
  obtain ⟨_, _, data, _⟩ := node
  cases data <;> rfl

@[simp] theorem size_mapAttributes : (d.mapAttributes id f).size = d.size := d.size_update id _

theorem node?_mapAttributes_of_ne {id n : NodeId} (different : n ≠ id) :
    (d.mapAttributes id f).node? n = d.node? n :=
  d.node?_update_of_ne _ different

@[simp] theorem children_mapAttributes : (d.mapAttributes id f).children n = d.children n := by
  rw [children_eq_map, children_eq_map, mapAttributes, map_node?_update]
  intro node
  split <;> rfl

@[simp] theorem parent?_mapAttributes : (d.mapAttributes id f).parent? n = d.parent? n := by
  rw [parent?_eq_map, parent?_eq_map, mapAttributes, map_node?_update]
  intro node
  split <;> rfl

@[simp] theorem tag?_mapAttributes : (d.mapAttributes id f).tag? n = d.tag? n := by
  simp only [tag?, data?, mapAttributes, node?_update]
  by_cases same : id = n
  · subst same
    simp only [if_true]
    cases d.node? id with
    | none => rfl
    | some node =>
        obtain ⟨_, _, data, _⟩ := node
        cases data <;> rfl
  · simp only [same, if_false]

@[simp] theorem text?_mapAttributes : (d.mapAttributes id f).text? n = d.text? n := by
  simp only [text?, data?, mapAttributes, node?_update]
  by_cases same : id = n
  · subst same
    simp only [if_true]
    cases d.node? id with
    | none => rfl
    | some node =>
        obtain ⟨_, _, data, _⟩ := node
        cases data <;> rfl
  · simp only [same, if_false]

theorem attributes?_mapAttributes :
    (d.mapAttributes id f).attributes? n =
      if id = n then (d.attributes? n).map f else d.attributes? n := by
  simp only [attributes?, data?, mapAttributes, node?_update]
  by_cases same : id = n
  · subst same
    simp only [if_true]
    cases d.node? id with
    | none => rfl
    | some node =>
        obtain ⟨_, _, data, _⟩ := node
        cases data <;> rfl
  · simp only [same, if_false]

theorem attribute?_mapAttributes {name : String}
    (same : ∀ attributes, (f attributes).find? name = attributes.find? name) :
    (d.mapAttributes id f).attribute? n name = d.attribute? n name := by
  simp only [attribute?, attributes?_mapAttributes]
  split
  · cases d.attributes? n with
    | none => rfl
    | some attributes => exact same attributes
  · rfl

end Attributes

@[simp] theorem size_setAttribute (name value : String) :
    (d.setAttribute id name value).size = d.size :=
  d.size_mapAttributes id _

@[simp] theorem size_removeAttribute (name : String) : (d.removeAttribute id name).size = d.size :=
  d.size_mapAttributes id _

theorem attribute?_setAttribute_self {tag : String} (name value : String)
    (element : d.tag? n = some tag) :
    (d.setAttribute n name value).attribute? n name = some value := by
  have present : (d.attributes? n).isSome := by rw [attributes?_isSome, element]; rfl
  obtain ⟨attributes, found⟩ := Option.isSome_iff_exists.1 present
  simp only [attribute?, setAttribute, attributes?_mapAttributes, if_true, found, Option.map_some,
    Option.bind_some, OrderedMap.find?_insert_self]

end Document

namespace OrderedMap
variable {κ υ : Type} [BEq κ]

theorem find?_erase_of_ne [LawfulBEq κ] (m : OrderedMap κ υ) {key other : κ}
    (different : key ≠ other) : (m.erase key).find? other = m.find? other := by
  obtain ⟨entries⟩ := m
  simp only [erase, find?]
  induction entries with
  | nil => rfl
  | cons entry rest ih =>
      by_cases erased : entry.1 = key
      · have kept : (entry.1 == other) = false := by
          rw [erased]
          exact beq_eq_false_iff_ne.2 different
        simpa [erased, List.find?_cons, kept, different] using ih
      · by_cases hit : entry.1 == other
        · simp [erased, hit]
        · simpa [erased, List.find?_cons, hit] using ih

end OrderedMap

namespace Document
variable (d : Document) (id n : NodeId)

/-! ## Relations -/

theorem node?_setText_of_ne (contents : String) {id n : NodeId} (different : n ≠ id) :
    (d.setText id contents).node? n = d.node? n :=
  d.node?_update_of_ne _ different

@[simp] theorem size_setText (contents : String) : (d.setText id contents).size = d.size :=
  d.size_update id _

theorem children_setText (contents : String) :
    (d.setText id contents).children n = d.children n := by
  rw [children_eq_map, children_eq_map, setText, map_node?_update]
  intro node
  split <;> rfl

theorem tag?_setText (contents : String) : (d.setText id contents).tag? n = d.tag? n := by
  simp only [tag?, data?, setText, node?_update]
  by_cases same : id = n
  · subst same
    simp only [if_true]
    cases d.node? id with
    | none => rfl
    | some node =>
        obtain ⟨_, _, data, _⟩ := node
        cases data <;> rfl
  · simp only [same, if_false]

@[simp] theorem size_place (parent child : NodeId) : (d.place parent child).size = d.size := by
  simp only [place, size_update]

theorem data?_place (parent child : NodeId) : (d.place parent child).data? n = d.data? n := by
  simp only [place, data?]
  rw [map_node?_update, map_node?_update] <;> intro node <;> rfl

theorem children_update (f : Node → Node) (same : ∀ node, (f node).children = node.children) :
    (d.update id f).children n = d.children n := by
  rw [children_eq_map, children_eq_map, map_node?_update d id n Node.children f same]

theorem children_place (parent child : NodeId) :
    (d.place parent child).children n =
      if parent = n ∧ n < d.size then d.children n ++ [child] else d.children n := by
  have first : (d.update child fun node => { node with parent := some parent }).children n =
      d.children n := d.children_update child n _ fun _ => rfl
  have bound : (d.update child fun node => { node with parent := some parent }).size = d.size :=
    d.size_update child _
  rw [place]
  generalize (d.update child fun node => { node with parent := some parent }) = moved at first bound
  rw [← first, ← bound]
  simp only [children, node?_update]
  by_cases same : parent = n
  · subst same
    by_cases inside : parent < moved.size
    · obtain ⟨node, found⟩ : ∃ node, moved.node? parent = some node :=
        ⟨_, Array.getElem?_eq_getElem inside⟩
      simp only [if_true, inside, and_self, found, Option.map_some]
    · simp only [if_true, inside, and_false, if_false,
        moved.node?_eq_none (Nat.le_of_not_lt inside), Option.map_none]
  · simp only [same, false_and, if_false]

end Document
end ComponentMarkup
