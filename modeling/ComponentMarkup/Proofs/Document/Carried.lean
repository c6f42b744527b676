import ComponentMarkup.Proofs.Document.Rework

/-!
Nodes that a change of the document leaves as they were, and what a split leaves of the nodes it
touches, all fields at once.
-/

namespace ComponentMarkup

namespace Document
variable {d d' e e' : Document} {f below rest : Forest} {node n : NodeId} {holder holder' : Option NodeId}

/-! ## Single nodes -/

theorem node?_eq {data : NodeData} (found : d.data? n = some data) :
    d.node? n =
      some { parent := d.parent? n, children := d.children n, data, position := d.position n } := by
  obtain ⟨old, present, rfl⟩ := Option.map_eq_some_iff.1 found
  rw [parent?, children, position, present]
  rfl

theorem position_eq_map (d : Document) (n : NodeId) :
    d.position n = ((d.node? n).map Node.position).getD {} := by
  rw [position]
  cases d.node? n <;> rfl

theorem position_update (d : Document) (id n : NodeId) {f : Node → Node}
    (same : ∀ node, (f node).position = node.position) : (d.update id f).position n = d.position n := by
  rw [position_eq_map, position_eq_map, map_node?_update d id n Node.position f same]

theorem position_mapAttributes (d : Document) (id n : NodeId) (f : Attributes → Attributes) :
    (d.mapAttributes id f).position n = d.position n := by
  refine d.position_update id n fun node => ?_
  split <;> rfl

theorem position_place (d : Document) (parent child n : NodeId) :
    (d.place parent child).position n = d.position n := by
  rw [place, position_update, position_update] <;> exact fun _ => rfl

theorem position_placeAll (d : Document) (target : NodeId) (ids : List NodeId) (n : NodeId) :
    (ids.foldl (·.place target ·) d).position n = d.position n := by
  induction ids generalizing d with
  | nil => rfl
  | cons child ids ih => rw [List.foldl_cons, ih, position_place]

theorem position_add (d : Document) (data : NodeData) (position : Position) (n : NodeId) :
    (d.add data position).2.position n = if n = d.size then position else d.position n := by
  rw [Document.position, node?_add]
  by_cases isNew : n = d.size
  · rw [if_pos isNew, if_pos isNew]
  · rw [if_neg isNew, if_neg isNew]
    rfl

theorem node?_mapAttributes_self {old : Node} {tag : String} {attributes : Attributes}
    (found : d.node? n = some old) (element : old.data = .element tag attributes)
    (f : Attributes → Attributes) : (d.mapAttributes n f).node? n =
      some { old with data := .element tag (f attributes) } := by
  rw [mapAttributes, node?_update, if_pos rfl, found, Option.map_some]
  simp only [element]

theorem data?_eq_element {tag : String} {attributes : Attributes} (isElement : d.tag? n = some tag)
    (held : d.attributes? n = some attributes) : d.data? n = some (.element tag attributes) := by
  obtain ⟨attributes', data⟩ := tag?_eq_some.1 isElement
  rw [attributes?, data] at held
  rw [data, Option.some.inj held]

theorem data?_eq {old : Node} (found : d.node? n = some old) : d.data? n = some old.data := by
  rw [data?, found, Option.map_some]

theorem tag?_eq {old : Node} {tag : String} {attributes : Attributes} (found : d.node? n = some old)
    (element : old.data = .element tag attributes) : d.tag? n = some tag := by
  rw [tag?, data?_eq found, element]

theorem parent?_eq {old : Node} (found : d.node? n = some old) : d.parent? n = old.parent := by
  rw [parent?, found, Option.bind_some]

theorem children_eq {old : Node} (found : d.node? n = some old) : d.children n = old.children := by
  rw [children, found]

/-! ## Carrying over -/

/-- The nodes of `f` stand in `e` as they do in `d`, but for those on top, which are below `over`. -/
def Carries (d e : Document) : Option NodeId → Forest → Prop
  | _, .nil => True
  | holder, .cons node below rest =>
      (∃ old, d.node? node = some old ∧ e.node? node = some { old with parent := holder }) ∧
        d.Carries e (some node) below ∧ d.Carries e holder rest

theorem Carries.congr (carries : d.Carries e holder f)
    (same : ∀ n ∈ f.preorder, e'.node? n = e.node? n) : d.Carries e' holder f := by
  induction f generalizing holder with
  | nil => trivial
  | cons node below rest ihBelow ihRest =>
      obtain ⟨⟨old, before, after⟩, inside, later⟩ := carries
      simp only [Forest.preorder, List.mem_cons, List.mem_append] at same
      exact ⟨⟨old, before, (same node (.inl rfl)).trans after⟩,
        ihBelow inside fun n member => same n (.inr (.inl member)),
        ihRest later fun n member => same n (.inr (.inr member))⟩

/-- The nodes on top can be moved below another node. -/
theorem Carries.move (carries : d.Carries e holder f) (distinct : f.preorder.Nodup)
    (moved : ∀ n ∈ f.tops, e'.node? n = (e.node? n).map fun node => { node with parent := holder' })
    (same : ∀ n ∈ f.preorder, n ∉ f.tops → e'.node? n = e.node? n) : d.Carries e' holder' f := by
  induction f with
  | nil => trivial
  | cons node below rest _ ih =>
      obtain ⟨⟨old, before, after⟩, inside, later⟩ := carries
      obtain ⟨fresh, distinct⟩ := List.nodup_cons.1 distinct
      obtain ⟨-, distinctRest, apart⟩ := List.nodup_append.1 distinct
      rw [List.mem_append, not_or] at fresh
      simp only [Forest.tops, Forest.preorder, List.mem_cons, List.mem_append, not_or] at moved same
      refine ⟨⟨old, before, ?_⟩, inside.congr fun n member => ?_, ih later distinctRest ?_ ?_⟩
      · rw [moved node (.inl rfl), after]
        rfl
      · refine same n (.inr (.inl member)) ⟨?_, fun top => ?_⟩
        · rintro rfl
          exact fresh.1 member
        · exact apart n member n (Forest.mem_preorder_of_mem_tops top) rfl
      · exact fun n top => moved n (.inr top)
      · refine fun n member notTop => same n (.inr (.inr member)) ⟨?_, notTop⟩
        rintro rfl
        exact fresh.2 member

theorem Carries.first (carries : d.Carries e holder (.cons node below rest)) :
    d.Carries e holder (.cons node below .nil) :=
  ⟨carries.1, carries.2.1, trivial⟩

theorem Carries.lt_size (carries : d.Carries e holder f) : ∀ n ∈ f.preorder, n < d.size := by
  induction f generalizing holder with
  | nil => exact fun n impossible => absurd impossible List.not_mem_nil
  | cons node below rest ihBelow ihRest =>
      obtain ⟨⟨old, before, -⟩, inside, later⟩ := carries
      intro n member
      simp only [Forest.preorder, List.mem_cons, List.mem_append] at member
      rcases member with rfl | member | member
      · exact d.lt_size_of_node? before
      · exact ihBelow inside n member
      · exact ihRest later n member

theorem Carries.data? (carries : d.Carries e holder f) :
    ∀ n ∈ f.preorder, e.data? n = d.data? n := by
  induction f generalizing holder with
  | nil => exact fun n impossible => nomatch impossible
  | cons node below rest ihBelow ihRest =>
      obtain ⟨⟨old, before, after⟩, inside, later⟩ := carries
      intro n member
      simp only [Forest.preorder, List.mem_cons, List.mem_append] at member
      rcases member with rfl | member | member
      · rw [data?_eq before, data?_eq after]
      · exact ihBelow inside n member
      · exact ihRest later n member

theorem WellFormed.carries (wellFormed : d.WellFormed) (fits : d.Fits f)
    (tops : ∀ n ∈ f.tops, d.parent? n = holder) : d.Carries d holder f := by
  induction f generalizing holder with
  | nil => trivial
  | cons node below rest ihBelow ihRest =>
      have inside := fits.inside node List.mem_cons_self
      obtain ⟨old, found⟩ : ∃ old, d.node? node = some old := ⟨_, Array.getElem?_eq_getElem inside⟩
      refine ⟨⟨old, found, ?_⟩, ihBelow fits.under fun n top => ?_, ihRest fits.later fun n top => ?_⟩
      · have above := tops node List.mem_cons_self
        rw [parent?, found, Option.bind_some] at above
        rw [found, ← above]
      · rw [fits.follows.1] at top
        exact (wellFormed.linked node n).1 top
      · exact tops n (List.mem_cons_of_mem _ top)

end Document

/-! ## Splits -/

namespace Pass
open Document
variable {d : Document} {node n : NodeId} {tag : String} {attributes : Attributes} {old : Node}

/-- The new element has all attributes that are no directives, in their order. -/
theorem withoutDirectives_eq (attributes : Attributes) : withoutDirectives attributes =
    ⟨attributes.entries.filter fun entry => !directiveNames.contains entry.1⟩ := by
  have fold (names : List String) (attributes : Attributes) :
      names.foldl (fun left name => left.erase name) attributes =
        ⟨attributes.entries.filter fun entry => !names.contains entry.1⟩ := by
    induction names generalizing attributes with
    | nil => exact congrArg OrderedMap.mk (List.filter_true _).symm
    | cons name names ih =>
        rw [List.foldl_cons, ih]
        refine congrArg OrderedMap.mk ((List.filter_filter ..).trans ?_)
        refine List.filter_congr fun entry _ => ?_
        rw [List.contains_cons, Bool.not_or, Bool.and_comm]
  exact fold directiveNames attributes

theorem find?_withoutDirectives_of_mem (attributes : Attributes) {name : String}
    (directive : name ∈ directiveNames) : (withoutDirectives attributes).find? name = none := by
  have absent : ∀ entry ∈ attributes.entries.filter fun entry => !directiveNames.contains entry.1,
      ¬(entry.1 == name) = true := by
    intro entry member same
    have plain := (List.mem_filter.1 member).2
    rw [eq_of_beq same, List.contains_iff_mem.2 directive] at plain
    cases plain
  rw [withoutDirectives_eq, OrderedMap.find?, List.find?_eq_none.2 absent, Option.map_none]

theorem position_splitContent (found : d.node? node = some old)
    (bounded : ∀ child ∈ d.children node, child < d.size)
    (element : d.tag? node = some tag) (n : NodeId) : (splitContent d node).2.position n =
      if n = d.size then old.position else d.position n := by
  obtain ⟨old', found', same⟩ := splitContent_eq_place element bounded
  obtain rfl := Option.some.inj (found.symm.trans found')
  rw [same, position_place, movedContent, position_mapAttributes, moveChildren, position_placeAll,
    position_update, position_mapAttributes, position_add]
  exact fun _ => rfl

section Nodes
variable (found : d.node? node = some old) (element : old.data = .element tag attributes)
  (bounded : ∀ child ∈ d.children node, child < d.size)
include found element bounded

/-- The new element stands below the host, with its other attributes and its children. -/
theorem node?_splitContent_new : (splitContent d node).2.node? d.size =
    some { old with parent := some node, data := .element tag (withoutDirectives attributes) } := by
  have isElement := tag?_eq found element
  have notNew : d.size ≠ node := Nat.ne_of_gt (d.lt_size_of_node? found)
  have made := tag?_splitContent isElement d.size
  rw [if_pos rfl] at made
  have held : d.attributes? node = some attributes := by rw [attributes?, data?_eq found, element]
  have moved := attributes?_splitContent_new isElement
  rw [held, Option.map_some] at moved
  rw [node?_eq (data?_eq_element made moved), parent?_splitContent isElement bounded,
    children_splitContent isElement bounded, position_splitContent found bounded isElement,
    if_pos rfl, if_neg notNew, if_pos rfl, if_pos rfl, children_eq found]

variable (apart : node ∉ d.children node)
include apart

/-- The host keeps its place, its directives and the new element as its only child. -/
theorem node?_splitContent_old : (splitContent d node).2.node? node =
    some { old with children := [d.size], data := .element tag (directivesOf d node) } := by
  have isElement := tag?_eq found element
  have notNew : node ≠ d.size := Nat.ne_of_lt (d.lt_size_of_node? found)
  have stays := tag?_splitContent isElement node
  rw [if_neg notNew, isElement] at stays
  have above := parent?_eq found
  have position : d.position node = old.position := by rw [Document.position, found]
  rw [node?_eq (data?_eq_element stays (attributes?_splitContent_old isElement)),
    parent?_splitContent isElement bounded, children_splitContent isElement bounded,
    position_splitContent found bounded isElement, if_neg notNew, if_neg notNew, if_pos rfl,
    if_neg apart, if_neg notNew, above, position]

/-- The children of the host are below the new element, and otherwise as they were. -/
theorem node?_splitContent_child (isChild : n ∈ d.children node) :
    (splitContent d node).2.node? n =
      (d.node? n).map fun node => { node with parent := some d.size } := by
  have isElement := tag?_eq found element
  have inside := bounded n isChild
  have notNew : n ≠ d.size := Nat.ne_of_lt inside
  have other : n ≠ node := fun same => apart (same ▸ isChild)
  obtain ⟨child, present⟩ : ∃ child, d.node? n = some child := ⟨_, Array.getElem?_eq_getElem inside⟩
  have data := (data?_splitContent_of_ne isElement other notNew).trans (data?_eq present)
  have position : d.position n = child.position := by rw [Document.position, present]
  rw [node?_eq data, parent?_splitContent isElement bounded, children_splitContent isElement bounded,
    position_splitContent found bounded isElement, if_neg notNew, if_pos isChild, if_neg other,
    if_neg notNew, if_neg notNew, children_eq present, position, present]
  rfl

end Nodes

/-- What stands below the host is carried over below the new element. -/
theorem carries_splitContent {d₀ : Document} {below rest : Forest}
    (carries : d₀.Carries d (some node) below) (fits : d.Fits (.cons node below rest))
    (found : d.node? node = some old) (element : old.data = .element tag attributes) :
    d₀.Carries (splitContent d node).2 (some d.size) below := by
  have isElement := tag?_eq found element
  have tops := fits.follows.1
  have apart : node ∉ d.children node := fun member =>
    fits.not_mem_below (Forest.mem_preorder_of_mem_tops (tops ▸ member))
  refine carries.move fits.under.distinct (fun n top => ?_) fun n member notTop => ?_
  · exact node?_splitContent_child found element fits.children_lt apart (tops ▸ top)
  · refine node?_splitContent_of_ne isElement fits.children_lt ?_ ?_ (tops ▸ notTop)
    · exact fun same => fits.not_mem_below (same ▸ member)
    · exact Nat.ne_of_lt (fits.under.inside n member)

end Pass
end ComponentMarkup
