import ComponentMarkup.Annotated.Attributes
import ComponentMarkup.Proofs.Document.Relocated

/-!
The two spellings of a condition: an element that asks for it itself, and the element without its
directives in a template that has the condition.
-/

namespace ComponentMarkup

/-- The forest with other numbers, and with `inner` between the node `n` and what is below it. -/
def Forest.wrap (ρ : NodeId → NodeId) (n inner : NodeId) : Forest → Forest
  | .nil => .nil
  | .cons node below rest =>
      .cons (ρ node)
        (if node = n then .cons inner (below.wrap ρ n inner) .nil else below.wrap ρ n inner)
        (rest.wrap ρ n inner)

namespace Document

/-- `d'` is `d` with the element `n` spelled as a template around `inner`, and with the number `ρ m`
for a node `m`. -/
structure Wraps (ρ : NodeId → NodeId) (n inner : NodeId) (tag : String) (attributes : Attributes)
    (condition : String) (d d' : Document) : Prop where
  injective : Function.Injective ρ
  fresh : ∀ m, ρ m ≠ inner
  nested : n ≠ root
  root : ρ root = root
  others : ∀ m < d.size, m ≠ n → Copied d d' m (ρ m) ∧ d'.children (ρ m) = (d.children m).map ρ
  parents : ∀ m < d.size, d'.parent? (ρ m) = (d.parent? m).map fun q => if q = n then inner else ρ q
  element : d.data? n = some (.element tag attributes)
  plain : tag ∉ ["template", "script", "body", "element"]
  optsIn : attributes.contains "template" = true
  conditional : attributes.find? "if" = some condition
  single : attributes.find? "iterate" = none ∧ attributes.find? "instantiate" = none
  apart : ∀ above, d.parent? n = some above → d.tag? above ≠ some "element"
  host : ∃ directives, d'.data? (ρ n) = some (.element "template" directives) ∧
    directives.find? "if" = some condition ∧
    directives.find? "indentation" = attributes.find? "indentation" ∧
    directives.find? "iterate" = none ∧ directives.find? "instantiate" = none
  content : d'.data? inner = some (.element tag
    ⟨attributes.entries.filter fun entry => !directiveNames.contains entry.1⟩)
  positions : d'.position (ρ n) = d.position n ∧ d'.position inner = d.position n
  inside : d'.children (ρ n) = [inner] ∧ d'.children inner = (d.children n).map ρ

end Document

namespace Forest
variable {ρ : NodeId → NodeId} {n inner : NodeId} {f : Forest}

@[simp] theorem tops_wrap (ρ : NodeId → NodeId) (n inner : NodeId) (f : Forest) :
    (f.wrap ρ n inner).tops = f.tops.map ρ := by
  induction f with
  | nil => rfl
  | cons node below rest _ ih => rw [wrap, tops, tops, List.map_cons, ih]

/-- What is looked for is found where it was, if it is not the new node. -/
theorem find?_wrap {p p' : NodeId → Bool} (same : ∀ m ∈ f.preorder, p' (ρ m) = p m)
    (other : p' inner = false) :
    (f.wrap ρ n inner).preorder.find? p' = (f.preorder.find? p).map ρ := by
  induction f with
  | nil => rfl
  | cons node below rest ihBelow ihRest =>
      simp only [preorder, List.mem_cons, List.mem_append] at same
      have under := ihBelow fun m member => same m (.inr (.inl member))
      have later := ihRest fun m member => same m (.inr (.inr member))
      have inside : (if node = n then cons inner (below.wrap ρ n inner) nil
          else below.wrap ρ n inner).preorder.find? p' = (below.preorder.find? p).map ρ := by
        split
        · rw [preorder, List.find?_cons, other, List.find?_append, under, preorder, List.find?_nil,
            Option.or_none]
        · exact under
      rw [wrap, preorder, preorder, List.find?_cons, List.find?_cons, same node (.inl rfl)]
      cases p node with
      | true => rfl
      | false => rw [List.find?_append, List.find?_append, inside, later, Option.map_or]

theorem wrap_of_not_mem (outside : n ∉ f.preorder) : f.wrap ρ n inner = f.map ρ := by
  induction f with
  | nil => rfl
  | cons node below rest ihBelow ihRest =>
      simp only [preorder, List.mem_cons, List.mem_append, not_or] at outside
      rw [wrap, map, if_neg (Ne.symm outside.1), ihBelow outside.2.1, ihRest outside.2.2]

end Forest

namespace Document.Wraps
variable {ρ : NodeId → NodeId} {n inner : NodeId} {tag condition : String} {attributes : Attributes}
  {d d' : Document} {f : Forest} {m : NodeId}
  (wraps : d.Wraps ρ n inner tag attributes condition d')
include wraps

theorem ne_template : tag ≠ "template" := fun same => wraps.plain (same ▸ List.mem_cons_self)

theorem ne_script : tag ≠ "script" := fun same =>
  wraps.plain (same ▸ List.mem_cons_of_mem _ List.mem_cons_self)

theorem lt_size : n < d.size := by
  obtain ⟨old, found, -⟩ := Option.map_eq_some_iff.1 wraps.element
  exact d.lt_size_of_node? found

theorem tag?_element : d.tag? n = some tag := tag?_eq_some.2 ⟨_, wraps.element⟩

theorem tag?_host : d'.tag? (ρ n) = some "template" := by
  obtain ⟨directives, host, -⟩ := wraps.host
  exact tag?_eq_some.2 ⟨_, host⟩

theorem within (inside : m < d.size) : ρ m < d'.size := by
  by_cases here : m = n
  · rw [here]
    exact lt_size_of_tag? wraps.tag?_host
  · have copied := (wraps.others m inside here).1
    obtain ⟨old, found⟩ : ∃ old, d.node? m = some old := ⟨_, Array.getElem?_eq_getElem inside⟩
    have data := copied.data.trans (data?_eq found)
    obtain ⟨new, found', -⟩ := Option.map_eq_some_iff.1 data
    exact d'.lt_size_of_node? found'

theorem text? (inside : m < d.size) : d'.text? (ρ m) = d.text? m := by
  by_cases here : m = n
  · obtain ⟨directives, host, -⟩ := wraps.host
    rw [here, Document.text?, host, Document.text?, wraps.element]
  · exact text?_of_data? (wraps.others m inside here).1.data

theorem tag?_eq_none (inside : m < d.size) : d'.tag? (ρ m) = none ↔ d.tag? m = none := by
  by_cases here : m = n
  · rw [here, wraps.tag?_host, wraps.tag?_element]
    exact ⟨fun impossible => (Option.some_ne_none _ impossible).elim,
      fun impossible => (Option.some_ne_none _ impossible).elim⟩
  · rw [tag?_of_data? (wraps.others m inside here).1.data]

section Other
variable (other : m ≠ n) (children_lt : ∀ child ∈ d.children m, child < d.size)
include other children_lt

theorem innerText (inside : m < d.size) : d'.innerText (ρ m) = d.innerText m := by
  rw [Document.innerText, Document.innerText, (wraps.others m inside other).2, List.filterMap_map]
  refine congrArg String.join (List.filterMap_congr fun child member => ?_)
  exact wraps.text? (children_lt child member)

/-- The element is no child of a declaration, so that it is none of its templates. -/
theorem childElements (linked : ∀ child ∈ d.children m, d.parent? child = some m)
    (element : d.tag? m = some "element") :
    d'.childElements (ρ m) "template" = (d.childElements m "template").map ρ := by
  rw [Document.childElements, Document.childElements,
    (wraps.others m (lt_size_of_tag? element) other).2, List.filter_map]
  refine congrArg (List.map ρ) (List.filter_congr fun child member => ?_)
  have apart : child ≠ n := fun same => wraps.apart m (same ▸ linked child member) element
  exact isElement_of_data? (wraps.others child (children_lt child member) apart).1.data _

end Other

theorem follows (follows : f.Follows d.children) (inside : ∀ m ∈ f.preorder, m < d.size) :
    (f.wrap ρ n inner).Follows d'.children := by
  induction f with
  | nil => trivial
  | cons node below rest ihBelow ihRest =>
      obtain ⟨tops, followsBelow, followsRest⟩ := follows
      simp only [Forest.preorder, List.mem_cons, List.mem_append] at inside
      have later := ihRest followsRest fun m member => inside m (.inr (.inr member))
      have under := ihBelow followsBelow fun m member => inside m (.inr (.inl member))
      rw [Forest.wrap]
      by_cases here : node = n
      · rw [if_pos here]
        refine ⟨?_, ⟨?_, under, trivial⟩, later⟩
        · rw [here, wraps.inside.1]
          rfl
        · rw [Forest.tops_wrap, tops, wraps.inside.2, here]
      · rw [if_neg here]
        refine ⟨?_, under, later⟩
        rw [Forest.tops_wrap, tops, (wraps.others node (inside node (.inl rfl)) here).2]

variable (wellFormed : d.WellFormed) (wellFormed' : d'.WellFormed)
include wellFormed wellFormed'

theorem forest (inside : m < d.size) : d'.forest (ρ m) = (d.forest m).wrap ρ n inner := by
  obtain ⟨tops, follows, -, bounded⟩ := wellFormed.forest_spec inside
  obtain ⟨tops', follows', -, -⟩ := wellFormed'.forest_spec (wraps.within inside)
  refine Forest.eq_of_follows follows' (wraps.follows follows bounded) ?_
  rw [tops', Forest.tops_wrap, tops, List.map_singleton]

theorem below_root : d'.below Document.root = (d.below Document.root).wrap ρ n inner := by
  have rooted : Document.root < d.size := Nat.lt_of_le_of_lt (Nat.zero_le n) wraps.lt_size
  have rooted' := wraps.root ▸ wraps.within rooted
  have forest := wraps.forest wellFormed wellFormed' rooted
  rw [wraps.root, wellFormed.forest_eq_cons rooted, wellFormed'.forest_eq_cons rooted', Forest.wrap,
    if_neg wraps.nested.symm] at forest
  exact (Forest.cons.inj forest).2.1

/-! ## The body -/

theorem findElement?_body : d'.findElement? "body" = (d.findElement? "body").map ρ := by
  have rooted : Document.root < d.size := Nat.lt_of_le_of_lt (Nat.zero_le n) wraps.lt_size
  have inside := (wellFormed.forest_spec rooted).2.2.2
  have forest := wraps.forest wellFormed wellFormed' rooted
  rw [wraps.root] at forest
  rw [findElement?, findElement?, forest]
  refine Forest.find?_wrap (fun m member => ?_) ?_
  · by_cases here : m = n
    · have other : tag ≠ "body" := fun same => wraps.plain (by simp [same])
      rw [here, isElement, isElement, wraps.tag?_host, wraps.tag?_element]
      simpa using other
    · exact isElement_of_data? (wraps.others m (inside m member) here).1.data _
  · have other : tag ≠ "body" := fun same => wraps.plain (by simp [same])
    rw [isElement, tag?_eq_some.2 ⟨_, wraps.content⟩]
    simpa using other

theorem bodyForest : d'.bodyForest = d.bodyForest.wrap ρ n inner := by
  have found' := wraps.findElement?_body wellFormed wellFormed'
  unfold Document.bodyForest
  cases found : d.findElement? "body" with
  | none =>
      rw [found'.trans (congrArg _ found)]
      rfl
  | some body =>
      have isBody : d.isElement body "body" = true := by simpa using List.find?_some found
      rw [found'.trans (congrArg _ found)]
      exact wraps.forest wellFormed wellFormed' (lt_size_of_isElement isBody)

/-- The bodies hang from copies of the same node, if the element is in them. -/
theorem held_bodyHolder (member : n ∈ d.bodyForest.preorder) :
    d'.bodyHolder.bind d'.data? = d.bodyHolder.bind d.data? := by
  have outside := wellFormed.of_bodyHolder
  have found' := wraps.findElement?_body wellFormed wellFormed'
  unfold bodyHolder at outside ⊢
  rw [found']
  cases found : d.findElement? "body" with
  | none => rfl
  | some body =>
      rw [found] at outside
      have isBody : d.isElement body "body" = true := by simpa using List.find?_some found
      have parents := wraps.parents body (lt_size_of_isElement isBody)
      rw [Option.map_some, Option.bind_some, Option.bind_some, parents]
      cases above : d.parent? body with
      | none => rfl
      | some q =>
          obtain ⟨inside, notBelow⟩ := outside q above
          have other : q ≠ n := fun same => notBelow (same ▸ member)
          rw [Option.map_some, if_neg other]
          exact (wraps.others q inside other).1.data

end Document.Wraps

/-! ## Plans -/

namespace Plan
variable {d : Document} {n : NodeId} {tag condition : String}

/-- A condition alone is what is planned, except on the template of a declaration. -/
theorem read_of_condition (conditional : d.attribute? n "if" = some condition)
    (instantiate : d.attribute? n "instantiate" = none) (iterate : d.attribute? n "iterate" = none)
    (template : tag = "template" ∨ d.hasAttribute n "template" = true)
    (shown : tag = "template" → isEmptyBody d n = false) : read d n tag =
      if underDeclaration d n then ([.directiveOnTemplateRoot (wrappedExample d n)], .dropped)
      else ([], .conditional condition) := by
  have candidate : isCandidate d n tag = true := by
    have has : d.hasAttribute n "if" = true := by rw [Document.hasAttribute, conditional]; rfl
    simp [isCandidate, has]
  have required : (decide (tag = "template") || d.hasAttribute n "template") = true := by
    simpa using template
  have kept : (decide (tag = "template") && isEmptyBody d n) = false := by
    rw [Bool.and_eq_false_imp, decide_eq_true_eq]
    exact shown
  unfold read
  rw [candidate, conditionOf, conditional, instantiate, iterate]
  dsimp only [ofDirectives]
  rw [required, kept]
  cases underDeclaration d n <;> rfl

theorem read_of_plain (notTemplate : tag ≠ "template")
    (none : ∀ name ∈ directiveNames, d.hasAttribute n name = false) : read d n tag = ([], .plain) := by
  have candidate : isCandidate d n tag = false := by
    simp [isCandidate, notTemplate, none "template" (by decide), none "if" (by decide),
      none "iterate" (by decide), none "instantiate" (by decide)]
  rw [read, candidate]
  rfl

end Plan
end ComponentMarkup
