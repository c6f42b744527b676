import ComponentMarkup.Proofs.Annotated.Vacant
import ComponentMarkup.Proofs.Document.Carried

/-!
Nodes that stand in two documents with the same data, under different numbers: what is planned for
them and how they are written is the same.
-/

namespace ComponentMarkup

/-- The forest with other numbers. -/
def Forest.map (ρ : NodeId → NodeId) : Forest → Forest
  | .nil => .nil
  | .cons node below rest => .cons (ρ node) (below.map ρ) (rest.map ρ)

@[simp] theorem Forest.tops_map (ρ : NodeId → NodeId) (f : Forest) :
    (f.map ρ).tops = f.tops.map ρ := by
  induction f with
  | nil => rfl
  | cons node below rest _ ih => rw [map, tops, tops, List.map_cons, ih]

@[simp] theorem Forest.preorder_map (ρ : NodeId → NodeId) (f : Forest) :
    (f.map ρ).preorder = f.preorder.map ρ := by
  induction f with
  | nil => rfl
  | cons node below rest ihBelow ihRest =>
      rw [map, preorder, preorder, List.map_cons, List.map_append, ihBelow, ihRest]

@[simp] theorem Forest.map_id (f : Forest) : f.map id = f := by
  induction f with
  | nil => rfl
  | cons node below rest ihBelow ihRest => rw [map, ihBelow, ihRest, id]

namespace Document

/-- The node `n'` of `d'` is a copy of the node `n` of `d`, wherever it stands. -/
structure Copied (d d' : Document) (n n' : NodeId) : Prop where
  data : d'.data? n' = d.data? n
  position : d'.position n' = d.position n

variable {d d' e e' : Document} {n n' node node' : NodeId}

section Data
variable (same : d'.data? n' = d.data? n)
include same

theorem tag?_of_data? : d'.tag? n' = d.tag? n := by
  simp only [tag?, same]

theorem isElement_of_data? (tag : String) : d'.isElement n' tag = d.isElement n tag := by
  rw [isElement, isElement, tag?_of_data? same]

theorem text?_of_data? : d'.text? n' = d.text? n := by
  simp only [text?, same]

theorem attributes?_of_data? : d'.attributes? n' = d.attributes? n := by
  simp only [attributes?, same]

theorem attribute?_of_data? (name : String) : d'.attribute? n' name = d.attribute? n name := by
  rw [attribute?, attribute?, attributes?_of_data? same]

theorem hasAttribute_of_data? (name : String) : d'.hasAttribute n' name = d.hasAttribute n name := by
  rw [hasAttribute, hasAttribute, attribute?_of_data? same]

theorem startTag_of_data? : d'.startTag n' = d.startTag n := by
  rw [startTag, startTag, startTagWith, startTagWith, same]

theorem holdsRawText_of_data? : d'.holdsRawText n' = d.holdsRawText n := by
  rw [holdsRawText, holdsRawText, isElement_of_data? same, isElement_of_data? same]

end Data

/-- What is read off the node above, if there is one, goes by its data. -/
theorem any_of_data? {holder holder' : Option NodeId} {p p' : NodeId → Bool}
    (held : holder'.bind d'.data? = holder.bind d.data?)
    (same : ∀ q q', d'.data? q' = d.data? q → p' q' = p q)
    (nothing : ∀ q, d.data? q = none → p q = false)
    (nothing' : ∀ q, d'.data? q = none → p' q = false) : holder'.any p' = holder.any p := by
  cases holder with
  | none =>
      cases holder' with
      | none => rfl
      | some q' => exact nothing' q' held
  | some q =>
      cases holder' with
      | none => exact (nothing q held.symm).symm
      | some q' => exact same q q' held

theorem isElement_of_none (none : d.data? n = none) (tag : String) : d.isElement n tag = false := by
  rw [isElement, tag?, none]
  rfl

/-! ## Carried forests -/

theorem Carries.copied {holder : Option NodeId} {f : Forest} (carries : d.Carries e holder f) :
    ∀ n ∈ f.preorder, Copied d e n n := by
  induction f generalizing holder with
  | nil => exact fun n impossible => absurd impossible List.not_mem_nil
  | cons node below rest ihBelow ihRest =>
      obtain ⟨⟨old, before, after⟩, inside, later⟩ := carries
      intro n member
      simp only [Forest.preorder, List.mem_cons, List.mem_append] at member
      rcases member with rfl | member | member
      · exact ⟨by rw [data?_eq before, data?_eq after], by rw [position, position, before, after]⟩
      · exact ihBelow inside n member
      · exact ihRest later n member

section Carried
variable {ρ : NodeId → NodeId} {holder holder' : Option NodeId} {f f' below rest rest' : Forest}
  (carries : d.Carries e holder f) (carries' : d'.Carries e' holder' f')
include carries carries'

/-- What is carried over from copies are copies. -/
theorem Copied.carried (copied : Copied d d' n n') (member : n ∈ f.preorder)
    (member' : n' ∈ f'.preorder) : Copied e e' n n' := by
  have left := carries.copied n member
  have right := carries'.copied n' member'
  exact ⟨right.data.trans (copied.data.trans left.data.symm),
    right.position.trans (copied.position.trans left.position.symm)⟩

end Carried

section Carried
variable {ρ : NodeId → NodeId} {holder holder' : Option NodeId} {f : Forest}
  {keep keep' : NodeId → String → Bool}

/-- Copies of a forest that are carried below copies stand below copies everywhere. -/
theorem Carries.held (carries : d.Carries e holder f) (carries' : d'.Carries e' holder' (f.map ρ))
    (copied : ∀ n ∈ f.preorder, Copied e e' n (ρ n))
    (held : holder'.bind e'.data? = holder.bind e.data?) :
    ∀ n ∈ f.preorder, (e'.parent? (ρ n)).bind e'.data? = (e.parent? n).bind e.data? := by
  induction f generalizing holder holder' with
  | nil => exact fun n impossible => absurd impossible List.not_mem_nil
  | cons node below rest ihBelow ihRest =>
      obtain ⟨⟨old, -, after⟩, inside, later⟩ := carries
      obtain ⟨⟨old', -, after'⟩, inside', later'⟩ := carries'
      simp only [Forest.preorder, List.mem_cons, List.mem_append] at copied ⊢
      rintro n (rfl | member | member)
      · rw [parent?_eq after, parent?_eq after']
        exact held
      · exact ihBelow inside inside' (fun n member => copied n (.inr (.inl member)))
          (copied node (.inl rfl)).data n member
      · exact ihRest later later' (fun n member => copied n (.inr (.inr member))) held n member

/-! ## Markup -/

theorem inRawText_eq (d : Document) (n : NodeId) : d.inRawText n = (d.parent? n).any d.holdsRawText := by
  rw [inRawText]
  cases d.parent? n <;> rfl

theorem inRawText_of_held (held : (d'.parent? n').bind d'.data? = (d.parent? n).bind d.data?) :
    d'.inRawText n' = d.inRawText n := by
  rw [inRawText_eq, inRawText_eq]
  refine any_of_data? held (fun q q' same => holdsRawText_of_data? same) ?_ ?_
  all_goals
    intro q none
    rw [holdsRawText, isElement_of_none none, isElement_of_none none]
    rfl

/-- Copies of a forest, each below copies of the same, are written alike. -/
theorem writeForest_map (kept : ∀ n ∈ f.preorder, keep' (ρ n) = keep n)
    (copied : ∀ n ∈ f.preorder, Copied d d' n (ρ n))
    (above : ∀ n ∈ f.preorder, (d'.parent? (ρ n)).bind d'.data? = (d.parent? n).bind d.data?) :
    d'.writeForest keep' (f.map ρ) = d.writeForest keep f := by
  induction f with
  | nil => rfl
  | cons node below rest ihBelow ihRest =>
      simp only [Forest.preorder, List.mem_cons, List.mem_append] at kept copied above
      have data := (copied node (.inl rfl)).data
      have raw := inRawText_of_held (above node (.inl rfl))
      have start : d'.startTagWith keep' (ρ node) = d.startTagWith keep node := by
        rw [startTagWith, startTagWith, data, kept node (.inl rfl)]
      rw [Forest.map, writeForest, writeForest, data, raw, start,
        ihBelow (fun n member => kept n (.inr (.inl member)))
          (fun n member => copied n (.inr (.inl member))) fun n member => above n (.inr (.inl member)),
        ihRest (fun n member => kept n (.inr (.inr member)))
          (fun n member => copied n (.inr (.inr member))) fun n member => above n (.inr (.inr member))]

end Carried
end Document

/-! ## Plans -/

namespace Plan
variable {d d' : Document} {n n' : NodeId} {ρ : NodeId → NodeId}

theorem underDeclaration_eq (d : Document) (n : NodeId) :
    underDeclaration d n = (d.parent? n).any (d.isElement · "element") := by
  rw [underDeclaration]
  cases d.parent? n <;> rfl

theorem underDeclaration_of_held (held : (d'.parent? n').bind d'.data? = (d.parent? n).bind d.data?) :
    underDeclaration d' n' = underDeclaration d n := by
  rw [underDeclaration_eq, underDeclaration_eq]
  exact Document.any_of_data? held (fun _ _ same => Document.isElement_of_data? same _)
    (fun _ none => Document.isElement_of_none none _) fun _ none => Document.isElement_of_none none _

/-- The example for a template that may not have its directive shows the template as it stands. -/
theorem wrappedExample_map {below rest rest' : Forest} (fits : d.Fits (.cons n below rest))
    (fits' : d'.Fits (.cons (ρ n) (below.map ρ) rest'))
    (copied : ∀ m ∈ (Forest.cons n below .nil).preorder, Document.Copied d d' m (ρ m))
    (held : ∀ m ∈ (Forest.cons n below .nil).preorder,
      (d'.parent? (ρ m)).bind d'.data? = (d.parent? m).bind d.data?)
    (under : underDeclaration d n = true) : wrappedExample d' (ρ n) = wrappedExample d n := by
  have markup : d'.markup (ρ n) = d.markup n := by
    rw [Document.markup, Document.markup, Document.markupWith, Document.markupWith,
      Document.forest_eq_of_fits fits.first rfl, Document.forest_eq_of_fits fits'.first rfl]
    exact Document.writeForest_map (f := .cons n below .nil) (fun _ _ => rfl) copied held
  have here := held n List.mem_cons_self
  rw [underDeclaration_eq, Option.any_eq_true] at under
  obtain ⟨above, parent, isElement⟩ := under
  rw [wrappedExample, wrappedExample, markup]
  rw [parent, Option.bind_some] at here
  cases parent' : d'.parent? (ρ n) with
  | none =>
      rw [parent', Option.bind_none] at here
      rw [Document.isElement_of_none here.symm] at isElement
      cases isElement
  | some above' =>
      rw [parent', Option.bind_some] at here
      simp only [parent, Document.startTag_of_data? here]

/-- Whether there is anything to be shown in an element goes by what kinds of children it has. -/
theorem isEmptyBody_map (children : d'.children n' = (d.children n).map ρ)
    (tags : ∀ child ∈ d.children n, d'.tag? (ρ child) = none ↔ d.tag? child = none)
    (texts : ∀ child ∈ d.children n, d'.text? (ρ child) = d.text? child) :
    isEmptyBody d' n' = isEmptyBody d n := by
  rw [Bool.eq_iff_iff, isEmptyBody_iff, isEmptyBody_iff, children]
  simp only [List.forall_mem_map]
  refine and_congr (forall₂_congr tags) (forall₂_congr fun child member => ?_)
  rw [texts child member]

section Read
variable (data : d'.data? n' = d.data? n) (empty : isEmptyBody d' n' = isEmptyBody d n)
  (under : underDeclaration d' n' = underDeclaration d n)
include data empty under

omit data in
theorem ofDirectives_congr {isTemplate : Bool} {condition iterate : Option String}
    (wrapped : (ofDirectives d n isTemplate condition iterate).2 = .dropped →
      underDeclaration d n = true → wrappedExample d' n' = wrappedExample d n) :
    ofDirectives d' n' isTemplate condition iterate =
      ofDirectives d n isTemplate condition iterate := by
  unfold ofDirectives at wrapped ⊢
  rw [under, empty]
  by_cases below : underDeclaration d n = true
  · simp only [below, if_true, forall_const] at wrapped ⊢
    cases condition with
    | none =>
        cases iterate with
        | none => rfl
        | some text => rw [wrapped rfl]
    | some condition =>
        cases iterate with
        | none => rw [wrapped rfl]
        | some text => rfl
  · simp only [below, Bool.false_eq_true, if_false]

/-- The plan for a node goes by its data, by whether there is anything in it, and by whether a
declaration is above it. -/
theorem read_congr {tag : String} (wrapped : (read d n tag).2 = .dropped →
      underDeclaration d n = true → wrappedExample d' n' = wrappedExample d n) :
    read d' n' tag = read d n tag := by
  have held (name : String) := Document.attribute?_of_data? data name
  have candidate : isCandidate d' n' tag = isCandidate d n tag := by
    have has : d'.hasAttribute n' = d.hasAttribute n := funext (Document.hasAttribute_of_data? data)
    rw [isCandidate, isCandidate, has]
  have condition : conditionOf d' n' = conditionOf d n := by
    simp only [conditionOf, held]
  unfold read at wrapped ⊢
  rw [candidate, condition, held, Document.hasAttribute_of_data? data]
  split
  · rfl
  · next directed =>
    rw [if_neg directed] at wrapped
    dsimp only at wrapped ⊢
    split
    · rfl
    · next some =>
      rw [if_neg some] at wrapped
      rw [ofDirectives_congr empty under wrapped]

end Read
end Plan
end ComponentMarkup
