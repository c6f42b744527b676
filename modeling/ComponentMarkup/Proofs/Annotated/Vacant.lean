import ComponentMarkup.Annotated.Plan
import ComponentMarkup.Proofs.Document.Changes

/-!
Why an element with a directive is dropped: its directives are wrong, which is reported, or there is
nothing in it to be shown.
-/

namespace ComponentMarkup

/-- The problems on account of which an element is dropped. -/
def Problem.drops : Problem → Bool
  | .bothDirectives | .directiveOnTemplateRoot _ | .malformedIterate _ => true
  | _ => false

theorem Problem.severity_of_drops {problem : Problem} (drops : problem.drops = true) :
    problem.severity = .error := by
  cases problem <;> first | rfl | cases drops

/-- A conditional template or an iterated element that has neither an element nor text that shows. -/
structure Document.Vacant (d : Document) (node : NodeId) (tag : String) : Prop where
  directed : tag = "template" ∧ (Plan.conditionOf d node).1.isSome = true ∨
    d.hasAttribute node "iterate" = true
  elements : ∀ child ∈ d.children node, d.tag? child = none
  texts : ∀ child ∈ d.children node, ∀ text, d.text? child = some text → Text.blankOnly text = true

/-- Why an element of the file at `path` is left out, with all that is below it. -/
inductive Document.LeftOut (d : Document) (path : Path) (reports : Diagnostics) (node : NodeId)
    (tag : String) : Prop
  | script (isScript : tag = "script")
  | reported {problem : Problem} (drops : problem.drops = true) (isError : problem.severity = .error)
      (reported : ⟨problem, path, d.position node⟩ ∈ reports)
  | vacant (vacant : d.Vacant node tag)

namespace Plan
variable {d e : Document} {node : NodeId} {tag : String}

theorem isEmptyBody_iff : isEmptyBody d node = true ↔
    (∀ child ∈ d.children node, d.tag? child = none) ∧
      ∀ child ∈ d.children node, ∀ text, d.text? child = some text → Text.blankOnly text = true := by
  rw [isEmptyBody, List.all_eq_true]
  refine ⟨fun all => ⟨fun child member => ?_, fun child member text isText => ?_⟩,
    fun both child member => ?_⟩
  · have shown := all child member
    rw [Document.tag?]
    cases held : d.data? child with
    | none => rfl
    | some data =>
        rw [held] at shown
        cases data with
        | element => cases shown
        | _ => rfl
  · have shown := all child member
    rw [Document.text?] at isText
    cases held : d.data? child with
    | none =>
        rw [held] at isText
        cases isText
    | some data =>
        rw [held] at shown isText
        cases data with
        | text contents =>
            obtain rfl := Option.some.inj isText
            exact shown
        | _ => cases isText
  · obtain ⟨elements, texts⟩ := both
    have element := elements child member
    have text := texts child member
    rw [Document.tag?] at element
    rw [Document.text?] at text
    cases held : d.data? child with
    | none => rfl
    | some data =>
        rw [held] at element text
        cases data with
        | element => cases element
        | text contents => exact text contents rfl
        | _ => rfl

theorem ofDirectives_dropped {isTemplate : Bool} {condition iterate : Option String}
    (dropped : (ofDirectives d node isTemplate condition iterate).2 = .dropped) :
    (∃ problem ∈ (ofDirectives d node isTemplate condition iterate).1, problem.drops = true) ∨
      (isTemplate = true ∧ condition.isSome = true ∨ iterate.isSome = true) ∧
        isEmptyBody d node = true := by
  unfold ofDirectives at dropped ⊢
  split at dropped
  · exact .inl ⟨_, List.mem_cons_self, rfl⟩
  · cases dropped
  · split at dropped
    · next under =>
      rw [if_pos under]
      exact .inl ⟨_, List.mem_cons_self, rfl⟩
    · split at dropped
      · next empty =>
        rw [Bool.and_eq_true] at empty
        exact .inr ⟨.inl ⟨empty.1, rfl⟩, empty.2⟩
      · cases dropped
  · split at dropped
    · next under =>
      rw [if_pos under]
      exact .inl ⟨_, List.mem_cons_self, rfl⟩
    · next free =>
      rw [if_neg free]
      split at dropped
      · exact .inl ⟨_, List.mem_cons_self, rfl⟩
      · split at dropped
        · next empty => exact .inr ⟨.inr rfl, empty⟩
        · cases dropped

/-- An element is dropped on account of a problem with it, or because it is vacant. -/
theorem read_dropped (dropped : (read d node tag).2 = .dropped) :
    (∃ problem ∈ (read d node tag).1, problem.drops = true) ∨ d.Vacant node tag := by
  unfold read at dropped ⊢
  split at dropped
  · cases dropped
  · next candidate =>
    rw [if_neg candidate]
    dsimp only at dropped ⊢
    split at dropped
    · cases dropped
    · next directed =>
      rw [if_neg directed]
      rcases ofDirectives_dropped dropped with ⟨problem, member, drops⟩ | ⟨directed, empty⟩
      · exact .inl ⟨problem, List.mem_append_right _ member, drops⟩
      · obtain ⟨elements, texts⟩ := isEmptyBody_iff.1 empty
        refine .inr ⟨?_, elements, texts⟩
        exact directed.imp (fun template => ⟨of_decide_eq_true template.1, template.2⟩) fun iterate => iterate

/-- Whether an element is vacant is seen at itself and at its children. -/
theorem vacant_congr (vacant : e.Vacant node tag) (data : d.data? node = e.data? node)
    (children : d.children node = e.children node)
    (below : ∀ child ∈ e.children node, d.data? child = e.data? child) : d.Vacant node tag := by
  have held (name : String) : d.attribute? node name = e.attribute? node name :=
    Document.attribute?_congr data name
  refine ⟨?_, fun child member => ?_, fun child member text => ?_⟩
  · have same : conditionOf d node = conditionOf e node := by
      simp only [conditionOf, held]
    rw [same, Document.hasAttribute, held]
    exact vacant.directed
  · rw [children] at member
    rw [Document.tag?_congr (below child member)]
    exact vacant.elements child member
  · rw [children] at member
    rw [Document.text?_congr (below child member)]
    exact vacant.texts child member text

end Plan
end ComponentMarkup
