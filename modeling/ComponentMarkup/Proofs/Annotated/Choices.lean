import ComponentMarkup.Proofs.Annotated.Radio
import ComponentMarkup.Proofs.Annotated.Shapes

/-!
A radio button that is bound through its value: the event assigns the value as a literal, and the
binding for `checked` compares with that literal. No other attribute of the button gets in between.
-/

namespace ComponentMarkup

namespace Bearer
variable {e : Bearer} {name static : String} {choice : TwoWay}

/-- There is one way to bind `checked` of a radio button, and it is exclusive. -/
theorem IsButton.eq_radioChecked (button : e.IsButton)
    (chosen : e.twoWay? name = some ("checked", choice)) : choice = .radioChecked := by
  obtain ⟨hyphenated, -, same⟩ := Option.map_eq_some_iff.1 chosen
  obtain ⟨isChecked, rfl⟩ := Prod.mk.inj same
  rw [isChecked, button.tag, button.type]
  rfl

/-- Where `checked` is taken, a two-way attribute of a radio button stores nothing for it. -/
theorem IsButton.stores?_ne_checked (button : e.IsButton) (free : e.takesChecked name = false)
    (value : String) (binding : Binding.Attribute) :
    e.stores? name value ≠ some ("checked", binding) := by
  intro stores
  rw [stores?] at stores
  split at stores
  · next property event chosen =>
    obtain ⟨rfl, -⟩ := Prod.mk.inj (Option.some.inj stores)
    cases button.eq_radioChecked chosen
  · rw [free, if_neg Bool.false_ne_true] at stores
    cases stores
  · rw [free, if_neg Bool.false_ne_true] at stores
    cases stores
  · next property chosen =>
    obtain ⟨rfl, -⟩ := Prod.mk.inj (Option.some.inj stores)
    cases button.eq_radioChecked chosen
  · cases stores

namespace InstallsChoice
variable (installs : e.InstallsChoice name static)
include installs

theorem isButton : e.IsButton := by
  obtain ⟨⟨property, chosen⟩, -, -⟩ := installs
  obtain ⟨hyphenated, -, same⟩ := Option.map_eq_some_iff.1 chosen
  have choice := (Prod.mk.inj same).2
  unfold TwoWay.choose at choice
  constructor <;> grind

theorem exists_twoWay : ∃ hyphenated, Text.after? "bind-" name = some hyphenated := by
  obtain ⟨⟨property, chosen⟩, -, -⟩ := installs
  obtain ⟨hyphenated, twoWay, -⟩ := Option.map_eq_some_iff.1 chosen
  exact ⟨hyphenated, twoWay⟩

end InstallsChoice

end Bearer

namespace Pass
variable {s t : Pass} {id : AnnotatedId} {node : NodeId} {e : Bearer} {begun : String → Bool}
  {name value static event target literal : String} {done rest later : List (String × String)}
  {chosen : String × String}

namespace HasRead
variable (distinct : OrderedMap.Distinct e.attributes.entries)
  (steering : ∀ name, begun name = true → directiveNames.contains name = true)
  (installs : e.InstallsChoice chosen.1 static)
include distinct steering installs

/-- A choice that has been installed stays: two-way attributes are rejected from then on, and the
attribute `checked` has been taken off. -/
theorem checked_bindAttribute (read : HasRead e node id begun done s) (member : chosen ∈ done)
    (entries : e.attributes.entries = done ++ (name, value) :: rest) :
    (bindAttribute id node s name value).stored? id "checked" = s.stored? id "checked" := by
  cases twoWay : Text.after? "bind-" name with
  | some hyphenated =>
      have asked : done.any (fun entry => e.asksChecked entry.1 entry.2) = true :=
        List.any_eq_true.2 ⟨chosen, member, installs.asksChecked chosen.2⟩
      have free : e.takesChecked name = false := by
        rw [Bearer.takesChecked_eq entries distinct, asked, Bool.not_true, Bool.and_false]
      rw [read.bindAttribute_eq entries distinct steering twoWay,
        (read.outcome entries distinct twoWay).overlays read.holds "checked"]
      cases stores : e.stores? name value with
      | none => rfl
      | some stored =>
          obtain ⟨key, binding⟩ := stored
          have other : key ≠ "checked" := by
            rintro rfl
            exact installs.isButton.stores?_ne_checked free value binding stores
          rw [Option.toList_some, lastWritten_singleton, if_neg other]
          rfl
  | none =>
      rw [bindAttribute_overlays read.holds read.component twoWay]
      by_cases isChecked : name = "checked"
      · subst isChecked
        have present : ("checked", value) ∈ e.attributes.entries := by
          rw [entries]
          exact List.mem_append_right _ List.mem_cons_self
        have stripped : s.isStripped id "checked" = true := by
          rw [read.stripped, Bool.or_eq_true, List.any_eq_true]
          refine .inr ⟨chosen, member, ?_⟩
          have shadows : (some "checked").any (Text.lowered · == "checked") = true := by decide
          rw [Bearer.takes, installs.native?.1, shadows, OrderedMap.contains,
            OrderedMap.find?_of_mem distinct present, Bool.or_eq_true]
          exact .inr rfl
        rw [stripped, if_pos rfl]
        rfl
      · split
        · rfl
        · rw [lastWritten_map_toList, if_neg isChecked]
          rfl

theorem checked_foldl (read : HasRead e node id begun done s) (member : chosen ∈ done)
    (entries : e.attributes.entries = done ++ rest) :
    (s.readTo id node rest).stored? id "checked" = s.stored? id "checked" := by
  induction rest generalizing done s with
  | nil => rfl
  | cons entry rest ih =>
      obtain ⟨name, value⟩ := entry
      have next := ih (read.step entries distinct steering) (List.mem_append_left _ member)
        (by rw [entries, List.append_assoc]; rfl)
      rw [← read.checked_bindAttribute distinct steering installs member entries]
      exact next

end HasRead

/-- When all attributes have been read, whatever assigns a literal is the one that `checked` is bound
through, and the literal is the text of `value`. -/
theorem BeginsAt.checked_of_assigns (begins : s.BeginsAt id node e)
    (distinct : OrderedMap.Distinct e.attributes.entries) {fired : String}
    (assigns : { event, action := .assignLiteral target literal } ∈
      (s.bindAttributes id node).handlersOf id fired) :
    (s.bindAttributes id node).stored? id "checked" =
        some (.direct (.ofText (radioCondition target literal)) .plain) ∧
      event = changeEvent ∧ e.attributes.find? "value" = some literal ∧
      Text.trimmed target = target := by
  rw [(begins.all distinct).handled, List.mem_filter, List.mem_flatMap] at assigns
  obtain ⟨⟨⟨name, value⟩, listed, assigns⟩, -⟩ := assigns
  obtain ⟨isChange, rfl, installs⟩ := Bearer.installsChoice_of_assigns assigns
  obtain ⟨before, after, entries⟩ := List.append_of_mem listed
  obtain ⟨hyphenated, twoWay⟩ := installs.exists_twoWay
  refine ⟨?_, isChange, installs.2.2, Text.trimmed_trimmed value⟩
  have turn := begins.readTo distinct entries
  have unshadowed : e.shadows name = false := Bearer.shadows_of_twoWay twoWay
  have bound : (bindAttribute id node (s.readTo id node before) name value).stored? id "checked" = _ :=
    turn.stored?_bindAttribute distinct begins.steering entries (.inr unshadowed)
  rw [Bearer.writes_of_twoWay twoWay, installs.stores?] at bound
  have read := turn.step entries distinct begins.steering
  have member : (name, value) ∈ before ++ [(name, value)] :=
    List.mem_append_right _ List.mem_cons_self
  rw [begins.bindAttributes_eq entries, read.checked_foldl distinct begins.steering installs member
    (by rw [entries, List.append_assoc]; rfl), bound]
  rfl

end Pass

/-! ## Annotations -/

namespace AnnotatedNode
variable {a : AnnotatedNode} {tag : String} {attributes : Attributes}

/-- The binding that is stored for an attribute or property. -/
def stored? (a : AnnotatedNode) (key : String) : Option Binding.Attribute :=
  a.bindings?.bind (·.attributes.find? key)

theorem IsBound.checked_of_assigns (bound : a.IsBound tag attributes)
    (distinct : OrderedMap.Distinct attributes.entries) {event target literal fired : String}
    (assigns : { event, action := .assignLiteral target literal } ∈ a.handlersOf fired) :
    a.stored? "checked" = some (.direct (.ofText (Pass.radioCondition target literal)) .plain) ∧
      event = changeEvent ∧ attributes.find? "value" = some literal ∧
      Text.trimmed target = target := by
  rw [handlersOf] at assigns
  cases bound with
  | bare bound =>
      rw [bound] at assigns
      cases assigns
  | read _ begins bound =>
      rw [bound] at assigns
      rw [stored?, bound]
      exact begins.checked_of_assigns distinct assigns

end AnnotatedNode

/-- After a pass whatever assigns a literal is bound to `checked` by comparing with that literal, which
is the `value` that its element was given. -/
theorem checked_annotateFile {s : Pass} (keepBlanks : Bool) (fresh : s.annotations = {})
    (wellFormed : s.document.WellFormed) (distinct : s.document.NamesAttributesOnce)
    {id : AnnotatedId} {a : AnnotatedNode}
    (found : (annotateFile keepBlanks s).annotations.get? id = some a)
    {event target literal fired : String}
    (assigns : { event, action := .assignLiteral target literal } ∈ a.handlersOf fired) :
    (∃ tag attributes,
      (annotateFile keepBlanks s).file.Gives s.document a.source tag attributes ∧
        attributes.find? "value" = some literal) ∧
    a.stored? "checked" = some (.direct (.ofText (Pass.radioCondition target literal)) .plain) ∧
    event = changeEvent ∧ Text.trimmed target = target := by
  cases text : a.isText with
  | true =>
      cases a using AnnotatedNode.byKind with
      | text => cases assigns
      | _ => cases text
  | false =>
      obtain ⟨tag, attributes, given, bound⟩ :=
        isBound_annotateFile keepBlanks fresh wellFormed found text
      obtain ⟨stored, isChange, static, trimmed⟩ :=
        bound.checked_of_assigns (given.distinct distinct) assigns
      exact ⟨⟨tag, attributes, given.gives, static⟩, stored, isChange, trimmed⟩

end ComponentMarkup
