import ComponentMarkup.Proofs.Annotated.Stored

/-!
A two-way attribute is accepted as a whole or it changes nothing: each reason to reject it is found
before the first change is made, and then all that is left of it is one error.
-/

namespace ComponentMarkup

namespace TwoWay
variable {tag type property name event : String} {isComponent : Bool} {problem : Problem}

/-- The name under which a two-way attribute is stored. Both ways to bind a radio button end at
`checked`. -/
def key (property : String) : TwoWay → String
  | .radioValue => "checked"
  | _ => property

/-- Whether an event of the element writes back. -/
def isNative : TwoWay → Bool
  | .native _ | .radioChecked | .radioValue => true
  | _ => false

theorem event_of_native (native : choose tag type property name isComponent = .native event) :
    event = changeEvent ∨ event = inputEvent := by
  unfold choose at native
  grind

theorem severity_of_rejected
    (rejected : choose tag type property name isComponent = .rejected problem) :
    problem.severity = .error := by
  unfold choose at rejected
  grind [Problem.severity]

end TwoWay

theorem Bearer.severity_of_objection? {e : Bearer} {name : String} {problem : Problem}
    (objected : e.objection? name = some problem) : problem.severity = .error := by
  unfold objection? at objected
  split at objected
  · obtain ⟨-, same⟩ := Option.ite_none_left_eq_some.1 objected
    rw [← Option.some.inj same]
    rfl
  · obtain ⟨-, same⟩ := Option.ite_none_left_eq_some.1 objected
    split at same
    · rw [← Option.some.inj same]
      rfl
    · rw [← Option.some.inj same]
      rfl
  · next chosen =>
    obtain ⟨hyphenated, -, same⟩ := Option.map_eq_some_iff.1 chosen
    obtain ⟨-, choice⟩ := Prod.mk.inj same
    rw [← Option.some.inj objected]
    exact TwoWay.severity_of_rejected choice
  · cases objected

namespace Pass
variable {s t : Pass} {id : AnnotatedId} {node : NodeId} {e : Bearer} {begun : String → Bool}
  {name value hyphenated : String} {done rest before after : List (String × String)}

def hasDataBinding (s : Pass) (id : AnnotatedId) : Bool :=
  (s.annotations.get? id).any AnnotatedNode.hasDataBinding

theorem hasDataBinding_update {f : AnnotatedNode → AnnotatedNode}
    (same : ∀ a, (f a).hasDataBinding = a.hasDataBinding) :
    (s.update id f).hasDataBinding id = s.hasDataBinding id := by
  rw [hasDataBinding, hasDataBinding, annotations_update, AnnotatedTree.get?_update, if_pos rfl]
  cases s.annotations.get? id with
  | none => rfl
  | some a => exact same a

@[simp] theorem hasDataBinding_strip (name : String) :
    (s.strip id name).hasDataBinding id = s.hasDataBinding id :=
  hasDataBinding_update fun _ => rfl

@[simp] theorem hasDataBinding_handle (event : String) (action : Binding.Action) :
    (s.handle id event action).hasDataBinding id = s.hasDataBinding id := by
  apply hasDataBinding_update
  intro a
  cases a using AnnotatedNode.byKind <;> rfl

theorem hasDataBinding_bind (holds : s.Holds id) (name : String) (binding : Binding.Attribute) :
    (s.bind id name binding).hasDataBinding id = true := by
  obtain ⟨a, found, -⟩ := holds
  rw [hasDataBinding, Pass.bind, annotations_update, AnnotatedTree.get?_update_self _ _ found,
    Option.any_some]
  cases a using AnnotatedNode.byKind <;> rfl

theorem hasDataBinding_install (holds : s.Holds id) (property expr event : String)
    (action : Binding.Action) :
    (s.install id node property expr event action).hasDataBinding id = true := by
  have shadowed : Edits id node s (s.shadow id node property) := Edits.refl.shadow property
  rw [install, hasDataBinding_handle]
  exact hasDataBinding_bind (holds.edits shadowed) _ _

@[simp] theorem reports_strip (name : String) : (s.strip id name).reports = s.reports := rfl

@[simp] theorem reports_bind (name : String) (binding : Binding.Attribute) :
    (s.bind id name binding).reports = s.reports := rfl

@[simp] theorem reports_handle (event : String) (action : Binding.Action) :
    (s.handle id event action).reports = s.reports := rfl

theorem reports_install (property expr event : String) (action : Binding.Action) :
    ∃ notes, (s.install id node property expr event action).reports = s.reports ++ notes ∧
      notes.ofSeverity .error = [] := by
  rw [install, reports_handle, reports_bind]
  unfold shadow
  dsimp only
  split
  · exact ⟨_, rfl, rfl⟩
  · exact ⟨[], (List.append_nil _).symm, rfl⟩

/-- From `s` to `t` the two-way attribute `name` was accepted: its binding was stored under `key` and
its handlers were added, and no error was reported. -/
structure Accepts (id : AnnotatedId) (name key : String) (binding : Binding.Attribute)
    (runs : List Binding.Handler) (s t : Pass) : Prop where
  stored : ∀ other, t.stored? id other = if key = other then some binding else s.stored? id other
  flagged : t.hasDataBinding id = true
  stripped : t.isStripped id name = true
  handled : ∀ event, t.handlersOf id event = s.handlersOf id event ++ runs.filter (·.event == event)
  document : t.document = s.document
  reported : ∃ notes, t.reports = s.reports ++ notes ∧ notes.ofSeverity .error = []

namespace Outcome
variable (outcome : Outcome e node id name value s t)
include outcome

theorem flagged (holds : s.Holds id) (installed : e.installs name = true) :
    t.hasDataBinding id = true := by
  cases outcome with
  | property installs => rw [hasDataBinding_strip, hasDataBinding_install holds]
  | choice installs => rw [hasDataBinding_strip, hasDataBinding_install holds]
  | input chosen => rw [hasDataBinding_strip, hasDataBinding_bind holds]
  | refused objected taken =>
      rw [(Bearer.of_objection? value objected).2.1] at installed
      cases installed

theorem reported (installed : e.installs name = true) :
    ∃ notes, t.reports = s.reports ++ notes ∧ notes.ofSeverity .error = [] := by
  cases outcome with
  | property installs =>
      rw [reports_strip]
      apply reports_install
  | choice installs =>
      rw [reports_strip]
      apply reports_install
  | input chosen =>
      rw [reports_strip, reports_bind]
      exact ⟨[], (List.append_nil _).symm, rfl⟩
  | refused objected taken =>
      rw [(Bearer.of_objection? value objected).2.1] at installed
      cases installed

/-- What is installed has a binding, and a handler for `change` or `input` where it is native. -/
theorem exists_stores {property : String} {choice : TwoWay}
    (chosen : e.twoWay? name = some (property, choice)) (installed : e.installs name = true) :
    (∃ binding, e.stores? name value = some (choice.key property, binding)) ∧
      if choice.isNative then ∃ event action, e.runs name value = [{ event, action }] ∧
        (event = changeEvent ∨ event = inputEvent)
      else e.runs name value = [] := by
  have same {property' : String} {choice' : TwoWay}
      (chosen' : e.twoWay? name = some (property', choice')) :
      property = property' ∧ choice = choice' :=
    Prod.mk.inj (Option.some.inj (chosen.symm.trans chosen'))
  cases outcome with
  | property installs =>
      have stores := installs.stores? value
      have runs := installs.runs value
      rcases installs with chosen' | ⟨chosen', isChange, -⟩
      · obtain ⟨rfl, rfl⟩ := same chosen'
        obtain ⟨hyphenated, -, isChoice⟩ := Option.map_eq_some_iff.1 chosen'
        exact ⟨⟨_, stores⟩, _, _, runs, TwoWay.event_of_native (Prod.mk.inj isChoice).2⟩
      · obtain ⟨rfl, rfl⟩ := same chosen'
        exact ⟨⟨_, stores⟩, _, _, runs, .inl isChange⟩
  | choice installs =>
      obtain ⟨property', chosen'⟩ := installs.1
      obtain ⟨rfl, rfl⟩ := same chosen'
      exact ⟨⟨_, installs.stores? value⟩, _, _, installs.runs value, .inl rfl⟩
  | input chosen' =>
      obtain ⟨rfl, rfl⟩ := same chosen'
      obtain ⟨native, -, -⟩ := Bearer.of_component value chosen
      refine ⟨⟨_, by rw [Bearer.stores?, chosen]; rfl⟩, ?_⟩
      exact Bearer.runs_eq_nil (Bearer.silent_of_twoWay? chosen) native
  | refused objected taken =>
      rw [(Bearer.of_objection? value objected).2.1] at installed
      cases installed

theorem exists_objection (out : e.installs name = false) :
    ∃ problem, e.objection? name = some problem ∧ t = s.report problem node := by
  cases outcome with
  | property installs =>
      rw [installs.native?.2] at out
      cases out
  | choice installs =>
      rw [installs.native?.2] at out
      cases out
  | input chosen =>
      rw [(Bearer.of_component value chosen).2.1] at out
      cases out
  | refused objected taken => exact ⟨_, objected, rfl⟩

end Outcome

theorem HasRead.accepts (read : HasRead e node id begun done s)
    (entries : e.attributes.entries = done ++ (name, value) :: rest)
    (distinct : OrderedMap.Distinct e.attributes.entries)
    (twoWay : Text.after? "bind-" name = some hyphenated) (installed : e.installs name = true)
    {key : String} {binding : Binding.Attribute}
    (stores : e.stores? name value = some (key, binding)) :
    Accepts id name key binding (e.runs name value) s
      (s.bindTwoWay id node name (canonicalProperty hyphenated) value) := by
  have outcome := read.outcome entries distinct twoWay
  have takes := read.bindTwoWay_takes entries distinct twoWay
  refine ⟨fun other => ?_, outcome.flagged read.holds installed, ?_, takes.handled,
    document_bindTwoWay _ _ _, outcome.reported installed⟩
  · rw [outcome.overlays read.holds other, stores]
    simp only [Option.toList_some, lastWritten_singleton]
    split <;> rfl
  · rw [takes.stripped, Bearer.takes, Bearer.takesOff, installed, beq_self_eq_true]
    simp

/-- When all attributes have been read, the two-way ones that are installed are off the element. -/
theorem BeginsAt.isStripped_twoWay (begins : s.BeginsAt id node e)
    (distinct : OrderedMap.Distinct e.attributes.entries) {hyphenated : String}
    (twoWay : Text.after? "bind-" name = some hyphenated)
    (member : (name, value) ∈ e.attributes.entries) :
    (s.bindAttributes id node).isStripped id name = e.installs name := by
  have unstripped : s.isStripped id name = false := by
    rw [Bool.eq_false_iff]
    intro stripped
    rw [Bearer.after?_of_directive (begins.steering name stripped)] at twoWay
    cases twoWay
  rw [(begins.all distinct).stripped, unstripped, Bearer.any_takes distinct member,
    Bearer.shadows_of_twoWay twoWay, Bearer.takesOff_of_twoWay twoWay, Bool.or_false, Bool.false_or]

/-- When a two-way attribute has its turn, it is installed with all that belongs to it, or one error
is reported at the element and nothing else changes. -/
theorem accepts_or_rejects (begins : s.BeginsAt id node e)
    (distinct : OrderedMap.Distinct e.attributes.entries)
    (entries : e.attributes.entries = before ++ (name, value) :: after)
    (twoWay : Text.after? "bind-" name = some hyphenated) :
    let property := canonicalProperty hyphenated
    let choice := TwoWay.choose e.tag e.type property name e.isComponent
    let turn := s.readTo id node before
    if e.installs name then
      (∃ binding, e.stores? name value = some (choice.key property, binding) ∧
        Accepts id name (choice.key property) binding (e.runs name value) turn
          (bindAttribute id node turn name value)) ∧
      if choice.isNative then ∃ event action, e.runs name value = [{ event, action }] ∧
        (event = changeEvent ∨ event = inputEvent)
      else e.runs name value = []
    else
      ∃ problem, e.objection? name = some problem ∧ problem.severity = .error ∧
        bindAttribute id node turn name value = { turn with
          reports := turn.reports ++ [⟨problem, turn.file.path, turn.document.position node⟩] } := by
  intro property choice turn
  have read := begins.readTo distinct entries
  have chosen : e.twoWay? name = some (property, choice) := by
    rw [Bearer.twoWay?, twoWay, Option.map_some]
  have outcome := read.outcome entries distinct twoWay
  rw [read.bindAttribute_eq entries distinct begins.steering twoWay]
  split
  · next installed =>
    obtain ⟨⟨binding, stores⟩, handles⟩ := outcome.exists_stores chosen installed
    exact ⟨⟨binding, stores, read.accepts entries distinct twoWay installed stores⟩, handles⟩
  · next out =>
    obtain ⟨problem, objected, same⟩ := outcome.exists_objection (Bool.eq_false_iff.2 out)
    exact ⟨problem, objected, Bearer.severity_of_objection? objected, same⟩

/-- `type=" Radio" bind-value="c" value="red" bind-checked="b"` -/
def crowdedRadio : List (String × String) :=
  [("type", " Radio"), ("bind-value", "c"), ("value", "red"), ("bind-checked", "b")]

theorem accepts_or_rejects_crowdedRadio :
    (∃ binding, Accepts 0 "bind-value" "checked" binding
      [{ event := "onChange", action := .assignLiteral "c" "red" }]
      ((reading "input" crowdedRadio).readTo 0 1 [("type", " Radio")])
      (bindAttribute 0 1 ((reading "input" crowdedRadio).readTo 0 1 [("type", " Radio")])
        "bind-value" "c")) ∧
      ∃ problem : Problem, problem.severity = .error ∧
        bindAttribute 0 1 ((reading "input" crowdedRadio).readTo 0 1 (crowdedRadio.take 3))
            "bind-checked" "b" =
          ((reading "input" crowdedRadio).readTo 0 1 (crowdedRadio.take 3)).report problem 1 := by
  have begins := begins_reading "input" crowdedRadio
  have distinct : OrderedMap.Distinct crowdedRadio := by
    unfold OrderedMap.Distinct
    decide
  have first : crowdedRadio = [("type", " Radio")] ++ ("bind-value", "c") ::
      [("value", "red"), ("bind-checked", "b")] := rfl
  have second : crowdedRadio = crowdedRadio.take 3 ++ ("bind-checked", "b") :: [] := rfl
  have isValue : Text.after? "bind-" "bind-value" = some "value" := by decide
  have isChecked : Text.after? "bind-" "bind-checked" = some "checked" := by decide
  have accepted := accepts_or_rejects begins distinct first isValue
  have rejected := accepts_or_rejects begins distinct second isChecked
  constructor
  · rw [if_pos (by decide)] at accepted
    obtain ⟨⟨binding, -, accepts⟩, -⟩ := accepted
    exact ⟨binding, accepts⟩
  · rw [if_neg (by decide)] at rejected
    obtain ⟨problem, -, isError, same⟩ := rejected
    exact ⟨problem, isError, same⟩

end Pass
end ComponentMarkup
