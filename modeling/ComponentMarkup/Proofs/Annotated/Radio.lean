import ComponentMarkup.Proofs.Annotated.Handlers

/-!
A radio button is bound to `checked` by the first of its two-way attributes that can be: one for
`checked` always can, and one for `value` if the button has a value. The others are rejected.

A radio button that is bound through its value stands for the text of its `value`. That is taken as it
is written: the reading of the attribute itself asks whether it holds a binding, and this does not.
-/

namespace ComponentMarkup
namespace Bearer

/-- The element is a radio button, and `checked` is not among its attributes. -/
structure IsRadio (e : Bearer) : Prop where
  tag : e.tag = "input"
  type : e.type = "radio"
  unchecked : ∀ entry ∈ e.attributes.entries, entry.1 ≠ "checked"

/-- A two-way attribute for `checked` or `value`, in whatever spelling. -/
def Competes (name : String) : Prop :=
  ∃ hyphenated, Text.after? "bind-" name = some hyphenated ∧
    (canonicalProperty hyphenated = "checked" ∨ canonicalProperty hyphenated = "value")

/-- Whether a two-way attribute can bind a radio button by itself. -/
def isReady (e : Bearer) (name : String) : Bool :=
  (Text.after? "bind-" name).any fun hyphenated =>
    canonicalProperty hyphenated == "checked" ||
      canonicalProperty hyphenated == "value" && e.attributes.contains "value"

/-- The first attribute that can bind a radio button. -/
def winner? (e : Bearer) : Option (String × String) :=
  e.attributes.entries.find? fun entry => e.isReady entry.1

/-- What a two-way attribute of a radio button makes of its value: the binding for `checked`, and what
happens when the button is chosen. -/
def choice (e : Bearer) (name value : String) : Binding.Attribute × Binding.Action :=
  let expr := Text.trimmed value
  if (Text.after? "bind-" name).any (canonicalProperty · == "checked") then
    (.direct (.ofText expr) .plain, .assignProperty expr "checked")
  else
    let static := (e.attributes.find? "value").getD ""
    (.direct (.ofText (Pass.radioCondition expr static)) .plain, .assignLiteral expr static)

variable {e : Bearer} {name value hyphenated property : String} {entry : String × String}

theorem writesBack_choice (e : Bearer) (name value event : String) :
    Binding.Handler.writesBack ⟨event, (e.choice name value).2⟩ = true := by
  unfold choice
  split <;> rfl

namespace IsRadio
variable (radio : e.IsRadio)
include radio

theorem twoWay? (twoWay : Text.after? "bind-" name = some hyphenated)
    (isProperty : canonicalProperty hyphenated = property) : e.twoWay? name = some (property,
      if property = "checked" then .radioChecked
      else if property = "value" then .radioValue
      else if property = "valueAsDate" ∨ property = "valueAsNumber" then .native inputEvent
      else if e.isComponent then .component
      else .rejected (.unknownTwoWay name)) := by
  rw [Bearer.twoWay?, twoWay, Option.map_some, radio.tag, radio.type, isProperty]
  unfold TwoWay.choose
  grind

theorem asksChecked (member : entry ∈ e.attributes.entries) :
    e.asksChecked entry.1 entry.2 = e.isReady entry.1 := by
  obtain ⟨name, value⟩ := entry
  cases twoWay : Text.after? "bind-" name with
  | none =>
      rw [asksChecked_of_other twoWay, isReady, twoWay,
        beq_eq_false_iff_ne.2 (radio.unchecked _ member)]
      rfl
  | some hyphenated =>
      have chosen := radio.twoWay? twoWay rfl
      rw [isReady, twoWay, Option.any_some, Bearer.asksChecked, chosen]
      generalize canonicalProperty hyphenated = property
      by_cases isChecked : property = "checked"
      · simp [isChecked]
      · by_cases isValue : property = "value"
        · simp [isValue]
        · have unlike := beq_eq_false_iff_ne.2 isChecked
          rw [if_neg isChecked, if_neg isValue, unlike, beq_eq_false_iff_ne.2 isValue]
          by_cases isDate : property = "valueAsDate" ∨ property = "valueAsNumber"
          · rw [if_pos isDate]
            exact unlike
          · rw [if_neg isDate]
            cases e.isComponent with
            | true => exact unlike
            | false => rfl

theorem takesChecked (name : String) : e.takesChecked name = e.winner?.any (·.1 == name) := by
  have same : (e.attributes.entries.find? fun entry => e.asksChecked entry.1 entry.2) = e.winner? :=
    List.find?_congr fun entry member => radio.asksChecked member
  rw [Bearer.takesChecked, same]

theorem isReady_of_takesChecked (taken : e.takesChecked name = true) : e.isReady name = true := by
  rw [radio.takesChecked] at taken
  cases found : e.winner? with
  | none =>
      rw [found] at taken
      cases taken
  | some winner =>
      rw [found, Option.any_some, beq_iff_eq] at taken
      rw [← taken]
      simpa using List.find?_some found

theorem of_taken (value : String) (taken : e.takesChecked name = true) :
    e.stores? name value = some ("checked", (e.choice name value).1) ∧
      e.runs name value = [{ event := changeEvent, action := (e.choice name value).2 }] ∧
      e.installs name = true := by
  have ready := radio.isReady_of_takesChecked taken
  cases twoWay : Text.after? "bind-" name with
  | none =>
      rw [isReady, twoWay] at ready
      cases ready
  | some hyphenated =>
      have chosen := radio.twoWay? twoWay rfl
      rw [isReady, twoWay, Option.any_some, Bool.or_eq_true, Bool.and_eq_true, beq_iff_eq,
        beq_iff_eq] at ready
      rw [choice, twoWay, Option.any_some]
      rcases ready with isChecked | ⟨isValue, has⟩
      · rw [isChecked, if_pos rfl] at chosen
        have installs : e.InstallsProperty name "checked" changeEvent := .inr ⟨chosen, rfl, taken⟩
        rw [isChecked, beq_self_eq_true, if_pos rfl]
        exact ⟨installs.stores? value, installs.runs value, installs.native?.2⟩
      · rw [isValue, if_neg (by decide), if_pos rfl] at chosen
        obtain ⟨static, present⟩ := Option.isSome_iff_exists.1 has
        have installs : e.InstallsChoice name static := ⟨⟨_, chosen⟩, taken, present⟩
        rw [isValue, if_neg (by decide), present]
        exact ⟨installs.stores? value, installs.runs value, installs.native?.2⟩

theorem lastWritten_of_plain (member : (name, value) ∈ e.attributes.entries)
    (plain : Text.after? "bind-" name = none) :
    Pass.lastWritten (e.writes name value) "checked" = none := by
  rw [Pass.lastWritten_of_plain plain, if_neg (radio.unchecked _ member)]

/-- Every other attribute stores nothing as `checked` and writes nothing back when it changes. -/
theorem of_free (member : entry ∈ e.attributes.entries) (free : e.takesChecked entry.1 = false) :
    Pass.lastWritten (e.writes entry.1 entry.2) "checked" = none ∧
      (e.runs entry.1 entry.2).filter (fun h => h.writesBack && h.event == changeEvent) = [] := by
  obtain ⟨name, value⟩ := entry
  dsimp only at free ⊢
  cases twoWay : Text.after? "bind-" name with
  | none =>
      refine ⟨radio.lastWritten_of_plain member twoWay, ?_⟩
      rw [runs_of_other twoWay]
      split <;> rfl
  | some hyphenated =>
      have chosen := radio.twoWay? twoWay rfl
      rw [writes_of_twoWay twoWay, stores?, runs, (of_after twoWay).2.2.1, if_neg Bool.false_ne_true,
        chosen, free]
      generalize canonicalProperty hyphenated = property
      by_cases isChecked : property = "checked"
      · rw [if_pos isChecked]
        exact ⟨rfl, rfl⟩
      · rw [if_neg isChecked]
        by_cases isValue : property = "value"
        · rw [if_pos isValue]
          exact ⟨rfl, rfl⟩
        · rw [if_neg isValue]
          by_cases isDate : property = "valueAsDate" ∨ property = "valueAsNumber"
          · rw [if_pos isDate]
            exact ⟨(Pass.lastWritten_singleton _ _ _).trans (if_neg isChecked), rfl⟩
          · rw [if_neg isDate]
            cases e.isComponent with
            | true => exact ⟨(Pass.lastWritten_singleton _ _ _).trans (if_neg isChecked), rfl⟩
            | false => exact ⟨rfl, rfl⟩

theorem takesChecked_of_winner (distinct : OrderedMap.Distinct e.attributes.entries)
    (found : e.winner? = some entry) :
    e.takesChecked entry.1 = true ∧ ∃ before after, e.attributes.entries = before ++ entry :: after ∧
      (∀ other ∈ before, e.takesChecked other.1 = false) ∧
      ∀ other ∈ after, e.takesChecked other.1 = false := by
  obtain ⟨-, before, after, entries, -⟩ := List.find?_eq_some_iff_append.1 found
  have takes (other : String) : e.takesChecked other = (entry.1 == other) := by
    rw [radio.takesChecked, found, Option.any_some]
  rw [entries] at distinct
  refine ⟨(takes _).trans (beq_self_eq_true _), before, after, entries, fun other member => ?_,
    fun other member => ?_⟩
  · rw [takes, BEq.comm]
    exact OrderedMap.not_beq_of_distinct distinct member
  · rw [takes]
    exact (List.pairwise_cons.1 (List.pairwise_append.1 distinct).2.1).1 other member

theorem written (distinct : OrderedMap.Distinct e.attributes.entries) :
    Pass.lastWritten (e.attributes.entries.flatMap fun entry => e.writes entry.1 entry.2) "checked" =
        e.winner?.map (fun entry => (e.choice entry.1 entry.2).1) ∧
      (e.attributes.entries.flatMap fun entry => e.runs entry.1 entry.2).filter
          (fun h => h.writesBack && h.event == changeEvent) =
        e.winner?.toList.map fun entry =>
          { event := changeEvent, action := (e.choice entry.1 entry.2).2 } := by
  rw [List.filter_flatMap]
  cases found : e.winner? with
  | none =>
      have free (name : String) : e.takesChecked name = false := by
        rw [radio.takesChecked, found]
        rfl
      constructor
      · exact Pass.lastWritten_flatMap_eq_none fun entry member => (radio.of_free member (free _)).1
      · exact List.flatMap_eq_nil_iff.2 fun entry member => (radio.of_free member (free _)).2
  | some entry =>
      obtain ⟨taken, before, after, entries, first, last⟩ :=
        radio.takesChecked_of_winner distinct found
      obtain ⟨stores, runs, -⟩ := radio.of_taken entry.2 taken
      have free {other : String × String} (member : other ∈ before ∨ other ∈ after) :=
        radio.of_free
          (show other ∈ e.attributes.entries by
            rw [entries]
            exact List.mem_append.2 (member.imp_right (List.mem_cons_of_mem _)))
          (member.elim (first other) (last other))
      have ready := radio.isReady_of_takesChecked taken
      obtain ⟨hyphenated, twoWay, -⟩ := (Option.any_eq_true _ _).1 ready
      rw [entries]
      constructor
      · rw [List.flatMap_append, Pass.lastWritten_append, Pass.lastWritten_flatMap_cons,
          Pass.lastWritten_flatMap_eq_none fun other member => (free (.inr member)).1,
          Pass.lastWritten_flatMap_eq_none fun other member => (free (.inl member)).1,
          writes_of_twoWay twoWay, stores]
        rfl
      · rw [List.flatMap_append, List.flatMap_cons,
          List.flatMap_eq_nil_iff.2 fun other member => (free (.inl member)).2,
          List.flatMap_eq_nil_iff.2 fun other member => (free (.inr member)).2, runs,
          List.filter_singleton, writesBack_choice]
        rfl

theorem winner?_of_takesChecked (distinct : OrderedMap.Distinct e.attributes.entries)
    (member : (name, value) ∈ e.attributes.entries) (taken : e.takesChecked name = true) :
    e.winner? = some (name, value) := by
  rw [radio.takesChecked] at taken
  cases found : e.winner? with
  | none =>
      rw [found] at taken
      cases taken
  | some winner =>
      rw [found, Option.any_some] at taken
      rw [OrderedMap.eq_of_distinct distinct (List.mem_of_find?_eq_some found) member taken]

/-- An attribute that could bind the button but does not is rejected: it comes too late, or there is
no value to compare with. -/
theorem objection? (competes : Competes name) (free : e.takesChecked name = false) :
    e.objection? name = some (if e.isReady name then .radioTwice else .radioWithoutValue) := by
  obtain ⟨hyphenated, twoWay, isProperty⟩ := competes
  have chosen := radio.twoWay? twoWay rfl
  rw [Bearer.objection?, isReady, twoWay, Option.any_some, chosen, free]
  rcases isProperty with isChecked | isValue
  · rw [isChecked]
    rfl
  · rw [isValue]
    cases e.attributes.contains "value" <;> rfl

end IsRadio
end Bearer

namespace Pass
variable {s : Pass} {id : AnnotatedId} {node : NodeId} {e : Bearer} {name value : String}
  {before after : List (String × String)}

/-- The turn of an attribute that could bind a radio button. -/
theorem BeginsAt.radio_turn (begins : s.BeginsAt id node e)
    (distinct : OrderedMap.Distinct e.attributes.entries) (radio : e.IsRadio)
    (entries : e.attributes.entries = before ++ (name, value) :: after)
    (competes : Bearer.Competes name) :
    let turn := s.readTo id node before
    if e.winner? = some (name, value) then
      e.installs name = true ∧ Accepts id name "checked" (e.choice name value).1
        [{ event := changeEvent, action := (e.choice name value).2 }] turn
        (bindAttribute id node turn name value)
    else
      let problem : Problem := if e.isReady name then .radioTwice else .radioWithoutValue
      e.installs name = false ∧ problem.severity = .error ∧
        bindAttribute id node turn name value = turn.report problem node := by
  intro turn
  obtain ⟨hyphenated, twoWay, isProperty⟩ := competes
  have read := begins.readTo distinct entries
  rw [read.bindAttribute_eq entries distinct begins.steering twoWay]
  split
  · next won =>
    obtain ⟨taken, -⟩ := radio.takesChecked_of_winner distinct won
    obtain ⟨stores, runs, installed⟩ := radio.of_taken value taken
    have accepts := read.accepts entries distinct twoWay installed stores
    rw [runs] at accepts
    exact ⟨installed, accepts⟩
  · next lost =>
    have member : (name, value) ∈ e.attributes.entries := by
      rw [entries]
      exact List.mem_append_right _ List.mem_cons_self
    have free : e.takesChecked name = false := by
      rw [Bool.eq_false_iff]
      exact fun taken => lost (radio.winner?_of_takesChecked distinct member taken)
    have objected := radio.objection? ⟨hyphenated, twoWay, isProperty⟩ free
    have out := (Bearer.of_objection? value objected).2.1
    obtain ⟨problem, objected', same⟩ :=
      (read.outcome entries distinct twoWay).exists_objection out
    obtain rfl := Option.some.inj (objected'.symm.trans objected)
    exact ⟨out, Bearer.severity_of_objection? objected, same⟩

/-- A radio button is bound by the first of its two-way attributes that can be, with one handler; each
other one that is for `checked` or `value` leaves one error and nothing else. -/
theorem first_binds_radio (begins : s.BeginsAt id node e)
    (distinct : OrderedMap.Distinct e.attributes.entries) (radio : e.IsRadio) :
    let t := s.bindAttributes id node
    t.stored? id "checked" = e.winner?.map (fun entry => (e.choice entry.1 entry.2).1) ∧
    (t.handlersOf id changeEvent).filter Binding.Handler.writesBack =
      (e.winner?.toList.map fun entry =>
        { event := changeEvent, action := (e.choice entry.1 entry.2).2 }) ∧
    ∀ before name value after, e.attributes.entries = before ++ (name, value) :: after →
      Bearer.Competes name →
      let turn := s.readTo id node before
      if e.winner? = some (name, value) then
        Accepts id name "checked" (e.choice name value).1
          [{ event := changeEvent, action := (e.choice name value).2 }] turn
          (bindAttribute id node turn name value) ∧ t.isStripped id name = true
      else
        let problem : Problem := if e.isReady name then .radioTwice else .radioWithoutValue
        problem.severity = .error ∧ bindAttribute id node turn name value = turn.report problem node ∧
          t.isStripped id name = false := by
  intro t
  obtain ⟨written, writtenBack⟩ := radio.written distinct
  refine ⟨?_, ?_, fun before name value after entries competes => ?_⟩
  · rw [begins.stored?_bindAttributes distinct, written]
    -- What could be taken off before its turn is plain, and does not write to `checked`.
    intro entry member
    cases twoWay : Text.after? "bind-" entry.1 with
    | none => exact .inl (radio.lastWritten_of_plain member twoWay)
    | some hyphenated => exact .inr (Bearer.shadows_of_twoWay twoWay)
  · rw [(begins.all distinct).handled, List.filter_filter, writtenBack]
  · have member : (name, value) ∈ e.attributes.entries := by
      rw [entries]
      exact List.mem_append_right _ List.mem_cons_self
    have turn := begins.radio_turn distinct radio entries competes
    obtain ⟨hyphenated, twoWay, -⟩ := competes
    rw [begins.isStripped_twoWay distinct twoWay member]
    split
    · next won =>
      rw [if_pos won] at turn
      exact turn.symm
    · next lost =>
      rw [if_neg lost] at turn
      exact ⟨turn.2.1, turn.2.2, turn.1⟩

/-- `type=" Radio" bind-value="c" bind-checked="b"` -/
def valuelessRadio : List (String × String) :=
  [("type", " Radio"), ("bind-value", "c"), ("bind-checked", "b")]

theorem first_binds_radio_valueless :
    let t := (reading "input" valuelessRadio).bindAttributes 0 1
    t.stored? 0 "checked" = some (.direct (.ofText "b") .plain) ∧
      (t.handlersOf 0 changeEvent).filter Binding.Handler.writesBack =
        [{ event := changeEvent, action := .assignProperty "b" "checked" }] ∧
      t.isStripped 0 "bind-value" = false ∧ t.isStripped 0 "bind-checked" = true := by
  intro t
  have distinct : OrderedMap.Distinct valuelessRadio := by
    unfold OrderedMap.Distinct
    decide
  have radio : Bearer.IsRadio ⟨"input", ⟨valuelessRadio⟩, false⟩ := ⟨rfl, by decide, by decide⟩
  have winner : Bearer.winner? ⟨"input", ⟨valuelessRadio⟩, false⟩ = some ("bind-checked", "b") := by
    decide
  obtain ⟨stored, handled, turns⟩ :=
    first_binds_radio (begins_reading "input" valuelessRadio) distinct radio
  have forValue := turns [("type", " Radio")] "bind-value" "c" [("bind-checked", "b")] rfl
    ⟨"value", by decide, by decide⟩
  have forChecked := turns [("type", " Radio"), ("bind-value", "c")] "bind-checked" "b" [] rfl
    ⟨"checked", by decide, by decide⟩
  rw [winner] at stored handled forValue forChecked
  rw [if_neg (by decide)] at forValue
  rw [if_pos rfl] at forChecked
  obtain ⟨-, -, kept⟩ := forValue
  exact ⟨stored, handled, kept, forChecked.2⟩

end Pass

/-! ## Values of radio buttons -/

namespace Bearer

/-- A radio button, whatever else is said of it. -/
structure IsButton (e : Bearer) : Prop where
  tag : e.tag = "input"
  type : e.type = "radio"

/-- Whether the element has a `value` that is the same whatever is bound. -/
def hasStaticValue (e : Bearer) : Bool :=
  (e.attributes.find? "value").any (!Binding.hasBinding ·)

variable {e : Bearer} {name value hyphenated key event target literal : String}
  {binding : Binding.Attribute}

theorem hasStaticValue_of_find? (present : e.attributes.find? "value" = some literal) :
    e.hasStaticValue = !Binding.hasBinding literal := by
  rw [hasStaticValue, present, Option.any_some]

/-- What is assigned as a literal is the text of `value`. -/
theorem find?_of_assigns
    (assigns : { event, action := .assignLiteral target literal } ∈ e.runs name value) :
    e.attributes.find? "value" = some literal :=
  (installsChoice_of_assigns assigns).2.2.2.2

namespace IsButton
variable (button : e.IsButton)
include button

theorem twoWay? (twoWay : Text.after? "bind-" name = some hyphenated)
    (isValue : canonicalProperty hyphenated = "value") :
    e.twoWay? name = some ("value", .radioValue) := by
  rw [Bearer.twoWay?, twoWay, Option.map_some, button.tag, button.type, isValue]
  rfl

/-- There is one way to bind the value of a radio button, and that is for `checked`. -/
theorem eq_radioValue {choice : TwoWay} (chosen : e.twoWay? name = some ("value", choice)) :
    choice = .radioValue := by
  obtain ⟨hyphenated, twoWay, same⟩ := Option.map_eq_some_iff.1 chosen
  have value := button.twoWay? twoWay (Prod.mk.inj same).1
  exact (Prod.mk.inj (Option.some.inj (chosen.symm.trans value))).2

theorem stores?_ne (name value : String) (binding : Binding.Attribute) :
    e.stores? name value ≠ some ("value", binding) := by
  intro stores
  rw [stores?] at stores
  split at stores
  · next property event chosen =>
    obtain ⟨rfl, -⟩ := Prod.mk.inj (Option.some.inj stores)
    cases button.eq_radioValue chosen
  · next property chosen =>
    obtain ⟨rfl, -⟩ := Prod.mk.inj (Option.some.inj (Option.ite_none_right_eq_some.1 stores).2)
    cases button.eq_radioValue chosen
  · have same := Prod.mk.inj (Option.some.inj (Option.ite_none_right_eq_some.1 stores).2)
    exact absurd same.1 (by decide)
  · next property chosen =>
    obtain ⟨rfl, -⟩ := Prod.mk.inj (Option.some.inj stores)
    cases button.eq_radioValue chosen
  · cases stores

/-- No native property takes the place of its `value`. -/
theorem shadows_value : e.shadows "value" = false := by
  rw [shadows, List.any_eq_false]
  intro entry member shadowed
  cases native : e.native? entry.1 with
  | none =>
      rw [native] at shadowed
      cases shadowed
  | some property =>
      rw [native, Option.any_some, beq_iff_eq] at shadowed
      have known := mem_known_of_native? native
      have isValue : ∀ property ∈ knownProperties, Text.lowered property = "value" →
          property = "value" := by decide
      obtain rfl := isValue property known shadowed
      rw [native?] at native
      split at native
      · next chosen =>
        obtain rfl := Option.some.inj native
        cases button.eq_radioValue chosen
      · exact absurd (Option.some.inj (Option.ite_none_right_eq_some.1 native).2) (by decide)
      · exact absurd (Option.some.inj (Option.ite_none_right_eq_some.1 native).2) (by decide)
      · cases native

end IsButton
end Bearer

namespace Pass
variable {s t : Pass} {id : AnnotatedId} {node : NodeId} {e : Bearer} {begun : String → Bool}
  {name value hyphenated literal : String} {done rest before after : List (String × String)}

theorem hasBinding_eq_isSome (s : Pass) (id : AnnotatedId) (key : String) :
    s.hasBinding id key = (s.stored? id key).isSome := by
  rw [hasBinding_eq, stored?]
  cases s.bindings? id <;> rfl

/-- What becomes of an attribute that binds a radio button through its value. -/
inductive ReadsValue (e : Bearer) (node : NodeId) (id : AnnotatedId) (name value : String)
    (turn : Pass) : Pass → Prop where
  | valueless (absent : e.attributes.find? "value" = none) :
      ReadsValue e node id name value turn (turn.report .radioWithoutValue node)
  | taken {literal : String} (present : e.attributes.find? "value" = some literal)
      (bound : turn.hasBinding id "checked" = true) :
      ReadsValue e node id name value turn (turn.report .radioTwice node)
  | installed {literal : String} {read : Pass} (present : e.attributes.find? "value" = some literal)
      (free : turn.hasBinding id "checked" = false)
      (accepts : Accepts id name "checked"
        (.direct (.ofText (radioCondition (Text.trimmed value) literal)) .plain)
        [{ event := changeEvent, action := .assignLiteral (Text.trimmed value) literal }] turn read) :
      ReadsValue e node id name value turn read

theorem HasRead.readsValue (read : HasRead e node id begun done s)
    (entries : e.attributes.entries = done ++ (name, value) :: rest)
    (distinct : OrderedMap.Distinct e.attributes.entries)
    (button : e.IsButton) (twoWay : Text.after? "bind-" name = some hyphenated)
    (isValue : canonicalProperty hyphenated = "value") :
    ReadsValue e node id name value s
      (s.bindTwoWay id node name (canonicalProperty hyphenated) value) := by
  have chosen := button.twoWay? twoWay isValue
  obtain ⟨-, installs, asks, -⟩ := Bearer.of_radioValue value chosen
  have outcome := read.outcome entries distinct twoWay
  cases present : e.attributes.find? "value" with
  | none =>
      rw [OrderedMap.contains, present] at asks
      have free : e.takesChecked name = false := by
        rw [Bearer.takesChecked_eq entries distinct, asks]
        rfl
      obtain ⟨problem, objected, same⟩ := outcome.exists_objection (installs.trans free)
      rw [Bearer.objection?, chosen, free, OrderedMap.contains, present] at objected
      rw [same, ← Option.some.inj objected]
      exact .valueless present
  | some literal =>
      rw [OrderedMap.contains, present] at asks
      have takes := read.takesChecked_eq entries distinct asks
      cases bound : s.hasBinding id "checked" with
      | true =>
          rw [bound] at takes
          obtain ⟨problem, objected, same⟩ := outcome.exists_objection (installs.trans takes)
          rw [Bearer.objection?, chosen, takes, OrderedMap.contains, present] at objected
          rw [same, ← Option.some.inj objected]
          exact .taken present bound
      | false =>
          rw [bound] at takes
          have choice : e.InstallsChoice name literal := ⟨⟨_, chosen⟩, takes, present⟩
          have accepts := read.accepts entries distinct twoWay choice.native?.2 (choice.stores? value)
          rw [choice.runs] at accepts
          exact .installed present bound accepts

/-- What is stored as the `value` of a radio button is what its `value` is bound to. -/
theorem BeginsAt.stored?_value (begins : s.BeginsAt id node e)
    (distinct : OrderedMap.Distinct e.attributes.entries) (button : e.IsButton) :
    (s.bindAttributes id node).stored? id "value" =
      (e.attributes.find? "value").bind (Bearer.ownBinding? e.isComponent "value") := by
  have other {entry : String × String} (apart : entry.1 ≠ "value") :
      lastWritten (e.writes entry.1 entry.2) "value" = none := by
    cases twoWay : Text.after? "bind-" entry.1 with
    | none => rw [lastWritten_of_plain twoWay, if_neg apart]
    | some hyphenated =>
        rw [Bearer.writes_of_twoWay twoWay]
        cases stores : e.stores? entry.1 entry.2 with
        | none => rfl
        | some written =>
            obtain ⟨key, binding⟩ := written
            rw [Option.toList_some, lastWritten_singleton, if_neg]
            rintro rfl
            exact button.stores?_ne _ _ _ stores
  rw [begins.stored?_bindAttributes distinct fun entry member => ?_]
  · cases present : e.attributes.find? "value" with
    | none =>
        rw [lastWritten_flatMap_eq_none fun entry member => other ?_, Option.bind_none]
        intro isValue
        have found := OrderedMap.find?_of_mem distinct member
        rw [isValue] at found
        cases present.symm.trans found
    | some literal =>
        obtain ⟨before, after, entries⟩ := OrderedMap.exists_split present
        rw [entries] at distinct ⊢
        have apart {entry : String × String} (member : entry ∈ before ++ after) :=
          other (OrderedMap.ne_of_distinct distinct member)
        have plain : Text.after? "bind-" "value" = none := by decide
        rw [List.flatMap_append, lastWritten_append, lastWritten_flatMap_cons,
          lastWritten_flatMap_eq_none fun entry member => apart (List.mem_append_right _ member),
          lastWritten_flatMap_eq_none fun entry member => apart (List.mem_append_left _ member),
          lastWritten_of_plain plain, if_pos rfl, Option.none_or, Option.or_none, Option.bind_some]
  · by_cases isValue : entry.1 = "value"
    · rw [isValue]
      exact .inr button.shadows_value
    · exact .inl (other isValue)

/-- An attribute that binds a radio button through its value finds a static one, or it leaves one error
and nothing else. -/
def StaticOrRejected (e : Bearer) (node : NodeId) (turn read : Pass) : Prop :=
  e.hasStaticValue = true ∨
    ∃ problem : Problem, problem.severity = .error ∧ read = turn.report problem node

theorem ReadsValue.staticOrRejected_iff (reads : ReadsValue e node id name value s t) :
    StaticOrRejected e node s t ↔ ∀ literal ∈ e.attributes.find? "value",
      Binding.hasBinding literal = true → s.hasBinding id "checked" = true := by
  cases reads with
  | valueless absent =>
      rw [absent]
      exact iff_of_true (.inr ⟨_, rfl, rfl⟩) nofun
  | taken present bound => exact iff_of_true (.inr ⟨_, rfl, rfl⟩) fun _ _ _ => bound
  | @installed static _ present free accepts =>
      -- What is installed is stored, and a report stores nothing.
      have accepted (problem : Problem) : t ≠ s.report problem node := by
        rintro rfl
        have stored : s.stored? id "checked" = some _ := (accepts.stored "checked").trans (if_pos rfl)
        rw [hasBinding_eq_isSome, stored] at free
        cases free
      rw [StaticOrRejected, Bearer.hasStaticValue_of_find? present, present, free]
      constructor
      · intro demand literal isLiteral bound
        rcases demand with unbound | ⟨problem, -, rejected⟩
        · rw [Option.some.inj isLiteral, bound] at unbound
          cases unbound
        · exact absurd rejected (accepted problem)
      · intro unbound
        left
        cases bound : Binding.hasBinding static with
        | false => rfl
        | true => cases unbound static rfl bound

/-- At its turn an attribute that binds a radio button through its value is rejected when the button has
no `value` or is bound already, and otherwise takes the `value` as a literal, as it is written. So a
`value` that is bound itself is kept from being one only where the button is bound already. -/
theorem static_or_rejected_iff (begins : s.BeginsAt id node e)
    (distinct : OrderedMap.Distinct e.attributes.entries) (button : e.IsButton)
    (entries : e.attributes.entries = before ++ (name, value) :: after)
    (twoWay : Text.after? "bind-" name = some hyphenated)
    (isValue : canonicalProperty hyphenated = "value") :
    let turn := s.readTo id node before
    let read := bindAttribute id node turn name value
    let t := s.bindAttributes id node
    ReadsValue e node id name value turn read ∧
    (StaticOrRejected e node turn read ↔ ∀ literal ∈ e.attributes.find? "value",
      Binding.hasBinding literal = true → turn.hasBinding id "checked" = true) ∧
    (∀ event target literal,
      { event, action := .assignLiteral target literal } ∈ t.handlersOf id event →
        e.attributes.find? "value" = some literal) ∧
    t.stored? id "value" =
      (e.attributes.find? "value").bind (Bearer.ownBinding? e.isComponent "value") := by
  intro turn read t
  have readTo := begins.readTo distinct entries
  have reads := readTo.readsValue entries distinct button twoWay isValue
  rw [← readTo.bindAttribute_eq entries distinct begins.steering twoWay] at reads
  refine ⟨reads, reads.staticOrRejected_iff, fun event target literal assigns => ?_,
    begins.stored?_value distinct button⟩
  rw [(begins.all distinct).handled] at assigns
  obtain ⟨entry, -, runs⟩ := List.mem_flatMap.1 (List.mem_filter.1 assigns).1
  exact Bearer.find?_of_assigns runs

/-- `type="radio" bind-value=" c " value="red"` -/
def choosingRed : List (String × String) :=
  [("type", "radio"), ("bind-value", " c "), ("value", "red")]

theorem static_or_rejected_iff_choosingRed :
    let turn := (reading "input" choosingRed).readTo 0 1 (choosingRed.take 1)
    StaticOrRejected ⟨"input", ⟨choosingRed⟩, false⟩ 1 turn
        (bindAttribute 0 1 turn "bind-value" " c ") ∧
      ((reading "input" choosingRed).bindAttributes 0 1).stored? 0 "value" = none := by
  intro turn
  have distinct : OrderedMap.Distinct choosingRed := by decide
  have split : choosingRed = choosingRed.take 1 ++ ("bind-value", " c ") :: choosingRed.drop 2 := rfl
  have twoWay : Text.after? "bind-" "bind-value" = some "value" := by decide
  obtain ⟨-, demand, -, stored⟩ := static_or_rejected_iff (begins_reading "input" choosingRed)
    distinct ⟨rfl, by decide⟩ split twoWay (by decide)
  exact ⟨demand.2 (by decide), stored⟩

/-- `type="radio" value="{{v}}" bind-value="c"` -/
def choosingBound : List (String × String) :=
  [("type", "radio"), ("value", "\x7b\x7bv\x7d\x7d"), ("bind-value", "c")]

/-- The button that is bound to `v` is checked when `c` is the text of that binding. -/
theorem not_staticOrRejected_choosingBound :
    let turn := (reading "input" choosingBound).readTo 0 1 (choosingBound.take 2)
    let read := bindAttribute 0 1 turn "bind-value" "c"
    turn.stored? 0 "value" = some (.direct (.ofRaw ['v'] 0 5) .plain) ∧
      read.stored? 0 "checked" = some (.direct (.ofText "c == '\x7b\x7bv\x7d\x7d'") .plain) ∧
      read.handlersOf 0 changeEvent =
        [{ event := changeEvent, action := .assignLiteral "c" "\x7b\x7bv\x7d\x7d" }] ∧
      ¬ StaticOrRejected ⟨"input", ⟨choosingBound⟩, false⟩ 1 turn read := by
  intro turn read
  have stored : read.stored? 0 "checked" =
      some (.direct (.ofText "c == '\x7b\x7bv\x7d\x7d'") .plain) := by decide +kernel
  refine ⟨by decide +kernel, stored, by decide +kernel, ?_⟩
  rintro (isStatic | ⟨problem, -, rejected⟩)
  · exact absurd isStatic (by decide)
  · have unbound : turn.stored? 0 "checked" = none := by decide +kernel
    rw [rejected] at stored
    cases unbound.symm.trans stored

end Pass
end ComponentMarkup
