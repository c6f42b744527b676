import ComponentMarkup.Proofs.Annotated.Reading
import ComponentMarkup.Proofs.Ordered

/-!
What the attributes of an element say to the reading of them: which two-way attributes are installed,
what is taken off the element and what its events run.
-/

namespace ComponentMarkup

/-- Whether the handler writes a property or its meaning back, as those of two-way attributes do. -/
def Binding.Handler.writesBack (h : Binding.Handler) : Bool :=
  match h.action with
  | .inline _ => false
  | _ => true

/-- An element as the reading of its attributes sees it. -/
structure Bearer where
  tag : String
  attributes : Attributes
  isComponent : Bool

namespace Bearer

/-- An attribute that is bound under its own name when it holds a binding, as `style` is. -/
def isOwn (name : String) : Bool :=
  !directiveNames.contains name && !Text.startsWith name "on" && !Text.startsWith name "bind-" &&
    name != "class"

variable (e : Bearer)

/-- The type of an input. -/
def type : String := Text.lowered (Text.trimmed ((e.attributes.find? "type").getD ""))

/-- The property that a two-way attribute is for, and how the element binds that. -/
def twoWay? (name : String) : Option (String × TwoWay) :=
  (Text.after? "bind-" name).map fun hyphenated =>
    let property := canonicalProperty hyphenated
    (property, TwoWay.choose e.tag e.type property name e.isComponent)

/-- Whether an attribute is bound to `checked` when no earlier one is. -/
def asksChecked (name value : String) : Bool :=
  match e.twoWay? name with
  | some (_, .radioValue) => e.attributes.contains "value"
  | some (_, .rejected _) => false
  | some (property, _) => property == "checked"
  | none => name == "checked" && (e.isComponent || Binding.hasBinding value)

/-- Whether an attribute is the first one to be bound to `checked`. -/
def takesChecked (name : String) : Bool :=
  (e.attributes.entries.find? fun entry => e.asksChecked entry.1 entry.2).any (·.1 == name)

/-- The property that a two-way attribute is natively installed for. Both ways to bind a radio
button are for `checked`, and only the first attribute to be bound to that is installed. -/
def native? (name : String) : Option String :=
  match e.twoWay? name with
  | some (property, .native _) => some property
  | some (_, .radioChecked) | some (_, .radioValue) =>
      if e.takesChecked name then some "checked" else none
  | _ => none

/-- Whether a two-way attribute is installed, be it natively or as an input of a component. -/
def installs (name : String) : Bool :=
  match e.twoWay? name with
  | some (_, .component) => true
  | _ => (e.native? name).isSome

/-- Whether reading an attribute takes it off the element. -/
def takesOff (name value : String) : Bool :=
  Text.startsWith name "on-" || e.installs name || (isOwn name && Binding.hasBinding value)

/-- Whether a two-way attribute is natively installed for a property of this name in small
letters. -/
def shadows (name : String) : Bool :=
  e.attributes.entries.any fun entry => (e.native? entry.1).any (Text.lowered · == name)

/-- Whether reading the attribute `entry` takes the attribute `name` off the element. -/
def takes (name : String) (entry : String × String) : Bool :=
  entry.1 == name && e.takesOff entry.1 entry.2 ||
    e.attributes.contains name && (e.native? entry.1).any (Text.lowered · == name)

/-- What an attribute lets events run: its code, or the writing back of what it is natively installed
for. -/
def runs (name value : String) : List Binding.Handler :=
  if Text.startsWith name "on-" then
    [{ event := Text.camelCased name, action := .inline (Text.trimmed value) }]
  else
    match e.twoWay? name with
    | some (property, .native event) =>
        [{ event, action := .assignProperty (Text.trimmed value) property }]
    | some (property, .radioChecked) =>
        if e.takesChecked name then
          [{ event := changeEvent, action := .assignProperty (Text.trimmed value) property }]
        else []
    | some (_, .radioValue) =>
        if e.takesChecked name then
          [{ event := changeEvent, action := .assignLiteral (Text.trimmed value)
              ((e.attributes.find? "value").getD "") }]
        else []
    | _ => []

/-- What a two-way attribute stores, and for which property. -/
def stores? (name value : String) : Option (String × Binding.Attribute) :=
  let expr := Text.trimmed value
  match e.twoWay? name with
  | some (property, .native _) => some (property, .direct (.ofText expr) .plain)
  | some (property, .radioChecked) =>
      if e.takesChecked name then some (property, .direct (.ofText expr) .plain) else none
  | some (_, .radioValue) =>
      let static := (e.attributes.find? "value").getD ""
      if e.takesChecked name then
        some ("checked", .direct (.ofText (Pass.radioCondition expr static)) .plain)
      else none
  | some (property, .component) => some (property, .direct (.ofText expr) .twoWay)
  | _ => none

/-- Why a two-way attribute is not installed. -/
def objection? (name : String) : Option Problem :=
  match e.twoWay? name with
  | some (_, .radioChecked) => if e.takesChecked name then none else some .radioTwice
  | some (_, .radioValue) =>
      if e.takesChecked name then none
      else if e.attributes.contains "value" then some .radioTwice
      else some .radioWithoutValue
  | some (_, .rejected problem) => some problem
  | _ => none

/-- A two-way attribute is natively installed for its own property. -/
def InstallsProperty (name property event : String) : Prop :=
  e.twoWay? name = some (property, .native event) ∨
    e.twoWay? name = some (property, .radioChecked) ∧ event = changeEvent ∧
      e.takesChecked name = true

/-- A two-way attribute is natively installed as the choice that a radio button stands for. -/
def InstallsChoice (name static : String) : Prop :=
  (∃ property, e.twoWay? name = some (property, .radioValue)) ∧ e.takesChecked name = true ∧
    e.attributes.find? "value" = some static

/-! ## Two-way attributes -/

variable {e} {name value other property event static : String}
  {before after : List (String × String)}

/-- The name of a two-way attribute begins with `b`, so that it is of no other sort. -/
theorem of_after (twoWay : Text.after? "bind-" name = some other) :
    directiveNames.contains name = false ∧ Text.startsWith name "on" = false ∧
      Text.startsWith name "on-" = false ∧ name ≠ "class" ∧ name ≠ "checked" := by
  obtain ⟨rest, found, -⟩ := Option.map_eq_some_iff.1 twoWay
  have isName := Text.afterLead?_eq_some.1 found
  have first : name.toList.head? = some 'b' := by rw [← isName]; rfl
  have unlike (word : String) (begins : word.toList.head? ≠ some 'b') : name ≠ word := by
    rintro rfl
    exact begins first
  have silent (lead : String) {c : Char} {cs : List Char} (isLead : lead.toList = c :: cs)
      (begins : c ≠ 'b') : Text.startsWith name lead = false := by
    rw [Text.startsWith, Text.after?, isLead, ← isName]
    change (((if c = 'b' then _ else none : Option (List Char))).map String.ofList).isSome = false
    rw [if_neg begins]
    rfl
  refine ⟨?_, silent "on" rfl (by decide), silent "on-" rfl (by decide), unlike _ (by decide),
    unlike _ (by decide)⟩
  rw [← Bool.not_eq_true, List.contains_eq_mem, decide_eq_true_eq]
  intro member
  have begins : ∀ word ∈ directiveNames, word.toList.head? ≠ some 'b' := by decide
  exact begins name member first

/-- A two-way attribute is taken off only when it is installed. -/
theorem takesOff_of_twoWay (twoWay : Text.after? "bind-" name = some other) :
    e.takesOff name value = e.installs name := by
  have binds : Text.startsWith name "bind-" = true := by rw [Text.startsWith, twoWay]; rfl
  rw [takesOff, (of_after twoWay).2.2.1, isOwn, binds]
  simp

theorem twoWay?_eq_none (other : Text.after? "bind-" name = none) : e.twoWay? name = none := by
  rw [twoWay?, other, Option.map_none]

theorem native?_eq_none (none : e.twoWay? name = none) : e.native? name = Option.none := by
  rw [native?, none]

theorem installs_eq_false (none : e.twoWay? name = Option.none) : e.installs name = false := by
  rw [installs, none, native?_eq_none none]
  rfl

/-! ## Ways to bind -/

theorem silent_of_twoWay? {choice : TwoWay} (chosen : e.twoWay? name = some (property, choice)) :
    Text.startsWith name "on-" = false := by
  obtain ⟨hyphenated, twoWay, -⟩ := Option.map_eq_some_iff.1 chosen
  exact (of_after twoWay).2.2.1

theorem of_native (value : String) (chosen : e.twoWay? name = some (property, .native event)) :
    e.native? name = some property ∧ e.installs name = true ∧
      e.asksChecked name value = (property == "checked") ∧
      e.runs name value =
        [{ event, action := .assignProperty (Text.trimmed value) property }] := by
  delta installs native? asksChecked runs
  rw [silent_of_twoWay? chosen, chosen]
  exact ⟨rfl, rfl, rfl, rfl⟩

theorem of_radioChecked (value : String) (chosen : e.twoWay? name = some (property, .radioChecked)) :
    e.native? name = (if e.takesChecked name then some "checked" else none) ∧
      e.installs name = e.takesChecked name ∧ e.asksChecked name value = (property == "checked") ∧
      e.runs name value = if e.takesChecked name then
        [{ event := changeEvent, action := .assignProperty (Text.trimmed value) property }]
        else [] := by
  delta installs native? asksChecked runs
  rw [silent_of_twoWay? chosen, chosen]
  refine ⟨rfl, ?_, rfl, rfl⟩
  cases e.takesChecked name <;> rfl

theorem of_radioValue (value : String) (chosen : e.twoWay? name = some (property, .radioValue)) :
    e.native? name = (if e.takesChecked name then some "checked" else none) ∧
      e.installs name = e.takesChecked name ∧
      e.asksChecked name value = e.attributes.contains "value" ∧
      e.runs name value = if e.takesChecked name then
        [{ event := changeEvent, action := .assignLiteral (Text.trimmed value)
            ((e.attributes.find? "value").getD "") }]
        else [] := by
  delta installs native? asksChecked runs
  rw [silent_of_twoWay? chosen, chosen]
  refine ⟨rfl, ?_, rfl, rfl⟩
  cases e.takesChecked name <;> rfl

theorem of_component (value : String) (chosen : e.twoWay? name = some (property, .component)) :
    e.native? name = none ∧ e.installs name = true ∧
      e.asksChecked name value = (property == "checked") := by
  delta installs native? asksChecked
  rw [chosen]
  exact ⟨rfl, rfl, rfl⟩

theorem of_rejected (value : String) {problem : Problem}
    (chosen : e.twoWay? name = some (property, .rejected problem)) :
    e.native? name = none ∧ e.installs name = false ∧ e.asksChecked name value = false := by
  delta installs native? asksChecked
  rw [chosen]
  exact ⟨rfl, rfl, rfl⟩

namespace InstallsProperty
variable (installs : e.InstallsProperty name property event)
include installs

theorem native? : e.native? name = some property ∧ e.installs name = true := by
  rcases installs with chosen | ⟨chosen, -, taken⟩
  · obtain ⟨native, installed, -, -⟩ := of_native "" chosen
    exact ⟨native, installed⟩
  · obtain ⟨native, installed, -, -⟩ := of_radioChecked "" chosen
    obtain ⟨hyphenated, -, same⟩ := Option.map_eq_some_iff.1 chosen
    obtain ⟨rfl, choice⟩ := Prod.mk.inj same
    rw [native, if_pos taken, TwoWay.eq_checked_of_radioChecked choice, installed, taken]
    exact ⟨rfl, rfl⟩

theorem asksChecked (value : String) : e.asksChecked name value = (property == "checked") := by
  rcases installs with chosen | ⟨chosen, -, -⟩
  · exact (of_native value chosen).2.2.1
  · exact (of_radioChecked value chosen).2.2.1

theorem runs (value : String) : e.runs name value =
    [{ event, action := .assignProperty (Text.trimmed value) property }] := by
  rcases installs with chosen | ⟨chosen, rfl, taken⟩
  · exact (of_native value chosen).2.2.2
  · rw [(of_radioChecked value chosen).2.2.2, if_pos taken]

theorem stores? (value : String) :
    e.stores? name value = some (property, .direct (.ofText (Text.trimmed value)) .plain) := by
  rw [Bearer.stores?]
  rcases installs with chosen | ⟨chosen, -, taken⟩
  · rw [chosen]
  · rw [chosen]
    exact if_pos taken

theorem objection? : e.objection? name = none := by
  rw [Bearer.objection?]
  rcases installs with chosen | ⟨chosen, -, taken⟩
  · rw [chosen]
  · rw [chosen]
    exact if_pos taken

end InstallsProperty

namespace InstallsChoice
variable (installs : e.InstallsChoice name static)
include installs

theorem native? : e.native? name = some "checked" ∧ e.installs name = true := by
  obtain ⟨⟨property, chosen⟩, taken, -⟩ := installs
  obtain ⟨native, installed, -, -⟩ := of_radioValue "" chosen
  rw [native, if_pos taken, installed, taken]
  exact ⟨rfl, rfl⟩

theorem asksChecked (value : String) : e.asksChecked name value = true := by
  obtain ⟨⟨property, chosen⟩, -, present⟩ := installs
  rw [(of_radioValue value chosen).2.2.1, OrderedMap.contains, present]
  rfl

theorem runs (value : String) : e.runs name value =
    [{ event := changeEvent, action := .assignLiteral (Text.trimmed value) static }] := by
  obtain ⟨⟨property, chosen⟩, taken, present⟩ := installs
  rw [(of_radioValue value chosen).2.2.2, if_pos taken, present]
  rfl

theorem stores? (value : String) : e.stores? name value = some ("checked",
    .direct (.ofText (Pass.radioCondition (Text.trimmed value) static)) .plain) := by
  obtain ⟨⟨property, chosen⟩, taken, present⟩ := installs
  rw [Bearer.stores?, chosen, present]
  exact if_pos taken

theorem objection? : e.objection? name = none := by
  obtain ⟨⟨property, chosen⟩, taken, -⟩ := installs
  rw [Bearer.objection?, chosen]
  exact if_pos taken

end InstallsChoice

/-- What is objected to is not installed, stores nothing and lets nothing run. -/
theorem of_objection? (value : String) {problem : Problem}
    (objected : e.objection? name = some problem) :
    e.native? name = none ∧ e.installs name = false ∧ e.stores? name value = none := by
  rw [objection?] at objected
  split at objected
  · next chosen =>
    obtain ⟨native, installed, -, -⟩ := of_radioChecked value chosen
    split at objected
    · cases objected
    · next free => rw [native, installed, stores?, chosen, if_neg free]; simpa using free
  · next chosen =>
    obtain ⟨native, installed, -, -⟩ := of_radioValue value chosen
    split at objected
    · cases objected
    · next free => rw [native, installed, stores?, chosen, if_neg free]; simpa using free
  · next chosen =>
    obtain ⟨native, installed, -⟩ := of_rejected value chosen
    rw [native, installed, stores?, chosen]
    exact ⟨rfl, rfl, rfl⟩
  · cases objected

/-- Of what is natively installed the property is known. -/
theorem mem_known_of_native? (native : e.native? name = some property) :
    property ∈ knownProperties := by
  have checked : "checked" ∈ knownProperties := by decide
  unfold native? at native
  split at native
  · next chosen =>
    obtain ⟨rest, -, chosen⟩ := Option.map_eq_some_iff.1 chosen
    obtain ⟨isProperty, chosen⟩ := Prod.mk.inj chosen
    rw [← Option.some.inj native, ← isProperty]
    exact TwoWay.mem_known_of_native chosen
  · exact Option.some.inj (Option.ite_none_right_eq_some.1 native).2 ▸ checked
  · exact Option.some.inj (Option.ite_none_right_eq_some.1 native).2 ▸ checked
  · cases native

/-- What is natively installed for `checked` asked for it. -/
theorem asksChecked_of_native? (native : e.native? name = some "checked") :
    e.asksChecked name value = true := by
  unfold native? at native
  rw [asksChecked]
  split at native
  · next chosen =>
    rw [chosen]
    exact beq_iff_eq.2 (Option.some.inj native)
  · next chosen =>
    obtain ⟨rest, -, same⟩ := Option.map_eq_some_iff.1 chosen
    obtain ⟨isProperty, choice⟩ := Prod.mk.inj same
    rw [chosen]
    exact beq_iff_eq.2 (isProperty ▸ TwoWay.eq_checked_of_radioChecked choice)
  · next property chosen =>
    have first := (Option.ite_none_right_eq_some.1 native).1
    rw [takesChecked] at first
    cases found : e.attributes.entries.find? fun entry => e.asksChecked entry.1 entry.2 with
    | none =>
        rw [found] at first
        cases first
    | some entry =>
        rw [found, Option.any_some, beq_iff_eq] at first
        have asked : e.asksChecked entry.1 entry.2 = true := by simpa using List.find?_some found
        rw [asksChecked, first, chosen] at asked
        rw [chosen]
        exact asked
  · cases native

theorem asksChecked_of_other (other : Text.after? "bind-" name = none) :
    e.asksChecked name value = (name == "checked" && (e.isComponent || Binding.hasBinding value)) := by
  rw [asksChecked, twoWay?_eq_none other]

/-- What is neither an event nor natively installed lets nothing run. -/
theorem runs_eq_nil (silent : Text.startsWith name "on-" = false)
    (native : e.native? name = none) : e.runs name value = [] := by
  rw [runs, silent, if_neg Bool.false_ne_true]
  rw [native?] at native
  split
  · next chosen =>
    rw [chosen] at native
    cases native
  · next chosen =>
    rw [chosen] at native
    exact if_neg fun taken => by rw [taken] at native; cases native
  · next chosen =>
    rw [chosen] at native
    exact if_neg fun taken => by rw [taken] at native; cases native
  · rfl

theorem runs_of_other (other : Text.after? "bind-" name = none) :
    e.runs name value = if Text.startsWith name "on-" then
      [{ event := Text.camelCased name, action := .inline (Text.trimmed value) }] else [] := by
  rw [runs, twoWay?_eq_none other]

theorem takes_of_other (other : Text.after? "bind-" name = none) (n : String) :
    e.takes n (name, value) =
      (name == n && (Text.startsWith name "on-" || isOwn name && Binding.hasBinding value)) := by
  have none := twoWay?_eq_none (e := e) other
  rw [takes, takesOff, installs_eq_false none, native?_eq_none none, Option.any_none,
    Bool.and_false, Bool.or_false, Bool.or_false]

/-- The first attribute that asks for `checked` has none before it that does. -/
theorem takesChecked_eq (entries : e.attributes.entries = before ++ (name, value) :: after)
    (distinct : OrderedMap.Distinct e.attributes.entries) :
    e.takesChecked name =
      (e.asksChecked name value && !before.any fun entry => e.asksChecked entry.1 entry.2) := by
  rw [entries] at distinct
  have earlier (entry : String × String) (member : entry ∈ before) : (entry.1 == name) = false :=
    OrderedMap.not_beq_of_distinct distinct member
  have later (entry : String × String) (member : entry ∈ after) : (entry.1 == name) = false := by
    rw [BEq.comm]
    exact (List.pairwise_cons.1 (List.pairwise_append.1 distinct).2.1).1 entry member
  rw [takesChecked, entries, List.find?_append, List.find?_cons]
  cases first : before.find? fun entry => e.asksChecked entry.1 entry.2 with
  | some entry =>
      have asked : before.any (fun entry => e.asksChecked entry.1 entry.2) = true :=
        List.any_eq_true.2 ⟨entry, List.mem_of_find?_eq_some first, by
          simpa using List.find?_some first⟩
      rw [asked, Option.some_or, Option.any_some, earlier entry (List.mem_of_find?_eq_some first)]
      simp
  | none =>
      have unasked : before.any (fun entry => e.asksChecked entry.1 entry.2) = false := by
        simpa using List.find?_eq_none.1 first
      rw [unasked, Option.none_or]
      cases e.asksChecked name value with
      | true => simp
      | false =>
          simp only [Bool.false_and]
          cases found : after.find? fun entry => e.asksChecked entry.1 entry.2 with
          | none => rfl
          | some entry => exact later entry (List.mem_of_find?_eq_some found)

/-- What takes an attribute off is itself, or a native property that takes its place. -/
theorem any_takes (distinct : OrderedMap.Distinct e.attributes.entries)
    (member : (name, value) ∈ e.attributes.entries) :
    e.attributes.entries.any (e.takes name) = (e.takesOff name value || e.shadows name) := by
  have found : e.attributes.contains name = true := by
    rw [OrderedMap.contains, OrderedMap.find?_of_mem distinct member]
    rfl
  rw [Bool.eq_iff_iff, Bool.or_eq_true, List.any_eq_true, shadows, List.any_eq_true]
  constructor
  · rintro ⟨entry, member', taken⟩
    rw [takes, found, Bool.true_and, Bool.or_eq_true, Bool.and_eq_true] at taken
    refine taken.imp (fun own => ?_) fun shadow => ⟨entry, member', shadow⟩
    obtain rfl := OrderedMap.eq_of_distinct distinct member' member own.1
    exact own.2
  · rintro (own | ⟨entry, member', shadow⟩)
    · refine ⟨_, member, ?_⟩
      rw [takes, own, beq_self_eq_true, Bool.and_true, Bool.true_or]
    · refine ⟨entry, member', ?_⟩
      rw [takes, found, shadow, Bool.true_and, Bool.or_true]

theorem after?_of_directive (directive : directiveNames.contains name = true) :
    Text.after? "bind-" name = none := by
  cases twoWay : Text.after? "bind-" name with
  | none => rfl
  | some rest => exact nomatch (of_after twoWay).1.symm.trans directive

theorem after?_of_event (event : Text.startsWith name "on" = true) :
    Text.after? "bind-" name = none := by
  cases twoWay : Text.after? "bind-" name with
  | none => rfl
  | some rest => exact nomatch (of_after twoWay).2.1.symm.trans event

theorem event_of_handler (handler : Text.startsWith name "on-" = true) :
    Text.startsWith name "on" = true := by
  rw [Text.startsWith, Text.after?, Option.isSome_map, Option.isSome_iff_exists] at handler ⊢
  obtain ⟨rest, found⟩ := handler
  refine ⟨'-' :: rest, Text.afterLead?_eq_some.2 ?_⟩
  rw [← Text.afterLead?_eq_some.1 found]
  rfl

/-- Attributes that have the name of a native property are bound under their own name. -/
theorem of_lowered (known : property ∈ knownProperties) :
    Text.after? "bind-" (Text.lowered property) = none ∧
      Text.startsWith (Text.lowered property) "on-" = false ∧
      (Text.lowered property = "checked" → property = "checked") := by
  have all : ∀ property ∈ knownProperties, Text.after? "bind-" (Text.lowered property) = none ∧
      Text.startsWith (Text.lowered property) "on-" = false ∧
      (Text.lowered property = "checked" → property = "checked") := by decide
  exact all property known

end Bearer

end ComponentMarkup
