import ComponentMarkup.Proofs.Annotated.Bearer
import ComponentMarkup.Proofs.Annotated.Charged

/-!
Reading the attributes of an element one by one, each of which takes off the element and adds to its
handlers what it says.
-/

namespace ComponentMarkup

/-- What is asked of one name only need be known for that. -/
theorem beq_and_congr {name other : String} {p q : Bool} (same : name = other → p = q) :
    (name == other && p) = (name == other && q) := by
  by_cases equal : name = other
  · rw [same equal]
  · rw [beq_eq_false_iff_ne.2 equal, Bool.false_and, Bool.false_and]

namespace Pass
variable {s t u : Pass} {id : AnnotatedId} {node : NodeId} {name other : String}

/-! ## Single changes -/

theorem isStripped_strip {a : AnnotatedNode} (found : s.annotations.get? id = some a)
    (name other : String) :
    (s.strip id name).isStripped id other = (s.isStripped id other || name == other) := by
  by_cases same : name = other
  · subst same
    rw [isStripped_strip_self s id found, beq_self_eq_true, Bool.or_true]
  · rw [isStripped_strip_of_ne s id same, beq_eq_false_iff_ne.2 same, Bool.or_false]

/-- The annotation is there and no text, so that it takes bindings. -/
def Holds (s : Pass) (id : AnnotatedId) : Prop :=
  ∃ a, s.annotations.get? id = some a ∧ a.isText = false

theorem Holds.edits (holds : s.Holds id) (edits : Edits id node s t) : t.Holds id := by
  obtain ⟨a, found, element⟩ := holds
  obtain ⟨g, f, reports, revision, -, rfl⟩ := edits.exists_update
  exact ⟨g a, AnnotatedTree.get?_update_self _ _ found, (revision.isText a).trans element⟩

/-- The bindings of an annotation. -/
def bindings? (s : Pass) (id : AnnotatedId) : Option Bindings :=
  (s.annotations.get? id).bind AnnotatedNode.bindings?

/-- What an event runs. -/
def handlersOf (s : Pass) (id : AnnotatedId) (event : String) : List Binding.Handler :=
  ((s.bindings? id).bind (·.handlers.find? event)).getD []

theorem hasBinding_eq (s : Pass) (id : AnnotatedId) (name : String) :
    s.hasBinding id name = (s.bindings? id).any (·.attributes.contains name) := by
  rw [hasBinding, bindings?]
  cases (s.annotations.get? id).bind AnnotatedNode.bindings? <;> rfl

theorem Holds.exists_bindings (holds : s.Holds id) : ∃ b, s.bindings? id = some b := by
  obtain ⟨a, found, element⟩ := holds
  rw [bindings?, found, Option.bind_some]
  cases a using AnnotatedNode.byKind with
  | element a bindings => exact ⟨bindings, rfl⟩
  | structural a directive bindings content => exact ⟨bindings, rfl⟩
  | text a binding => cases element

theorem bindings?_update {f : AnnotatedNode → AnnotatedNode} {g : Bindings → Bindings}
    (same : ∀ a, (f a).bindings? = a.bindings?.map g) :
    (s.update id f).bindings? id = (s.bindings? id).map g := by
  rw [bindings?, bindings?, annotations_update, AnnotatedTree.get?_update, if_pos rfl]
  cases s.annotations.get? id with
  | none => rfl
  | some a => exact same a

theorem bindings?_update_of_eq {f : AnnotatedNode → AnnotatedNode}
    (same : ∀ a, (f a).bindings? = a.bindings?) : (s.update id f).bindings? id = s.bindings? id := by
  rw [bindings?, bindings?, annotations_update, AnnotatedTree.get?_update, if_pos rfl]
  cases s.annotations.get? id with
  | none => rfl
  | some a => exact same a

@[simp] theorem bindings?_strip (name : String) :
    (s.strip id name).bindings? id = s.bindings? id :=
  bindings?_update_of_eq fun _ => rfl

theorem bindings?_mapBindings (f : Bindings → Bindings) :
    (s.mapBindings id f).bindings? id = (s.bindings? id).map f := by
  refine bindings?_update fun a => ?_
  cases a using AnnotatedNode.byKind <;> rfl

theorem bindings?_bind (name : String) (binding : Binding.Attribute) :
    (s.bind id name binding).bindings? id = (s.bindings? id).map fun b =>
      { b with attributes := b.attributes.insert name binding } := by
  refine bindings?_update fun a => ?_
  cases a using AnnotatedNode.byKind <;> rfl

/-! ## What single changes take -/

/-- From `s` to `t` the annotation `id` was bound to `checked` if `asks` says so, was stripped of the
names that `takes` says and got the handlers `runs`. -/
structure Takes (id : AnnotatedId) (asks : Bool) (takes : String → Bool)
    (runs : List Binding.Handler) (s t : Pass) : Prop where
  checked : t.hasBinding id "checked" = (s.hasBinding id "checked" || asks)
  stripped : ∀ name, t.isStripped id name = (s.isStripped id name || takes name)
  handled : ∀ event, t.handlersOf id event = s.handlersOf id event ++ runs.filter (·.event == event)

namespace Takes
variable {asks asks' : Bool} {takes takes' : String → Bool} {runs runs' : List Binding.Handler}

/-- What has been taken before need not be taken again. -/
theorem of_eq (bound : t.bindings? id = s.bindings? id)
    (left : ∀ name, t.isStripped id name = s.isStripped id name)
    (checked : asks = true → s.hasBinding id "checked" = true)
    (stripped : ∀ name, takes name = true → s.isStripped id name = true) :
    Takes id asks takes [] s t where
  checked := by
    rw [hasBinding_eq, bound, ← hasBinding_eq]
    cases asks with
    | false => rw [Bool.or_false]
    | true => rw [checked rfl, Bool.true_or]
  stripped name := by
    rw [left]
    cases taken : takes name with
    | false => rw [Bool.or_false]
    | true => rw [stripped name taken, Bool.true_or]
  handled event := by rw [handlersOf, bound, List.filter_nil, List.append_nil, handlersOf]

theorem nothing (bound : t.bindings? id = s.bindings? id)
    (left : ∀ name, t.isStripped id name = s.isStripped id name) :
    Takes id false (fun _ => false) [] s t :=
  .of_eq bound left nofun fun _ => nofun

theorem trans (first : Takes id asks takes runs s t) (second : Takes id asks' takes' runs' t u) :
    Takes id (asks || asks') (fun name => takes name || takes' name) (runs ++ runs') s u where
  checked := by rw [second.checked, first.checked, Bool.or_assoc]
  stripped name := by rw [second.stripped, first.stripped, Bool.or_assoc]
  handled event := by rw [second.handled, first.handled, List.filter_append, List.append_assoc]

theorem congr (taken : Takes id asks takes runs s t) (asked : asks' = asks)
    (same : ∀ name, takes' name = takes name) (handlers : runs' = runs) :
    Takes id asks' takes' runs' s t where
  checked := by rw [taken.checked, asked]
  stripped name := by rw [taken.stripped, same]
  handled event := by rw [taken.handled, handlers]

theorem report (s : Pass) (problem : Problem) (node : NodeId) :
    Takes id false (fun _ => false) [] s (s.report problem node) :=
  .nothing rfl fun _ => rfl

theorem handle (holds : s.Holds id) (event : String) (action : Binding.Action) :
    Takes id false (fun _ => false) [{ event, action }] s (s.handle id event action) := by
  obtain ⟨b, bound⟩ := holds.exists_bindings
  have added : (s.handle id event action).bindings? id = some (b.addHandler event action) := by
    rw [Pass.handle, bindings?_mapBindings, bound, Option.map_some]
  refine ⟨?_, fun name => ?_, fun other => ?_⟩
  · rw [hasBinding_eq, hasBinding_eq, added, bound, Bool.or_false]
    rfl
  · rw [isStripped_handle, Bool.or_false]
  · rw [handlersOf, handlersOf, added, bound, Option.bind_some, Option.bind_some,
      Bindings.addHandler, OrderedMap.find?_insert]
    by_cases same : event = other
    · rw [same, beq_self_eq_true, if_pos rfl, Option.getD_some, List.filter_singleton,
        beq_self_eq_true]
      rfl
    · rw [beq_eq_false_iff_ne.2 same, if_neg Bool.false_ne_true, List.filter_singleton,
        beq_eq_false_iff_ne.2 same]
      exact (List.append_nil _).symm

theorem strip (holds : s.Holds id) (name : String) :
    Takes id false (name == ·) [] s (s.strip id name) where
  checked := by rw [hasBinding_eq, bindings?_strip, ← hasBinding_eq, Bool.or_false]
  stripped other := by
    obtain ⟨a, found, -⟩ := holds
    exact isStripped_strip found name other
  handled event := by rw [handlersOf, bindings?_strip, List.filter_nil, List.append_nil, handlersOf]

theorem bind (holds : s.Holds id) (name : String) (binding : Binding.Attribute) :
    Takes id (name == "checked") (fun _ => false) [] s (s.bind id name binding) := by
  obtain ⟨b, bound⟩ := holds.exists_bindings
  have added : (s.bind id name binding).bindings? id =
      some { b with attributes := b.attributes.insert name binding } := by
    rw [bindings?_bind, bound, Option.map_some]
  refine ⟨?_, fun other => ?_, fun event => ?_⟩
  · rw [hasBinding_eq, hasBinding_eq, added, bound, Option.any_some, Option.any_some,
      OrderedMap.contains, OrderedMap.contains, OrderedMap.find?_insert]
    cases name == "checked" with
    | true => rw [if_pos rfl, Bool.or_true]; rfl
    | false => rw [if_neg Bool.false_ne_true, Bool.or_false]
  · rw [isStripped_bind, Bool.or_false]
  · rw [handlersOf, handlersOf, added, bound, List.filter_nil, List.append_nil]
    rfl

theorem shadow (holds : s.Holds id) (node : NodeId) (property : String) :
    Takes id false
      (fun name => s.document.hasAttribute node name && Text.lowered property == name) [] s
      (s.shadow id node property) := by
  unfold Pass.shadow
  dsimp only
  split
  · next has =>
    refine ((report s _ node).trans (strip (holds.edits (.report .refl _)) _)).congr rfl
      (fun name => ?_) rfl
    rw [Bool.false_or]
    by_cases same : Text.lowered property = name
    · rw [← same, has, Bool.true_and]
    · rw [beq_eq_false_iff_ne.2 same, Bool.and_false]
  · next lacks =>
    refine (nothing rfl fun _ => rfl).congr rfl (fun name => ?_) rfl
    by_cases same : Text.lowered property = name
    · rw [← same, Bool.eq_false_iff.2 lacks, Bool.false_and]
    · rw [beq_eq_false_iff_ne.2 same, Bool.and_false]

/-- Installing a binding for a property takes the attribute of that name off. -/
theorem install (holds : s.Holds id) (node : NodeId) (property expr event : String)
    (action : Binding.Action) (name : String) :
    Takes id (property == "checked")
      (fun other => s.document.hasAttribute node other && Text.lowered property == other ||
        name == other) [{ event, action }]
      s ((s.install id node property expr event action).strip id name) := by
  have shadowed : Edits id node s (s.shadow id node property) := Edits.refl.shadow property
  have bound := shadowed.bind property (.direct (.ofText expr) .plain)
  have installed : Edits id node s (s.install id node property expr event action) :=
    Edits.refl.install _ _ _ _
  refine ((((shadow holds node property).trans (bind (holds.edits shadowed) _ _)).trans
    (handle (holds.edits bound) event action)).trans
      (strip (holds.edits installed) name)).congr ?_ (fun other => ?_) rfl
  · rw [Bool.false_or, Bool.or_false, Bool.or_false]
  · rw [Bool.or_false, Bool.or_false]

theorem bindEvent (holds : s.Holds id) (node : NodeId) (name value : String) :
    Takes id false (fun n => name == n && Text.startsWith name "on-")
      (if Text.startsWith name "on-" then
        [{ event := Text.camelCased name, action := .inline (Text.trimmed value) }] else []) s
      (s.bindEvent id node name value) := by
  unfold Pass.bindEvent
  cases Text.startsWith name "on-" with
  | true =>
      rw [if_pos rfl]
      have handled : Edits id node s (s.handle id (Text.camelCased name)
        (.inline (Text.trimmed value))) := Edits.refl.handle _ _
      refine ((handle holds _ _).trans (strip (holds.edits handled) name)).congr rfl (fun n => ?_) rfl
      rw [Bool.and_true, Bool.false_or]
  | false =>
      rw [if_neg Bool.false_ne_true]
      exact (report s _ node).congr rfl (fun n => Bool.and_false _) rfl

theorem bindStyle (holds : s.Holds id) (value : String) :
    Takes id false (fun n => "style" == n && Binding.hasBinding value) [] s
      (s.bindStyle id value) := by
  unfold Pass.bindStyle
  dsimp only
  rw [Binding.isEmpty_bound_scan]
  cases Binding.hasBinding value with
  | true =>
      have bound : Edits id 0 s (s.bind id "style" (.ofSegments (Binding.scan value) .css)) :=
        Edits.refl.bind _ _
      refine ((bind holds "style" _).trans (strip (holds.edits bound) "style")).congr rfl
        (fun n => ?_) rfl
      rw [Bool.and_true, Bool.false_or]
  | false => exact (nothing rfl fun _ => rfl).congr rfl (fun n => Bool.and_false _) rfl

theorem bindClass (holds : s.Holds id) (node : NodeId) (value : String) :
    Takes id false (fun _ => false) [] s (s.bindClass id node value) := by
  unfold Pass.bindClass
  dsimp only
  split
  · exact .nothing rfl fun _ => rfl
  · generalize written_eq : s.mapDocument _ = written
    have same : Takes id false (fun _ => false) [] s written := written_eq ▸ .nothing rfl fun _ => rfl
    have holds' : written.Holds id := written_eq ▸ holds
    exact same.trans (bind holds' "class" _)

theorem bindGeneric (holds : s.Holds id) (name value : String) :
    Takes id (name == "checked" && ((s.component? id).isSome || Binding.hasBinding value))
      (fun n => name == n && Binding.hasBinding value) [] s (s.bindGeneric id name value) := by
  unfold Pass.bindGeneric
  dsimp only
  rw [Binding.isEmpty_bound_scan]
  cases Binding.hasBinding value with
  | true =>
      have bound : Edits id 0 s (s.bind id name (.ofSegments (Binding.scan value) .plain)) :=
        Edits.refl.bind _ _
      refine ((bind holds name _).trans (strip (holds.edits bound) name)).congr ?_ (fun n => ?_) rfl
      · rw [Bool.or_true, Bool.and_true, Bool.or_false]
      · rw [Bool.and_true, Bool.false_or]
  | false =>
      rw [Bool.not_false, if_pos rfl]
      split
      · next input =>
        rw [Bool.and_eq_true, Bool.and_eq_true] at input
        refine (bind holds name _).congr ?_ (fun n => Bool.and_false _) rfl
        rw [input.1.1, Bool.true_or, Bool.and_true]
      · next noInput =>
        refine (nothing rfl fun _ => rfl).congr ?_ (fun n => Bool.and_false _) rfl
        by_cases isChecked : name = "checked"
        · have input : (!Tag.isGlobalAttribute name && name != "is") = true := by
            rw [isChecked]
            decide
          rw [Bool.and_assoc, input, Bool.and_true] at noInput
          rw [Bool.eq_false_iff.2 noInput, Bool.or_false, Bool.and_false]
        · rw [beq_eq_false_iff_ne.2 isChecked, Bool.false_and]

end Takes

/-! ## What attributes take -/

/-- The attributes `done` of the element `e` at `node` have been read for the annotation `id`, which
had been stripped of what `begun` says before. -/
structure HasRead (e : Bearer) (node : NodeId) (id : AnnotatedId) (begun : String → Bool)
    (done : List (String × String)) (s : Pass) : Prop where
  holds : s.Holds id
  tag : s.document.tag? node = some e.tag
  held : ∀ name, name ≠ "class" → s.document.attribute? node name = e.attributes.find? name
  component : (s.component? id).isSome = e.isComponent
  checked : s.hasBinding id "checked" = done.any fun entry => e.asksChecked entry.1 entry.2
  stripped : ∀ name, s.isStripped id name = (begun name || done.any (e.takes name))
  handled : ∀ event, s.handlersOf id event =
    (done.flatMap fun entry => e.runs entry.1 entry.2).filter (·.event == event)

/-- What reading the two-way attribute `name` of `e` comes to. -/
inductive Outcome (e : Bearer) (node : NodeId) (id : AnnotatedId) (name value : String) (s : Pass) :
    Pass → Prop where
  | property {property event : String} (installs : e.InstallsProperty name property event) :
      Outcome e node id name value s ((s.install id node property (Text.trimmed value) event
        (.assignProperty (Text.trimmed value) property)).strip id name)
  | choice {static : String} (installs : e.InstallsChoice name static) :
      Outcome e node id name value s ((s.install id node "checked"
        (radioCondition (Text.trimmed value) static) changeEvent
        (.assignLiteral (Text.trimmed value) static)).strip id name)
  | input {property : String} (chosen : e.twoWay? name = some (property, .component)) :
      Outcome e node id name value s
        ((s.bind id property (.direct (.ofText (Text.trimmed value)) .twoWay)).strip id name)
  | refused {problem : Problem} (objected : e.objection? name = some problem)
      (taken : e.asksChecked name value = true → s.hasBinding id "checked" = true) :
      Outcome e node id name value s (s.report problem node)

namespace HasRead
variable {e : Bearer} {begun : String → Bool} {done rest : List (String × String)}
  {value : String}

theorem type_eq (read : HasRead e node id begun done s) :
    Text.lowered (Text.trimmed ((s.document.attribute? node "type").getD "")) = e.type := by
  rw [read.held "type" (by decide), Bearer.type]

theorem hasAttribute (read : HasRead e node id begun done s) (other : name ≠ "class") :
    s.document.hasAttribute node name = e.attributes.contains name := by
  rw [Document.hasAttribute, read.held name other, OrderedMap.contains]

/-- A native installation takes off the two-way attribute and the one that it takes the place
of. -/
theorem install_takes (read : HasRead e node id begun done s) {property : String}
    (expr event : String) (action : Binding.Action) (native : e.native? name = some property)
    (installed : e.installs name = true) (runs : e.runs name value = [{ event, action }]) :
    Takes id (property == "checked") (e.takes · (name, value)) (e.runs name value) s
      ((s.install id node property expr event action).strip id name) := by
  have known := Bearer.mem_known_of_native? native
  refine (Takes.install read.holds node property expr event action name).congr rfl
    (fun other => ?_) runs
  have off : e.takesOff name value = true := by
    rw [Bearer.takesOff, installed, Bool.or_true, Bool.true_or]
  have has : (Text.lowered property == other && e.attributes.contains other) =
      (Text.lowered property == other && s.document.hasAttribute node other) :=
    beq_and_congr fun same =>
      (read.hasAttribute (same ▸ TwoWay.lowered_ne_class_of_known known)).symm
  rw [Bearer.takes, native, Option.any_some, off, Bool.and_true, Bool.and_comm, has, Bool.and_comm,
    Bool.or_comm]

section Step
variable (read : HasRead e node id begun done s)
  (entries : e.attributes.entries = done ++ (name, value) :: rest)
  (distinct : OrderedMap.Distinct e.attributes.entries)
include read entries distinct

/-- Both ways to bind a radio button are for `checked`, which the first one takes. -/
theorem takesChecked_eq (asks : e.asksChecked name value = true) :
    e.takesChecked name = !s.hasBinding id "checked" := by
  rw [Bearer.takesChecked_eq entries distinct, asks, Bool.true_and, read.checked]

theorem outcome {hyphenated : String} (twoWay : Text.after? "bind-" name = some hyphenated) :
    Outcome e node id name value s
      (s.bindTwoWay id node name (canonicalProperty hyphenated) value) := by
  have chosen : e.twoWay? name = some (canonicalProperty hyphenated, TwoWay.choose e.tag e.type
      (canonicalProperty hyphenated) name e.isComponent) := by
    rw [Bearer.twoWay?, twoWay, Option.map_some]
  unfold bindTwoWay
  dsimp only
  rw [read.tag, read.type_eq, read.component, Option.getD_some]
  generalize canonicalProperty hyphenated = property at *
  cases choice : TwoWay.choose e.tag e.type property name e.isComponent with
  | native event =>
      rw [choice] at chosen
      exact .property (.inl chosen)
  | radioChecked =>
      rw [choice] at chosen
      obtain rfl := TwoWay.eq_checked_of_radioChecked choice
      have takes := read.takesChecked_eq entries distinct (Bearer.of_radioChecked value chosen).2.2.1
      dsimp only
      split
      · next taken =>
        refine .refused ?_ fun _ => taken
        rw [Bearer.objection?, chosen, takes, taken]
        rfl
      · next free =>
        refine .property (.inr ⟨chosen, rfl, ?_⟩)
        rw [takes, Bool.eq_false_iff.2 free]
        rfl
  | radioValue =>
      rw [choice] at chosen
      have asks := (Bearer.of_radioValue value chosen).2.2.1
      have held := read.held "value" (by decide)
      rw [OrderedMap.contains, ← held] at asks
      dsimp only
      split
      · next absent =>
        rw [absent] at asks held
        have free : e.takesChecked name = false := by
          rw [Bearer.takesChecked_eq entries distinct, asks]
          rfl
        refine .refused ?_ fun asked => ?_
        · rw [Bearer.objection?, chosen, free, OrderedMap.contains, ← held]
          rfl
        · rw [asks] at asked
          cases asked
      · next static present =>
        rw [present] at asks held
        have takes := read.takesChecked_eq entries distinct asks
        split
        · next taken =>
          refine .refused ?_ fun _ => taken
          rw [Bearer.objection?, chosen, takes, taken, OrderedMap.contains, ← held]
          rfl
        · next free =>
          refine .choice ⟨⟨property, chosen⟩, ?_, held.symm⟩
          rw [takes, Bool.eq_false_iff.2 free]
          rfl
  | component =>
      rw [choice] at chosen
      exact .input chosen
  | rejected problem =>
      rw [choice] at chosen
      refine .refused ?_ fun asked => ?_
      · rw [Bearer.objection?, chosen]
      · rw [(Bearer.of_rejected value chosen).2.2] at asked
        cases asked

theorem bindTwoWay_takes {hyphenated : String} (twoWay : Text.after? "bind-" name = some hyphenated) :
    Takes id (e.asksChecked name value) (e.takes · (name, value)) (e.runs name value) s
      (s.bindTwoWay id node name (canonicalProperty hyphenated) value) := by
  obtain ⟨-, -, silent, -, -⟩ := Bearer.of_after twoWay
  have outcome := read.outcome entries distinct twoWay
  generalize s.bindTwoWay id node name (canonicalProperty hyphenated) value = t at *
  cases outcome with
  | property installs =>
      rw [installs.asksChecked]
      exact read.install_takes _ _ _ installs.native?.1 installs.native?.2 (installs.runs value)
  | choice installs =>
      rw [installs.asksChecked]
      exact read.install_takes _ _ _ installs.native?.1 installs.native?.2 (installs.runs value)
  | @input property chosen =>
      obtain ⟨native, installed, asks⟩ := Bearer.of_component value chosen
      have bound : Edits id node s
        (s.bind id property (.direct (.ofText (Text.trimmed value)) .twoWay)) := Edits.refl.bind _ _
      refine ((Takes.bind read.holds _ _).trans (.strip (read.holds.edits bound) name)).congr ?_
        (fun other => ?_) (Bearer.runs_eq_nil silent native)
      · rw [asks, Bool.or_false]
      · rw [Bearer.takes, native, Bearer.takesOff, installed, Bool.or_true, Bool.true_or,
          Bool.and_true, Option.any_none, Bool.and_false, Bool.or_false, Bool.false_or]
  | refused objected taken =>
      obtain ⟨native, out, -⟩ := Bearer.of_objection? value objected
      rw [Bearer.runs_eq_nil silent native]
      refine .of_eq rfl (fun _ => rfl) taken fun other takes => ?_
      rw [Bearer.takes, Bearer.takesOff_of_twoWay twoWay, native, out] at takes
      simp at takes

omit entries distinct in
/-- What is stripped before its turn, a directive apart, is the attribute of a property that is
natively bound. -/
theorem shadowed (apart : ∀ entry ∈ done, entry.1 ≠ name)
    (steering : ∀ name, begun name = true → directiveNames.contains name = true)
    (bindable : directiveNames.contains name = false) (stripped : s.isStripped id name = true) :
    ∃ entry ∈ done, ∃ property ∈ knownProperties, e.native? entry.1 = some property ∧
      Text.lowered property = name := by
  rw [read.stripped, Bool.or_eq_true] at stripped
  rcases stripped with begun | taken
  · rw [steering name begun] at bindable
    cases bindable
  · obtain ⟨entry, member, takes⟩ := List.any_eq_true.1 taken
    rw [Bearer.takes, beq_eq_false_iff_ne.2 (apart entry member), Bool.false_and, Bool.false_or,
      Bool.and_eq_true] at takes
    cases native : e.native? entry.1 with
    | none =>
        rw [native] at takes
        cases takes.2
    | some property =>
        rw [native, Option.any_some, beq_iff_eq] at takes
        exact ⟨entry, member, property, Bearer.mem_known_of_native? native, native, takes.2⟩

/-- Nothing keeps a two-way attribute from being read. -/
theorem bindAttribute_eq
    (steering : ∀ name, begun name = true → directiveNames.contains name = true)
    {hyphenated : String} (twoWay : Text.after? "bind-" name = some hyphenated) :
    bindAttribute id node s name value =
      s.bindTwoWay id node name (canonicalProperty hyphenated) value := by
  obtain ⟨directive, silent, -, -, -⟩ := Bearer.of_after twoWay
  have apart (entry : String × String) (member : entry ∈ done) : entry.1 ≠ name :=
    beq_eq_false_iff_ne.1 (OrderedMap.not_beq_of_distinct (entries ▸ distinct) member)
  have unstripped : s.isStripped id name = false := by
    rw [Bool.eq_false_iff]
    intro stripped
    obtain ⟨entry, member, property, known, native, isName⟩ :=
      read.shadowed apart steering directive stripped
    rw [← isName, (Bearer.of_lowered known).1] at twoWay
    cases twoWay
  unfold bindAttribute
  rw [directive, unstripped, silent, twoWay]
  rfl

/-- Reading one more attribute takes what that attribute says, or there is nothing left to take. -/
theorem bindAttribute_takes
    (steering : ∀ name, begun name = true → directiveNames.contains name = true) :
    Takes id (e.asksChecked name value) (e.takes · (name, value)) (e.runs name value) s
      (bindAttribute id node s name value) := by
  unfold bindAttribute
  cases directive : directiveNames.contains name with
  | true =>
      have other := Bearer.after?_of_directive directive
      have noEvent : ∀ name ∈ directiveNames, Text.startsWith name "on-" = false := by decide
      have silent := noEvent name (List.contains_iff_mem.1 directive)
      rw [Bearer.runs_of_other other, silent, if_neg Bool.false_ne_true]
      refine .of_eq rfl (fun _ => rfl) (fun asked => ?_) fun n taken => ?_
      · rw [Bearer.asksChecked_of_other other, Bool.and_eq_true, beq_iff_eq] at asked
        rw [asked.1] at directive
        cases directive
      · rw [Bearer.takes_of_other other, silent, Bearer.isOwn, directive] at taken
        simp at taken
  | false =>
      rw [Bool.false_or]
      split
      · next stripped =>
        have apart (entry : String × String) (member : entry ∈ done) : entry.1 ≠ name :=
          beq_eq_false_iff_ne.1 (OrderedMap.not_beq_of_distinct (entries ▸ distinct) member)
        obtain ⟨entry, member, property, known, native, isName⟩ :=
          read.shadowed apart steering directive stripped
        obtain ⟨other, silent, isChecked⟩ := Bearer.of_lowered known
        rw [isName] at other silent isChecked
        rw [Bearer.runs_of_other other, silent, if_neg Bool.false_ne_true]
        refine .of_eq rfl (fun _ => rfl) (fun asked => ?_) fun n taken => ?_
        · rw [Bearer.asksChecked_of_other other, Bool.and_eq_true, beq_iff_eq] at asked
          rw [read.checked]
          refine List.any_eq_true.2 ⟨entry, member, Bearer.asksChecked_of_native? ?_⟩
          rw [native, isChecked asked.1]
        · rw [Bearer.takes_of_other other, Bool.and_eq_true, beq_iff_eq] at taken
          rw [← taken.1]
          exact stripped
      · split
        · next event =>
          have other := Bearer.after?_of_event event
          refine (Takes.bindEvent read.holds node name value).congr ?_ (fun n => ?_)
            (Bearer.runs_of_other other)
          · rw [Bearer.asksChecked_of_other other, beq_eq_false_iff_ne.2, Bool.false_and]
            rintro rfl
            cases event
          · rw [Bearer.takes_of_other other, Bearer.isOwn, event]
            simp
        · next silent =>
          split
          · next hyphenated twoWay => exact read.bindTwoWay_takes entries distinct twoWay
          · next other =>
            have asks : e.asksChecked name value =
                (name == "checked" && (e.isComponent || Binding.hasBinding value)) :=
              Bearer.asksChecked_of_other other
            have takes (n : String) : e.takes n (name, value) =
                (name == n &&
                  (Text.startsWith name "on-" || Bearer.isOwn name && Binding.hasBinding value)) :=
              Bearer.takes_of_other other n
            have noHandler : Text.startsWith name "on-" = false :=
              Bool.eq_false_iff.2 fun handler => silent (Bearer.event_of_handler handler)
            have runs : e.runs name value = [] := by
              rw [Bearer.runs_of_other other, noHandler, if_neg Bool.false_ne_true]
            split
            · next isStyle =>
              subst isStyle
              exact (Takes.bindStyle read.holds value).congr asks takes runs
            · split
              · next isClass =>
                subst isClass
                refine (Takes.bindClass read.holds node value).congr asks (fun n => ?_) runs
                exact (takes n).trans (Bool.and_false _)
              · next notClass =>
                have unbound : Text.startsWith name "bind-" = false := by
                  rw [Text.startsWith, other]
                  rfl
                have own : Bearer.isOwn name = true := by
                  rw [Bearer.isOwn, directive, Bool.eq_false_iff.2 silent, unbound,
                    bne_iff_ne.2 notClass]
                  rfl
                refine (Takes.bindGeneric read.holds name value).congr ?_ (fun n => ?_) runs
                · rw [asks, read.component]
                · rw [takes, noHandler, own, Bool.false_or, Bool.true_and]

theorem step (steering : ∀ name, begun name = true → directiveNames.contains name = true) :
    HasRead e node id begun (done ++ [(name, value)]) (bindAttribute id node s name value) := by
  have edits : Edits id node s (bindAttribute id node s name value) :=
    Edits.refl.bindAttribute name value
  have taken := read.bindAttribute_takes entries distinct steering
  obtain ⟨f, others, written⟩ := edits.document
  refine ⟨read.holds.edits edits, ?_, fun other notClass => ?_, ?_, ?_, fun other => ?_,
    fun event => ?_⟩
  · rw [written, Document.tag?_mapAttributes, read.tag]
  · rw [written, s.document.attribute?_mapAttributes node node f fun attributes =>
      others attributes other notClass, read.held other notClass]
  · rw [edits.quiet.bound, read.component]
  · rw [taken.checked, read.checked, List.any_append, List.any_cons, List.any_nil, Bool.or_false]
  · rw [taken.stripped, read.stripped, List.any_append, List.any_cons, List.any_nil, Bool.or_false,
      Bool.or_assoc]
  · rw [taken.handled, read.handled, List.flatMap_append, List.flatMap_singleton, List.filter_append]

end Step

theorem foldl (distinct : OrderedMap.Distinct e.attributes.entries)
    (steering : ∀ name, begun name = true → directiveNames.contains name = true)
    (later : List (String × String)) (entries : e.attributes.entries = done ++ rest ++ later)
    (read : HasRead e node id begun done s) :
    HasRead e node id begun (done ++ rest)
      (rest.foldl (fun s entry => bindAttribute id node s entry.1 entry.2) s) := by
  induction rest generalizing done s with
  | nil =>
      rw [List.append_nil]
      exact read
  | cons entry rest ih =>
      rw [List.append_assoc] at entries
      have next := ih
        (show e.attributes.entries = done ++ [entry] ++ rest ++ later by rw [entries]; simp)
        (read.step entries distinct steering)
      rwa [List.append_assoc] at next

/-- Reading all attributes takes off what each of them says. -/
theorem all (distinct : OrderedMap.Distinct e.attributes.entries)
    (steering : ∀ name, begun name = true → directiveNames.contains name = true)
    (present : s.document.attributes? node = some e.attributes)
    (read : HasRead e node id begun [] s) :
    HasRead e node id begun e.attributes.entries (s.bindAttributes id node) := by
  rw [bindAttributes, present]
  exact read.foldl distinct steering [] (List.append_nil _).symm

end HasRead
end Pass
end ComponentMarkup
