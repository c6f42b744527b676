import ComponentMarkup.Proofs.Annotated.Stripping

/-!
What is stored for the attributes of an element that are not two-way, and what is reported about them.
Each of them is for its own name alone, so that without two-way attributes their order plays no part.

What is stored when several attributes of an element are bound under one name: the binding of the
last one, as each of them replaces what is there.
-/

namespace ComponentMarkup

/-- What an attribute that is not two-way binds under its name. -/
def Bearer.boundAs (name value : String) : Option Binding.Attribute :=
  if directiveNames.contains name || Text.startsWith name "on" || Text.startsWith name "bind-" ||
      !Binding.hasBinding value then none
  else if name = "style" then some (.ofSegments (Binding.scan value) .css)
  else if name = "class" then
    some { exprs := (Binding.scan value).exprs, literals := none, style := .classTokens }
  else some (.ofSegments (Binding.scan value) .plain)

namespace Bearer
variable {name value : String}

theorem boundAs_of_directive (directive : directiveNames.contains name = true) :
    boundAs name value = none := by
  rw [boundAs, directive]
  rfl

theorem boundAs_of_twoWay {rest : String} (twoWay : Text.after? "bind-" name = some rest) :
    boundAs name value = none := by
  have binds : Text.startsWith name "bind-" = true := by rw [Text.startsWith, twoWay]; rfl
  rw [boundAs, binds, Bool.or_true, Bool.true_or, if_pos rfl]

/-- What an attribute that is not two-way binds under its name; the static text of one that is not
known everywhere is an input of the component. -/
def ownBinding? (isComponent : Bool) (name value : String) : Option Binding.Attribute :=
  (boundAs name value).or
    (if isComponent && (isOwn name && !Tag.isGlobalAttribute name && name != "is") then
      some (.interpolation [] [value] .plain)
    else none)

theorem ownBinding?_alone (name value : String) :
    ownBinding? false name value = boundAs name value := by
  rw [ownBinding?, Bool.false_and, if_neg Bool.false_ne_true, Option.or_none]

theorem ownBinding?_of_not_isOwn {isComponent : Bool} (unowned : isOwn name = false) :
    ownBinding? isComponent name value = boundAs name value := by
  rw [ownBinding?, unowned, Bool.false_and, Bool.false_and, Bool.and_false,
    if_neg Bool.false_ne_true, Option.or_none]

/-- Attributes that have the name of a native property are bound when they hold a binding. -/
theorem boundAs_lowered {property : String} (known : property ∈ knownProperties) :
    boundAs (Text.lowered property) value =
      if Binding.hasBinding value then some (.ofSegments (Binding.scan value) .plain) else none := by
  have all : ∀ property ∈ knownProperties,
      (directiveNames.contains (Text.lowered property) ||
        Text.startsWith (Text.lowered property) "on" ||
          Text.startsWith (Text.lowered property) "bind-") = false ∧
      Text.lowered property ≠ "style" ∧ Text.lowered property ≠ "class" := by decide
  obtain ⟨plain, notStyle, notClass⟩ := all property known
  rw [boundAs, plain, Bool.false_or, if_neg notStyle, if_neg notClass]
  cases Binding.hasBinding value <;> rfl

end Bearer

namespace Pass
variable {s t : Pass} {id : AnnotatedId} {node : NodeId} {name value key : String}

/-- The binding that is stored for an attribute or property. -/
def stored? (s : Pass) (id : AnnotatedId) (key : String) : Option Binding.Attribute :=
  (s.bindings? id).bind (·.attributes.find? key)

theorem Bare.stored? (bare : s.Bare id) (key : String) : s.stored? id key = none := by
  obtain ⟨component, bound⟩ := bare
  rw [Pass.stored?, bound]
  rfl

theorem stored?_congr (same : t.bindings? id = s.bindings? id) (key : String) :
    t.stored? id key = s.stored? id key := by
  rw [stored?, same, stored?]

theorem stored?_bind (holds : s.Holds id) (name : String) (binding : Binding.Attribute)
    (key : String) : (s.bind id name binding).stored? id key =
      if name = key then some binding else s.stored? id key := by
  obtain ⟨b, bound⟩ := holds.exists_bindings
  rw [stored?, bindings?_bind, stored?, bound, Option.map_some, Option.bind_some, Option.bind_some,
    OrderedMap.find?_insert]
  simp only [beq_iff_eq]

theorem stored?_handle (event : String) (action : Binding.Action) (key : String) :
    (s.handle id event action).stored? id key = s.stored? id key := by
  rw [stored?, Pass.handle, bindings?_mapBindings, stored?]
  cases s.bindings? id <;> rfl

theorem stored?_strip (name key : String) : (s.strip id name).stored? id key = s.stored? id key :=
  stored?_congr (bindings?_strip name) key

/-! ## What is written -/

/-- The binding that is written last under a name. -/
def lastWritten (written : List (String × Binding.Attribute)) (key : String) :
    Option Binding.Attribute :=
  (OrderedMap.mk written.reverse).find? key

@[simp] theorem lastWritten_nil (key : String) : lastWritten [] key = none := rfl

@[simp] theorem lastWritten_singleton (name : String) (binding : Binding.Attribute) (key : String) :
    lastWritten [(name, binding)] key = if name = key then some binding else none := by
  by_cases same : name = key
  · simp [lastWritten, OrderedMap.find?, same]
  · simp [lastWritten, OrderedMap.find?, same]

theorem lastWritten_append (first second : List (String × Binding.Attribute)) (key : String) :
    lastWritten (first ++ second) key = (lastWritten second key).or (lastWritten first key) := by
  rw [lastWritten, List.reverse_append, OrderedMap.find?, List.find?_append, Option.map_or]
  rfl

/-- From `s` to `t` bindings were stored one after the other. -/
def Overlays (id : AnnotatedId) (written : List (String × Binding.Attribute)) (s t : Pass) : Prop :=
  ∀ key, t.stored? id key = (lastWritten written key).or (s.stored? id key)

namespace Overlays
variable {written written' : List (String × Binding.Attribute)} {u : Pass}

theorem of_same (same : t.bindings? id = s.bindings? id) : Overlays id [] s t :=
  fun key => stored?_congr same key

theorem refl : Overlays id [] s s := of_same rfl

theorem trans (first : Overlays id written s t) (second : Overlays id written' t u) :
    Overlays id (written ++ written') s u := by
  intro key
  rw [second key, first key, lastWritten_append, Option.or_assoc]

theorem bind (holds : s.Holds id) (name : String) (binding : Binding.Attribute) :
    Overlays id [(name, binding)] s (s.bind id name binding) := by
  intro key
  rw [stored?_bind holds, lastWritten_singleton]
  split <;> rfl

theorem handle (overlays : Overlays id written s t) (event : String) (action : Binding.Action) :
    Overlays id written s (t.handle id event action) :=
  fun key => (stored?_handle event action key).trans (overlays key)

theorem strip (overlays : Overlays id written s t) (name : String) :
    Overlays id written s (t.strip id name) :=
  fun key => (stored?_strip name key).trans (overlays key)

theorem install (holds : s.Holds id) (node : NodeId) (property expr event : String)
    (action : Binding.Action) :
    Overlays id [(property, .direct (.ofText expr) .plain)] s
      (s.install id node property expr event action) := by
  have shadowed : Edits id node s (s.shadow id node property) := Edits.refl.shadow property
  have same : Overlays id [] s (s.shadow id node property) := by
    unfold shadow
    dsimp only
    split
    · exact (of_same rfl).strip _
    · exact refl
  exact (same.trans (bind (holds.edits shadowed) _ _)).handle event action

end Overlays

section Writing
variable {isComponent : Bool}

theorem bindEvent_overlays : Overlays id [] s (s.bindEvent id node name value) := by
  unfold bindEvent
  split
  · exact (Overlays.refl.handle _ _).strip _
  · exact .of_same rfl

variable (holds : s.Holds id)
include holds

theorem bindStyle_overlays (own : Bearer.boundAs "style" value =
      if !Binding.hasBinding value then none else some (.ofSegments (Binding.scan value) .css)) :
    Overlays id ((Bearer.boundAs "style" value).map (("style", ·))).toList s (s.bindStyle id value) := by
  unfold bindStyle
  dsimp only
  rw [Binding.isEmpty_bound_scan, own]
  split
  · exact .refl
  · exact (Overlays.bind holds _ _).strip _

theorem bindClass_overlays (own : Bearer.boundAs "class" value =
      if !Binding.hasBinding value then none
      else some { exprs := (Binding.scan value).exprs, literals := none, style := .classTokens }) :
    Overlays id ((Bearer.boundAs "class" value).map (("class", ·))).toList s
      (s.bindClass id node value) := by
  unfold bindClass
  dsimp only
  rw [Binding.isEmpty_bound_scan, own]
  split
  · exact .refl
  · -- The class list is written to the document before it is bound.
    exact Overlays.bind holds _ _

theorem bindGeneric_overlays (component : (s.component? id).isSome = isComponent)
    (owned : Bearer.isOwn name = true) (own : Bearer.boundAs name value =
      if !Binding.hasBinding value then none else some (.ofSegments (Binding.scan value) .plain)) :
    Overlays id ((Bearer.ownBinding? isComponent name value).map (name, ·)).toList s
      (s.bindGeneric id name value) := by
  unfold bindGeneric
  dsimp only
  rw [Binding.isEmpty_bound_scan, component, Bearer.ownBinding?, own, owned, Bool.true_and,
    Bool.and_assoc]
  split
  · split
    · exact .bind holds _ _
    · exact .refl
  · exact (Overlays.bind holds _ _).strip _

/-- An attribute that is not two-way stores its binding, unless it was stripped before. -/
theorem bindAttribute_overlays (component : (s.component? id).isSome = isComponent)
    (plain : Text.after? "bind-" name = none) :
    Overlays id (if s.isStripped id name then []
      else ((Bearer.ownBinding? isComponent name value).map (name, ·)).toList) s
      (bindAttribute id node s name value) := by
  have twoWay : Text.startsWith name "bind-" = false := by rw [Text.startsWith, plain]; rfl
  unfold bindAttribute
  cases stripped : s.isStripped id name with
  | true =>
      rw [Bool.or_true, if_pos rfl, if_pos rfl]
      exact .refl
  | false =>
      rw [Bool.or_false, if_neg Bool.false_ne_true]
      split
      · next directive =>
        have unowned : Bearer.isOwn name = false := by rw [Bearer.isOwn, directive]; rfl
        rw [Bearer.ownBinding?_of_not_isOwn unowned, Bearer.boundAs_of_directive directive]
        exact .refl
      · next bindable =>
        split
        · next event =>
          have unowned : Bearer.isOwn name = false := by
            rw [Bearer.isOwn, event, Bool.not_true, Bool.and_false, Bool.false_and, Bool.false_and]
          have unbound : Bearer.boundAs name value = none := by
            rw [Bearer.boundAs, event, Bool.or_true, Bool.true_or, Bool.true_or, if_pos rfl]
          rw [Bearer.ownBinding?_of_not_isOwn unowned, unbound]
          exact bindEvent_overlays
        · next silent =>
          rw [plain]
          have own : Bearer.boundAs name value = if !Binding.hasBinding value then none
              else if name = "style" then some (.ofSegments (Binding.scan value) .css)
              else if name = "class" then
                some { exprs := (Binding.scan value).exprs, literals := none, style := .classTokens }
              else some (.ofSegments (Binding.scan value) .plain) := by
            rw [Bearer.boundAs, Bool.eq_false_iff.2 bindable, Bool.eq_false_iff.2 silent, twoWay]
            rfl
          dsimp only
          split
          · next isStyle =>
            subst isStyle
            have global : (Tag.isGlobalAttribute "style" : Bool) = true := by decide
            rw [Bearer.ownBinding?, global, Bool.not_true, Bool.and_false, Bool.false_and,
              Bool.and_false, if_neg Bool.false_ne_true, Option.or_none]
            exact bindStyle_overlays holds own
          · next notStyle =>
            rw [if_neg notStyle] at own
            split
            · next isClass =>
              subst isClass
              rw [Bearer.ownBinding?_of_not_isOwn (by decide)]
              exact bindClass_overlays holds own
            · next notClass =>
              rw [if_neg notClass] at own
              have owned : Bearer.isOwn name = true := by
                rw [Bearer.isOwn, Bool.eq_false_iff.2 bindable, Bool.eq_false_iff.2 silent, twoWay,
                  bne_iff_ne.2 notClass]
                rfl
              exact bindGeneric_overlays holds component owned own

end Writing

/-! ## One attribute -/

/-- From `s` to `t` the attribute `name` was read, which is not two-way. -/
structure Stores (id : AnnotatedId) (name value : String) (s t : Pass) : Prop where
  stored : ∀ key, t.stored? id key = if key = name then
    (if s.isStripped id name then none else Bearer.boundAs name value).or (s.stored? id name)
    else s.stored? id key
  stripped : ∀ other, other ≠ name → t.isStripped id other = s.isStripped id other
  reported : ∃ notes, t.reports = s.reports ++ notes ∧
    ∀ d ∈ notes, ∃ name, d.problem = .nativeHandler name

section Attribute
variable (plain : Text.after? "bind-" name = none)

theorem silent (s : Pass) : ∃ notes, s.reports = s.reports ++ notes ∧
    ∀ d ∈ notes, ∃ name, d.problem = .nativeHandler name :=
  ⟨[], (List.append_nil _).symm, nofun⟩

include plain

/-- It is only stripped itself, and only reported as a handler that is left to the browser. -/
theorem bindAttribute_strips : (∀ other, other ≠ name →
      (bindAttribute id node s name value).isStripped id other = s.isStripped id other) ∧
    ∃ notes, (bindAttribute id node s name value).reports = s.reports ++ notes ∧
      ∀ d ∈ notes, ∃ name, d.problem = .nativeHandler name := by
  have own (t : Pass) (same : ∀ other, t.isStripped id other = s.isStripped id other)
      (other : String) (apart : other ≠ name) :
      (t.strip id name).isStripped id other = s.isStripped id other :=
    (isStripped_strip_of_ne _ _ (Ne.symm apart)).trans (same other)
  unfold bindAttribute
  rw [plain]
  split
  · exact ⟨fun _ _ => rfl, silent s⟩
  · split
    · unfold bindEvent
      split
      · exact ⟨own _ fun other => isStripped_handle .., silent s⟩
      · refine ⟨fun _ _ => rfl, _, rfl, fun d member => ⟨name, ?_⟩⟩
        rw [List.mem_singleton.1 member]
    · dsimp only
      split
      · next isStyle =>
        subst isStyle
        unfold bindStyle
        dsimp only
        split
        · exact ⟨fun _ _ => rfl, silent s⟩
        · exact ⟨own _ fun other => isStripped_bind .., silent s⟩
      · split
        · unfold bindClass
          dsimp only
          split
          · exact ⟨fun _ _ => rfl, silent s⟩
          · exact ⟨fun other _ => isStripped_bind .., silent s⟩
        · unfold bindGeneric
          dsimp only
          split
          · split
            · exact ⟨fun other _ => isStripped_bind .., silent s⟩
            · exact ⟨fun _ _ => rfl, silent s⟩
          · exact ⟨own _ fun other => isStripped_bind .., silent s⟩

/-- An attribute that is not two-way is stored under its name or not at all. -/
theorem bindAttribute_stores (holds : s.Holds id) (noComponent : s.component? id = none) :
    Stores id name value s (bindAttribute id node s name value) := by
  have component : (s.component? id).isSome = false := by rw [noComponent]; rfl
  refine ⟨fun key => ?_, (bindAttribute_strips plain).1, (bindAttribute_strips plain).2⟩
  rw [bindAttribute_overlays holds component plain key, Bearer.ownBinding?_alone]
  by_cases same : key = name
  · subst same
    rw [if_pos rfl]
    split
    · rfl
    · cases Bearer.boundAs key value <;> simp
  · rw [if_neg same]
    split
    · rfl
    · cases Bearer.boundAs name value <;> simp [Ne.symm same]

end Attribute

/-! ## Many attributes -/

/-- What attributes that are not two-way leave stored: each what it binds, unless it was stripped
before. -/
theorem stored?_foldl {rest : List (String × String)} (distinct : OrderedMap.Distinct rest)
    (plain : ∀ entry ∈ rest, Text.after? "bind-" entry.1 = none) (holds : s.Holds id)
    (noComponent : s.component? id = none) (key : String) :
    (rest.foldl (fun s entry => bindAttribute id node s entry.1 entry.2) s).stored? id key =
      (((OrderedMap.mk rest).find? key).bind fun value =>
        if s.isStripped id key then none else Bearer.boundAs key value).or (s.stored? id key) := by
  induction rest generalizing s with
  | nil => rfl
  | cons entry rest ih =>
      obtain ⟨name, value⟩ := entry
      obtain ⟨apart, distinctRest⟩ := List.pairwise_cons.1 distinct
      have edits : Edits id node s (bindAttribute id node s name value) :=
        Edits.refl.bindAttribute name value
      have stores : Stores id name value s (bindAttribute id node s name value) :=
        bindAttribute_stores (plain _ List.mem_cons_self) holds noComponent
      have component : (bindAttribute id node s name value).component? id = none :=
        (congrFun edits.quiet.bound id).trans noComponent
      rw [List.foldl_cons, ih distinctRest (fun other member => plain other
        (List.mem_cons_of_mem _ member)) (holds.edits edits) component, stores.stored key]
      by_cases isName : key = name
      · subst isName
        have gone : (OrderedMap.mk rest).find? key = none := by
          rw [OrderedMap.find?, List.find?_eq_none.2, Option.map_none]
          intro other member
          rw [BEq.comm, apart other member]
          exact Bool.false_ne_true
        rw [gone, if_pos rfl, OrderedMap.find?, List.find?_cons_of_pos (by exact beq_self_eq_true key)]
        rfl
      · rw [stores.stripped key isName, if_neg isName]
        have later : (OrderedMap.mk ((name, value) :: rest)).find? key =
            (OrderedMap.mk rest).find? key := by
          rw [OrderedMap.find?, List.find?_cons_of_neg]
          · rfl
          · exact fun same => isName (eq_of_beq same).symm
        rw [later]

theorem reports_foldl (node : NodeId) {rest : List (String × String)}
    (plain : ∀ entry ∈ rest, Text.after? "bind-" entry.1 = none) (holds : s.Holds id)
    (noComponent : s.component? id = none) :
    ∃ notes, (rest.foldl (fun s entry => bindAttribute id node s entry.1 entry.2) s).reports =
        s.reports ++ notes ∧
      ∀ d ∈ notes, ∃ name, d.problem = .nativeHandler name := by
  induction rest generalizing s with
  | nil => exact silent s
  | cons entry rest ih =>
      obtain ⟨name, value⟩ := entry
      have edits : Edits id node s (bindAttribute id node s name value) :=
        Edits.refl.bindAttribute name value
      have stores : Stores id name value s (bindAttribute id node s name value) :=
        bindAttribute_stores (plain _ List.mem_cons_self) holds noComponent
      obtain ⟨first, reported, handlers⟩ := stores.reported
      obtain ⟨later, reported', handlers'⟩ := ih (fun other member => plain other
        (List.mem_cons_of_mem _ member)) (holds.edits edits) ((congrFun edits.quiet.bound id).trans noComponent)
      refine ⟨first ++ later, ?_, List.forall_mem_append.2 ⟨handlers, handlers'⟩⟩
      rw [List.foldl_cons, reported', reported, List.append_assoc]

/-! ## From the beginning -/

/-- The attributes of the element `e` at `node` are going to be read for `id`, which has been stripped
of directives only. -/
structure BeginsAt (s : Pass) (id : AnnotatedId) (node : NodeId) (e : Bearer) : Prop where
  bare : s.Bare id
  data : s.document.data? node = some (.element e.tag e.attributes)
  component : (s.component? id).isSome = e.isComponent
  steering : ∀ name, s.isStripped id name = true → directiveNames.contains name = true

/-- The only element of a document is about to have its attributes read. -/
def reading (tag : String) (attributes : List (String × String)) : Pass :=
  (({ file :=
        { path := ⟨"a.html"⟩
          isEntry := false
          document := ⟨#[{ data := .document, children := [1] },
            { data := .element tag ⟨attributes⟩, parent := some 0 }]⟩ }
      components := {}
      counter := 0 } : Pass).annotate 1 none (.element {})).2

theorem begins_reading (tag : String) (attributes : List (String × String)) :
    (reading tag attributes).BeginsAt 0 1 ⟨tag, ⟨attributes⟩, false⟩ :=
  ⟨⟨none, rfl⟩, rfl, rfl, nofun⟩

/-- The state in which the attributes of a list have been read. -/
def readTo (s : Pass) (id : AnnotatedId) (node : NodeId) (entries : List (String × String)) : Pass :=
  entries.foldl (fun s entry => bindAttribute id node s entry.1 entry.2) s

section Begin
variable {e : Bearer} {before after : List (String × String)} (begins : s.BeginsAt id node e)
include begins

theorem BeginsAt.hasRead : HasRead e node id (s.isStripped id) [] s := by
  have read := HasRead.of_bare begins.bare begins.data
  rwa [begins.component] at read

theorem BeginsAt.eq_foldl : s.bindAttributes id node =
    e.attributes.entries.foldl (fun s entry => bindAttribute id node s entry.1 entry.2) s := by
  rw [bindAttributes, Document.attributes?, begins.data]

theorem BeginsAt.readTo (distinct : OrderedMap.Distinct e.attributes.entries)
    (entries : e.attributes.entries = before ++ after) :
    HasRead e node id (s.isStripped id) before (s.readTo id node before) :=
  begins.hasRead.foldl distinct begins.steering after entries

theorem BeginsAt.all (distinct : OrderedMap.Distinct e.attributes.entries) :
    HasRead e node id (s.isStripped id) e.attributes.entries (s.bindAttributes id node) :=
  begins.hasRead.all distinct begins.steering (by rw [Document.attributes?, begins.data])

theorem BeginsAt.bindAttributes_eq (entries : e.attributes.entries = before ++ (name, value) :: after) :
    s.bindAttributes id node =
      (bindAttribute id node (s.readTo id node before) name value).readTo id node after := by
  rw [begins.eq_foldl, entries, List.foldl_append]
  rfl

end Begin

end Pass

/-! ## Several attributes under one name -/

namespace Bearer
variable {e : Bearer} {name value key : String}

/-- What reading an attribute stores: a two-way attribute what it is installed as, any other one its
own binding. -/
def writes (e : Bearer) (name value : String) : List (String × Binding.Attribute) :=
  match Text.after? "bind-" name with
  | some _ => (e.stores? name value).toList
  | none => ((ownBinding? e.isComponent name value).map (name, ·)).toList

theorem writes_of_twoWay {hyphenated : String} (twoWay : Text.after? "bind-" name = some hyphenated)
    (value : String) : e.writes name value = (e.stores? name value).toList := by
  rw [writes, twoWay]

theorem writes_of_plain (plain : Text.after? "bind-" name = none) (value : String) :
    e.writes name value = ((ownBinding? e.isComponent name value).map (name, ·)).toList := by
  rw [writes, plain]

theorem ownBinding?_of_directive (directive : directiveNames.contains name = true) (value : String) :
    ownBinding? e.isComponent name value = none := by
  have unowned : isOwn name = false := by rw [isOwn, directive]; rfl
  rw [ownBinding?_of_not_isOwn unowned, boundAs_of_directive directive]

/-- No two-way attribute has the name of a native property. -/
theorem shadows_of_twoWay {hyphenated : String}
    (twoWay : Text.after? "bind-" name = some hyphenated) : e.shadows name = false := by
  rw [shadows, List.any_eq_false]
  intro entry member shadowed
  cases native : e.native? entry.1 with
  | none => simp [native] at shadowed
  | some property =>
      rw [native, Option.any_some, beq_iff_eq] at shadowed
      rw [← shadowed, (of_lowered (mem_known_of_native? native)).1] at twoWay
      cases twoWay

end Bearer

namespace Pass
variable {s t : Pass} {id : AnnotatedId} {node : NodeId} {e : Bearer} {begun : String → Bool}
  {name value key : String} {done rest later : List (String × String)}

theorem lastWritten_map_toList (own : Option Binding.Attribute) (name key : String) :
    lastWritten (own.map (name, ·)).toList key = if name = key then own else none := by
  cases own with
  | none =>
      rw [ite_self]
      rfl
  | some binding => exact lastWritten_singleton name binding key

theorem lastWritten_of_plain (plain : Text.after? "bind-" name = none) (value key : String) :
    lastWritten (e.writes name value) key =
      if name = key then Bearer.ownBinding? e.isComponent name value else none := by
  rw [Bearer.writes_of_plain plain, lastWritten_map_toList]

theorem lastWritten_flatMap_cons (f : String × String → List (String × Binding.Attribute))
    (entry : String × String) (rest : List (String × String)) (key : String) :
    lastWritten ((entry :: rest).flatMap f) key =
      (lastWritten (rest.flatMap f) key).or (lastWritten (f entry) key) := by
  rw [List.flatMap_cons, lastWritten_append]

theorem lastWritten_flatMap_eq_none {f : String × String → List (String × Binding.Attribute)}
    (none : ∀ entry ∈ rest, lastWritten (f entry) key = none) :
    lastWritten (rest.flatMap f) key = Option.none := by
  induction rest with
  | nil => rfl
  | cons entry rest ih =>
      rw [lastWritten_flatMap_cons, none entry List.mem_cons_self,
        ih fun other member => none other (List.mem_cons_of_mem _ member), Option.or_none]

theorem lastWritten_flatMap_filter {f : String × String → List (String × Binding.Attribute)}
    {keep : String × String → Bool}
    (none : ∀ entry ∈ rest, keep entry = false → lastWritten (f entry) key = none) :
    lastWritten ((rest.filter keep).flatMap f) key = lastWritten (rest.flatMap f) key := by
  induction rest with
  | nil => rfl
  | cons entry rest ih =>
      have later := ih fun other member => none other (List.mem_cons_of_mem _ member)
      rw [lastWritten_flatMap_cons]
      cases kept : keep entry with
      | true => rw [List.filter_cons_of_pos kept, lastWritten_flatMap_cons, later]
      | false =>
          rw [List.filter_cons_of_neg (by rw [kept]; exact Bool.false_ne_true), later,
            none entry List.mem_cons_self kept, Option.or_none]

namespace Outcome

theorem overlays (outcome : Outcome e node id name value s t) (holds : s.Holds id) :
    Overlays id (e.stores? name value).toList s t := by
  cases outcome with
  | property installs =>
      rw [installs.stores?]
      exact (Overlays.install holds _ _ _ _ _).strip name
  | choice installs =>
      rw [installs.stores?]
      exact (Overlays.install holds _ _ _ _ _).strip name
  | input chosen =>
      rw [Bearer.stores?, chosen]
      exact (Overlays.bind holds _ _).strip name
  | refused objected taken =>
      rw [(Bearer.of_objection? value objected).2.2]
      exact .of_same rfl

end Outcome

namespace HasRead
variable (read : HasRead e node id begun done s) (distinct : OrderedMap.Distinct e.attributes.entries)
  (steering : ∀ name, begun name = true → directiveNames.contains name = true)

include read distinct steering in
/-- One more attribute replaces what is stored under the name that it writes. It has to be read for
that, which an attribute that a native property takes the place of may not be. -/
theorem stored?_bindAttribute (entries : e.attributes.entries = done ++ (name, value) :: rest)
    (kept : lastWritten (e.writes name value) key = none ∨ e.shadows name = false) :
    (bindAttribute id node s name value).stored? id key =
      (lastWritten (e.writes name value) key).or (s.stored? id key) := by
  cases twoWay : Text.after? "bind-" name with
  | some hyphenated =>
      rw [read.bindAttribute_eq entries distinct steering twoWay, Bearer.writes_of_twoWay twoWay]
      exact (read.outcome entries distinct twoWay).overlays read.holds key
  | none =>
      rw [bindAttribute_overlays read.holds read.component twoWay]
      cases stripped : s.isStripped id name with
      | false => rw [if_neg Bool.false_ne_true, Bearer.writes_of_plain twoWay]
      | true =>
          rw [if_pos rfl, lastWritten_nil]
          suffices none : lastWritten (e.writes name value) key = none by rw [none]
          cases directive : directiveNames.contains name with
          | true =>
              rw [Bearer.writes_of_plain twoWay, Bearer.ownBinding?_of_directive directive]
              rfl
          | false =>
              refine kept.resolve_right fun unshadowed => ?_
              have apart (entry : String × String) (member : entry ∈ done) : entry.1 ≠ name :=
                beq_eq_false_iff_ne.1 (OrderedMap.not_beq_of_distinct (entries ▸ distinct) member)
              obtain ⟨entry, member, property, -, native, isName⟩ :=
                read.shadowed apart steering directive stripped
              rw [Bearer.shadows, List.any_eq_false] at unshadowed
              refine unshadowed entry ?_ ?_
              · rw [entries]
                exact List.mem_append_left _ member
              · rw [native, Option.any_some, isName]
                exact beq_self_eq_true name

include distinct steering in
theorem stored?_foldl (read : HasRead e node id begun done s)
    (entries : e.attributes.entries = done ++ rest ++ later)
    (kept : ∀ entry ∈ rest, lastWritten (e.writes entry.1 entry.2) key = none ∨
      e.shadows entry.1 = false) :
    (rest.foldl (fun s entry => bindAttribute id node s entry.1 entry.2) s).stored? id key =
      (lastWritten (rest.flatMap fun entry => e.writes entry.1 entry.2) key).or (s.stored? id key) := by
  induction rest generalizing done s with
  | nil => rfl
  | cons entry rest ih =>
      obtain ⟨name, value⟩ := entry
      have entries' : e.attributes.entries = done ++ (name, value) :: (rest ++ later) := by
        rw [entries, List.append_assoc]
        rfl
      have next := ih (read.step entries' distinct steering) (by rw [entries']; simp)
        fun other member => kept other (List.mem_cons_of_mem _ member)
      rw [List.foldl_cons, next, lastWritten_flatMap_cons, Option.or_assoc,
        read.stored?_bindAttribute distinct steering entries' (kept (name, value) List.mem_cons_self)]

end HasRead

/-- What is stored under a name when all attributes have been read. -/
theorem BeginsAt.stored?_bindAttributes (begins : s.BeginsAt id node e)
    (distinct : OrderedMap.Distinct e.attributes.entries)
    (kept : ∀ entry ∈ e.attributes.entries, lastWritten (e.writes entry.1 entry.2) key = none ∨
      e.shadows entry.1 = false) :
    (s.bindAttributes id node).stored? id key =
      lastWritten (e.attributes.entries.flatMap fun entry => e.writes entry.1 entry.2) key := by
  have whole : e.attributes.entries = [] ++ e.attributes.entries ++ [] := by simp
  rw [begins.eq_foldl, begins.hasRead.stored?_foldl distinct begins.steering whole kept,
    begins.bare.stored?, Option.or_none]

end Pass
end ComponentMarkup
