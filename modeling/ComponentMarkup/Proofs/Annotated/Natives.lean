import ComponentMarkup.Proofs.Annotated.Stored

/-!
Handlers that are left to the browser. Each attribute that begins with `on` and not with `on-` is
reported once, when it is read, and nothing else is reported in that way.
-/

namespace ComponentMarkup

/-- Whether an attribute is a handler of the browser. -/
def isNativeName (name : String) : Bool := Text.startsWith name "on" && !Text.startsWith name "on-"

/-- Whether it is said that a handler is left to the browser. -/
def Problem.isNative : Problem → Bool
  | .nativeHandler _ => true
  | _ => false

def Diagnostics.natives (d : Diagnostics) : Diagnostics := d.filter (·.problem.isNative)

theorem Diagnostics.severity_of_mem_natives {d : Diagnostic} {ds : Diagnostics}
    (member : d ∈ ds.natives) : d.severity = .warning := by
  obtain ⟨problem, path, position⟩ := d
  have native : problem.isNative = true := (List.mem_filter.1 member).2
  cases problem with
  | nativeHandler => rfl
  | _ => cases native

/-- What is to be reported about the handlers among attributes. -/
def nativeNotes (path : Path) (position : Position) (entries : List (String × String)) : Diagnostics :=
  (entries.filter fun entry => isNativeName entry.1).map fun entry =>
    ⟨.nativeHandler entry.1, path, position⟩

theorem nativeNotes_append (path : Path) (position : Position) (first second : List (String × String)) :
    nativeNotes path position (first ++ second) =
      nativeNotes path position first ++ nativeNotes path position second := by
  rw [nativeNotes, List.filter_append, List.map_append, nativeNotes, nativeNotes]

theorem TwoWay.isNative_of_rejected {tag type property name : String} {isComponent : Bool}
    {problem : Problem} (rejected : choose tag type property name isComponent = .rejected problem) :
    problem.isNative = false := by
  unfold choose at rejected
  grind [Problem.isNative]

namespace Bearer
variable {e : Bearer} {name value : String}

theorem silent_of_directive : ∀ name ∈ directiveNames, Text.startsWith name "on" = false := by decide

theorem silent_of_lowered :
    ∀ property ∈ knownProperties, Text.startsWith (Text.lowered property) "on" = false := by decide

theorem after?_of_isNativeName (native : isNativeName name = true) :
    Text.after? "bind-" name = none ∧ directiveNames.contains name = false ∧ isOwn name = false ∧
      Text.startsWith name "on" = true ∧ Text.startsWith name "on-" = false := by
  rw [isNativeName, Bool.and_eq_true, Bool.not_eq_true'] at native
  obtain ⟨event, silent⟩ := native
  refine ⟨after?_of_event event, ?_, ?_, event, silent⟩
  · rw [← Bool.not_eq_true]
    intro directive
    rw [silent_of_directive name (List.contains_iff_mem.1 directive)] at event
    cases event
  · rw [isOwn, event]
    simp

/-- Nothing takes a handler of the browser off an element. -/
theorem takes_of_isNativeName (native : isNativeName name = true) (entry : String × String) :
    e.takes name entry = false := by
  obtain ⟨plain, -, unowned, event, silent⟩ := after?_of_isNativeName native
  rw [takes, Bool.or_eq_false_iff]
  constructor
  · by_cases same : entry.1 = name
    · rw [same, takesOff, silent, installs_eq_false (twoWay?_eq_none plain), unowned]
      simp
    · rw [beq_eq_false_iff_ne.2 same, Bool.false_and]
  · cases property : e.native? entry.1 with
    | none => rw [Option.any_none, Bool.and_false]
    | some property =>
        rw [Option.any_some, beq_eq_false_iff_ne.2, Bool.and_false]
        rintro rfl
        rw [silent_of_lowered _ (mem_known_of_native? property)] at event
        cases event

end Bearer

namespace Pass
variable {s t : Pass} {id : AnnotatedId} {node : NodeId} {name value : String} {problem : Problem}
  {rest : List (String × String)}

def natives (s : Pass) : Diagnostics := Diagnostics.natives s.reports

@[simp] theorem natives_strip (name : String) : (s.strip id name).natives = s.natives := rfl

@[simp] theorem natives_bind (name : String) (binding : Binding.Attribute) :
    (s.bind id name binding).natives = s.natives := rfl

@[simp] theorem natives_handle (event : String) (action : Binding.Action) :
    (s.handle id event action).natives = s.natives := rfl

@[simp] theorem natives_mapDocument (f : Document → Document) :
    (s.mapDocument f).natives = s.natives := rfl

theorem natives_report (s : Pass) (problem : Problem) (node : NodeId) :
    (s.report problem node).natives = s.natives ++
      if problem.isNative then [⟨problem, s.file.path, s.document.position node⟩] else [] := by
  rw [natives, report, Diagnostics.natives, List.filter_append, List.filter_singleton]
  dsimp only
  cases problem.isNative <;> rfl

theorem natives_report_of_other (other : problem.isNative = false) (s : Pass) (node : NodeId) :
    (s.report problem node).natives = s.natives := by
  rw [natives_report, other, if_neg Bool.false_ne_true, List.append_nil]

theorem natives_shadow (property : String) : (s.shadow id node property).natives = s.natives := by
  unfold shadow
  dsimp only
  split
  · rw [natives_strip, natives_report_of_other rfl]
  · rfl

theorem natives_install (property expr event : String) (action : Binding.Action) :
    (s.install id node property expr event action).natives = s.natives := by
  rw [install, natives_handle, natives_bind, natives_shadow]

theorem natives_bindTwoWay (name property value : String) :
    (s.bindTwoWay id node name property value).natives = s.natives := by
  unfold bindTwoWay
  dsimp only
  split
  · rw [natives_strip, natives_install]
  · split
    · exact natives_report_of_other rfl s node
    · rw [natives_strip, natives_install]
  · split
    · exact natives_report_of_other rfl s node
    · split
      · exact natives_report_of_other rfl s node
      · rw [natives_strip, natives_install]
  · rw [natives_strip, natives_bind]
  · next rejected => exact natives_report_of_other (TwoWay.isNative_of_rejected rejected) s node

theorem natives_bindStyle (value : String) : (s.bindStyle id value).natives = s.natives := by
  unfold bindStyle
  dsimp only
  split <;> rfl

theorem natives_bindClass (value : String) : (s.bindClass id node value).natives = s.natives := by
  unfold bindClass
  dsimp only
  split <;> rfl

theorem natives_bindGeneric (name value : String) :
    (s.bindGeneric id name value).natives = s.natives := by
  unfold bindGeneric
  dsimp only
  split
  · split <;> rfl
  · rfl

/-- Nothing keeps a handler of the browser from being read. -/
def SparesNative (s : Pass) (id : AnnotatedId) : Prop :=
  ∀ name, isNativeName name = true → s.isStripped id name = false

theorem unstripped_of_native (native : isNativeName name = true) (other : String) (value : String) :
    (bindAttribute id node s other value).isStripped id name = s.isStripped id name := by
  obtain ⟨-, bindable, -, event, silent⟩ := Bearer.after?_of_isNativeName native
  by_cases same : other = name
  · subst same
    unfold bindAttribute
    rw [bindable, event]
    split
    · rfl
    · unfold bindEvent
      rw [silent]
      rfl
  · refine s.isStripped_bindAttribute_of_ne id node same (fun property known isName => ?_) value
    rw [← isName, Bearer.silent_of_lowered property known] at event
    cases event

theorem SparesNative.bindAttribute (spares : s.SparesNative id) (name value : String) :
    (bindAttribute id node s name value).SparesNative id :=
  fun _ native => (unstripped_of_native native name value).trans (spares _ native)

/-- What is stripped of directives only spares the handlers of the browser. -/
theorem SparesNative.of_steering
    (steering : ∀ name, s.isStripped id name = true → directiveNames.contains name = true) :
    s.SparesNative id := by
  intro name native
  rw [Bool.eq_false_iff]
  intro stripped
  exact nomatch (Bearer.after?_of_isNativeName native).2.1.symm.trans (steering name stripped)

/-- An attribute that is read is reported exactly if it is a handler of the browser. -/
theorem natives_bindAttribute (spares : s.SparesNative id) (name value : String) :
    (bindAttribute id node s name value).natives =
      s.natives ++ nativeNotes s.file.path (s.document.position node) [(name, value)] := by
  cases native : isNativeName name with
  | true =>
      obtain ⟨-, bindable, -, event, silent⟩ := Bearer.after?_of_isNativeName native
      have noted : nativeNotes s.file.path (s.document.position node) [(name, value)] =
          [⟨.nativeHandler name, s.file.path, s.document.position node⟩] := by
        rw [nativeNotes, List.filter_singleton, native]
        rfl
      unfold Pass.bindAttribute
      rw [bindable, spares name native, event, noted]
      unfold bindEvent
      rw [silent]
      exact natives_report s (.nativeHandler name) node
  | false =>
      have unnoted : nativeNotes s.file.path (s.document.position node) [(name, value)] = [] := by
        rw [nativeNotes, List.filter_singleton, native]
        rfl
      rw [unnoted, List.append_nil]
      unfold Pass.bindAttribute
      split
      · rfl
      · split
        · next event =>
          rw [isNativeName, event, Bool.true_and, Bool.not_eq_false'] at native
          unfold bindEvent
          rw [native]
          rfl
        · split
          · exact natives_bindTwoWay _ _ _
          · split
            · exact natives_bindStyle value
            · split
              · exact natives_bindClass value
              · exact natives_bindGeneric name value

theorem position_of_edits (edits : Edits id node s t) (n : NodeId) :
    t.document.position n = s.document.position n := by
  obtain ⟨f, -, written⟩ := edits.document
  rw [written, Document.position_mapAttributes]

theorem path_of_edits (edits : Edits id node s t) : t.file.path = s.file.path :=
  path_of_basis edits.keeps.basis

theorem natives_foldl (spares : s.SparesNative id) :
    (rest.foldl (fun s entry => bindAttribute id node s entry.1 entry.2) s).natives =
      s.natives ++ nativeNotes s.file.path (s.document.position node) rest := by
  induction rest generalizing s with
  | nil => exact (List.append_nil _).symm
  | cons entry rest ih =>
      obtain ⟨name, value⟩ := entry
      have edits : Edits id node s (bindAttribute id node s name value) :=
        Edits.refl.bindAttribute name value
      rw [List.foldl_cons, ih (spares.bindAttribute name value), natives_bindAttribute spares,
        path_of_edits edits, position_of_edits edits, List.append_assoc, ← nativeNotes_append]
      rfl

/-- Reading all attributes of an element reports each handler of the browser among them. -/
theorem natives_bindAttributes (spares : s.SparesNative id) {attributes : Attributes}
    (present : s.document.attributes? node = some attributes) :
    (s.bindAttributes id node).natives =
      s.natives ++ nativeNotes s.file.path (s.document.position node) attributes.entries := by
  rw [bindAttributes, present]
  exact natives_foldl spares

end Pass
end ComponentMarkup
