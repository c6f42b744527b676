import ComponentMarkup.Proofs.Annotated.Doubled

/-!
When a native two-way attribute wins over the attribute of its property: always when it comes first,
and when it comes second unless the other one has been bound under a name that it does not replace, or
has taken a radio button.
-/

namespace ComponentMarkup

def Problem.isDuplicate : Problem → Bool
  | .shadowedAttribute _ => true
  | _ => false

namespace Pass
variable {s s' t : Pass} {id id' : AnnotatedId} {node node' : NodeId} {e e' : Bearer}
  {bound value property event static : String}

/-- The binding of the two-way attribute is the only one for the property, in whatever letters, its
handler is the only one that writes back, and the other attribute is reported as a duplicate once. -/
structure Wins (id : AnnotatedId) (value property event : String) (s t : Pass) : Prop where
  stored : t.stored? id property = some (.direct (.ofText (Text.trimmed value)) .plain)
  only : ∀ key, Text.sameLetters property key = true → (t.stored? id key).isSome = true →
    key = property
  handled : ∀ other, (t.handlersOf id other).filter Binding.Handler.writesBack =
    if event = other then [{ event, action := .assignProperty (Text.trimmed value) property }] else []
  reported : ∃ notes, t.reports = s.reports ++ notes ∧
    (notes.map Diagnostic.problem).filter Problem.isDuplicate =
      [.shadowedAttribute (Text.lowered property)] ∧
    notes.ofSeverity .error = []

theorem lowered_lowered (known : property ∈ knownProperties) :
    Text.lowered (Text.lowered property) = Text.lowered property := by
  have all : ∀ property ∈ knownProperties,
      Text.lowered (Text.lowered property) = Text.lowered property := by decide
  exact all property known

theorem ofSeverity_eq_nil {notes : Diagnostics}
    (none : (notes.map Diagnostic.problem).filter (·.severity = .error) = []) :
    notes.ofSeverity .error = [] := by
  rw [List.filter_map] at none
  exact List.map_eq_nil_iff.1 none

section Doubled
variable (begins : s.BeginsAt id node e) (doubles : e.Doubles bound value property event static)
include begins doubles

/-- What holds whenever the two-way attribute is installed. -/
theorem installed_end (free : ¬ (e.ChecksRadio bound property ∧ e.BoundFirst bound property static)) :
    (s.bindAttributes id node).stored? id property =
        some (.direct (.ofText (Text.trimmed value)) .plain) ∧
      (∀ other, ((s.bindAttributes id node).handlersOf id other).filter Binding.Handler.writesBack =
        if event = other then [{ event, action := .assignProperty (Text.trimmed value) property }]
        else []) ∧
      ∃ notes, (s.bindAttributes id node).reports = s.reports ++ notes ∧
        (notes.map Diagnostic.problem).filter Problem.isDuplicate =
          [.shadowedAttribute (Text.lowered property)] ∧
        notes.ofSeverity .error = [] := by
  obtain ⟨before, after, entries⟩ := doubles.exists_split
  have free' : e.ChecksRadio bound property → ¬ e.BoundFirst bound property static :=
    fun radio first => free ⟨radio, first⟩
  refine ⟨?_, fun other => ?_, ?_⟩
  · rw [stored?_of_free begins doubles entries free', if_pos rfl]
  · rw [writesBack_end begins doubles entries, (doubles.runs_eq entries).1 free]
    by_cases same : event = other
    · simp [Binding.Handler.writesBack, same]
    · simp [Binding.Handler.writesBack, same]
  · obtain ⟨notes, reports, problems⟩ := reports_end begins doubles entries
      (reports_installed begins doubles entries free')
    refine ⟨notes, reports, problems _ fun _ => rfl, ofSeverity_eq_nil ?_⟩
    exact problems (fun problem => problem.severity = .error) fun _ => rfl

/-- What holds when a radio button has been bound to `checked` before its two-way attribute. -/
theorem taken_end (radio : e.ChecksRadio bound property)
    (first : e.BoundFirst bound property static) :
    (s.bindAttributes id node).stored? id property =
        some (.ofSegments (Binding.scan static) .plain) ∧
      (∀ other, ((s.bindAttributes id node).handlersOf id other).filter Binding.Handler.writesBack =
        []) ∧
      ∃ notes, (s.bindAttributes id node).reports = s.reports ++ notes ∧
        (notes.map Diagnostic.problem).filter Problem.isDuplicate = [] ∧
        (notes.map Diagnostic.problem).filter (·.severity = .error) = [.radioTwice] := by
  obtain ⟨before, after, entries⟩ := doubles.exists_split
  have isLowered : Text.lowered property = property := by
    rw [doubles.eq_checked radio]
    decide
  refine ⟨?_, fun other => ?_, ?_⟩
  · have beside := doubles.beside
    have own : Bearer.boundAs (Text.lowered property) static = _ :=
      Bearer.boundAs_lowered doubles.known
    rw [isLowered] at beside own
    rw [stored?_of_taken begins doubles entries radio first, beside, Option.bind_some, own,
      if_pos first.2]
  · rw [writesBack_end begins doubles entries, (doubles.runs_eq entries).2 radio first]
    rfl
  · obtain ⟨notes, reports, problems⟩ := reports_end begins doubles entries
      (d := ⟨.radioTwice, _, _⟩) (by rw [report_turn begins doubles entries radio first]; rfl)
    exact ⟨notes, reports, problems _ fun _ => rfl, problems _ fun _ => rfl⟩

/-- The only other binding for the property there may be is that of the attribute that came first. -/
theorem stored?_sameLetters (free : ¬ (e.ChecksRadio bound property ∧
      e.BoundFirst bound property static)) {key : String}
    (letters : Text.sameLetters property key = true) (other : key ≠ property) :
    (s.bindAttributes id node).stored? id key =
      if key = Text.lowered property ∧ e.BoundFirst bound property static then
        some (.ofSegments (Binding.scan static) .plain)
      else none := by
  obtain ⟨before, after, entries⟩ := doubles.exists_split
  rw [stored?_of_free begins doubles entries fun radio first => free ⟨radio, first⟩, if_neg other]
  by_cases isLowered : key = Text.lowered property
  · subst isLowered
    by_cases first : e.BoundFirst bound property static
    · rw [if_neg fun both => both.2 first, if_pos ⟨rfl, first⟩, doubles.beside, Option.bind_some,
        Bearer.boundAs_lowered doubles.known, if_pos first.2]
    · rw [if_pos ⟨rfl, first⟩, if_neg fun both => first both.2]
  · have absent : e.attributes.find? key = none := by
      refine Option.eq_none_iff_forall_ne_some.2 fun value' found => ?_
      obtain ⟨entry, member, -, isName⟩ := OrderedMap.exists_mem_of_find? found
      rw [← eq_of_beq isName] at letters isLowered
      exact isLowered (doubles.spelled entry member letters)
    rw [if_neg fun both => isLowered both.1, if_neg fun both => isLowered both.1, absent,
      Option.bind_none]

theorem free_of_wins (wins : Wins id value property event s (s.bindAttributes id node)) :
    ¬ (e.ChecksRadio bound property ∧ e.BoundFirst bound property static) := by
  rintro ⟨radio, first⟩
  obtain ⟨-, silent, -⟩ := taken_end begins doubles radio first
  have handled := wins.handled event
  rw [silent, if_pos rfl] at handled
  cases handled

/-- What is stored in the end when the two-way attribute wins, without a word on where it
stands. -/
theorem stored?_of_wins (wins : Wins id value property event s (s.bindAttributes id node))
    (key : String) : (s.bindAttributes id node).stored? id key =
      if Text.sameLetters property key then
        if key = property then some (.direct (.ofText (Text.trimmed value)) .plain) else none
      else (e.attributes.find? key).bind (Bearer.boundAs key) := by
  obtain ⟨before, after, entries⟩ := doubles.exists_split
  cases letters : Text.sameLetters property key with
  | true =>
      rw [if_pos rfl]
      split
      · next isProperty => rw [isProperty, wins.stored]
      · next other =>
        refine Option.not_isSome_iff_eq_none.1 fun isStored => ?_
        exact other (wins.only key letters isStored)
  | false =>
      have free := free_of_wins begins doubles wins
      have unlike (same : Text.lowered property = Text.lowered key) : False := by
        rw [Text.sameLetters, same, beq_self_eq_true] at letters
        cases letters
      have other : key ≠ property := fun same => unlike (congrArg Text.lowered same.symm)
      have otherLowered : key ≠ Text.lowered property := by
        intro same
        rw [same, lowered_lowered doubles.known] at unlike
        exact unlike rfl
      rw [if_neg Bool.false_ne_true,
        stored?_of_free begins doubles entries fun radio first => free ⟨radio, first⟩,
        if_neg other, if_neg fun both => otherLowered both.1]

theorem runs_of_wins (wins : Wins id value property event s (s.bindAttributes id node)) :
    e.runs bound value = [{ event, action := .assignProperty (Text.trimmed value) property }] := by
  obtain ⟨before, after, entries⟩ := doubles.exists_split
  exact (doubles.runs_eq entries).1 (free_of_wins begins doubles wins)

/-- Where the two-way attribute wins whatever the order, the order makes no difference. -/
theorem agree_of_wins {s' : Pass} {id' : AnnotatedId} {node' : NodeId} {e' : Bearer}
    (begins' : BeginsAt s' id' node' e') (sameTag : e'.tag = e.tag)
    (alone : e'.isComponent = false)
    (same : e'.attributes.entries.Perm e.attributes.entries)
    (wins : Wins id value property event s (s.bindAttributes id node))
    (wins' : Wins id' value property event s' (s'.bindAttributes id' node')) :
    (∀ key, (s'.bindAttributes id' node').stored? id' key =
      (s.bindAttributes id node).stored? id key) ∧
    ∀ other, ((s'.bindAttributes id' node').handlersOf id' other).Perm
      ((s.bindAttributes id node).handlersOf id other) := by
  obtain ⟨doubles', twoWay, found⟩ := doubles.perm sameTag alone same
  refine ⟨fun key => ?_, fun other => ?_⟩
  · rw [stored?_of_wins begins' doubles' wins', stored?_of_wins begins doubles wins, found]
  · have runs : ∀ entry ∈ e.attributes.entries,
        e'.runs entry.1 entry.2 = e.runs entry.1 entry.2 := by
      intro entry member
      by_cases isBound : entry.1 = bound
      · have held := OrderedMap.find?_of_mem doubles.distinct member
        rw [isBound] at held
        obtain rfl := Option.some.inj (held.symm.trans doubles.twoWay)
        rw [isBound, runs_of_wins begins' doubles' wins', runs_of_wins begins doubles wins]
      · have plain := doubles.only entry member isBound
        rw [Bearer.runs_of_other plain, Bearer.runs_of_other plain]
    rw [handlersOf_end begins' doubles', handlersOf_end begins doubles]
    refine List.Perm.filter _ ((same.flatMap_right _).trans (List.Perm.of_eq ?_))
    exact List.flatMap_congr runs

/-- The two-way attribute wins unless the other one came first with a binding, and either was bound
under a name with other letters or took a radio button. Where it wins whatever the order, the order
makes no difference. -/
theorem wins_unless_boundFirst :
    (Wins id value property event s (s.bindAttributes id node) ↔
      ¬ (e.BoundFirst bound property static ∧
        (Text.lowered property ≠ property ∨ e.ChecksRadio bound property))) ∧
    (e.BoundFirst bound property static → e.ChecksRadio bound property →
      (s.bindAttributes id node).stored? id property =
          some (.ofSegments (Binding.scan static) .plain) ∧
        (∀ other, ((s.bindAttributes id node).handlersOf id other).filter
          Binding.Handler.writesBack = []) ∧
        ∃ notes, (s.bindAttributes id node).reports = s.reports ++ notes ∧
          (notes.map Diagnostic.problem).filter Problem.isDuplicate = [] ∧
          (notes.map Diagnostic.problem).filter (·.severity = .error) = [.radioTwice]) ∧
    (e.BoundFirst bound property static → Text.lowered property ≠ property →
      (s.bindAttributes id node).stored? id property =
          some (.direct (.ofText (Text.trimmed value)) .plain) ∧
        (s.bindAttributes id node).stored? id (Text.lowered property) =
          some (.ofSegments (Binding.scan static) .plain) ∧
        (∀ other, ((s.bindAttributes id node).handlersOf id other).filter
          Binding.Handler.writesBack = if event = other then
            [{ event, action := .assignProperty (Text.trimmed value) property }] else []) ∧
        ∃ notes, (s.bindAttributes id node).reports = s.reports ++ notes ∧
          (notes.map Diagnostic.problem).filter Problem.isDuplicate =
            [.shadowedAttribute (Text.lowered property)] ∧
          notes.ofSeverity .error = []) ∧
    ∀ s' id' node' e', BeginsAt s' id' node' e' → e'.tag = e.tag → e'.isComponent = false →
      e'.attributes.entries.Perm e.attributes.entries →
        Wins id value property event s (s.bindAttributes id node) →
        Wins id' value property event s' (s'.bindAttributes id' node') →
          (∀ key, (s'.bindAttributes id' node').stored? id' key =
            (s.bindAttributes id node).stored? id key) ∧
          ∀ other, ((s'.bindAttributes id' node').handlersOf id' other).Perm
            ((s.bindAttributes id node).handlersOf id other) := by
  have letters : Text.sameLetters property (Text.lowered property) = true := by
    rw [Text.sameLetters, lowered_lowered doubles.known, beq_self_eq_true]
  have apart (spelled : Text.lowered property ≠ property) :
      ¬ (e.ChecksRadio bound property ∧ e.BoundFirst bound property static) := by
    rintro ⟨radio, -⟩
    rw [doubles.eq_checked radio] at spelled
    exact spelled (by decide)
  have beside (first : e.BoundFirst bound property static)
      (spelled : Text.lowered property ≠ property) :
      (s.bindAttributes id node).stored? id (Text.lowered property) =
        some (.ofSegments (Binding.scan static) .plain) := by
    rw [stored?_sameLetters begins doubles (apart spelled) letters spelled, if_pos ⟨rfl, first⟩]
  refine ⟨⟨?_, fun sound => ?_⟩, fun first radio => taken_end begins doubles radio first,
    fun first spelled => ?_, fun s' id' node' e' begins' sameTag alone same wins wins' =>
      agree_of_wins begins doubles begins' sameTag alone same wins wins'⟩
  · rintro wins ⟨first, spelled | radio⟩
    · exact spelled (wins.only _ letters (by rw [beside first spelled]; rfl))
    · exact free_of_wins begins doubles wins ⟨radio, first⟩
  · have free : ¬ (e.ChecksRadio bound property ∧ e.BoundFirst bound property static) :=
      fun both => sound ⟨both.2, .inr both.1⟩
    obtain ⟨stored, handled, reported⟩ := installed_end begins doubles free
    refine ⟨stored, fun key letters isStored => ?_, handled, reported⟩
    by_contra other
    rw [stored?_sameLetters begins doubles free letters other] at isStored
    split at isStored
    · next first => exact sound ⟨first.2, .inl fun same => other (first.1.trans same)⟩
    · cases isStored
  · obtain ⟨stored, handled, reported⟩ := installed_end begins doubles (apart spelled)
    exact ⟨stored, beside first spelled, handled, reported⟩

end Doubled

/-! ## Elements with both attributes -/

/-- `value="{{w}}" on-focus="f()" bind-value="v"` -/
def boundTwice : List (String × String) :=
  [("value", "\x7b\x7bw\x7d\x7d"), ("on-focus", "f()"), ("bind-value", "v")]

theorem wins_unless_boundFirst_boundTwice :
    Wins 0 "v" "value" "onInput" (reading "textarea" boundTwice)
        ((reading "textarea" boundTwice).bindAttributes 0 1) ∧
      (∀ key, ((reading "textarea" boundTwice.reverse).bindAttributes 0 1).stored? 0 key =
        ((reading "textarea" boundTwice).bindAttributes 0 1).stored? 0 key) ∧
      ∀ other, (((reading "textarea" boundTwice.reverse).bindAttributes 0 1).handlersOf 0 other).Perm
        (((reading "textarea" boundTwice).bindAttributes 0 1).handlersOf 0 other) := by
  have doubles : Bearer.Doubles ⟨"textarea", ⟨boundTwice⟩, false⟩ "bind-value" "v" "value" "onInput"
      "\x7b\x7bw\x7d\x7d" := by
    refine ⟨rfl, ?_, by decide, by decide, .inl rfl, by decide, by decide⟩
    unfold OrderedMap.Distinct
    decide
  have begins := begins_reading "textarea" boundTwice
  have begins' := begins_reading "textarea" boundTwice.reverse
  have same : boundTwice.reverse.Perm boundTwice := boundTwice.reverse_perm
  have sameTag : (Bearer.mk "textarea" ⟨boundTwice.reverse⟩ false).tag = "textarea" := rfl
  have doubles' := (doubles.perm sameTag rfl same).1
  have lowered : Text.lowered "value" = "value" := by decide
  have notRadio : "value" ≠ "checked" := by decide
  have wins := (wins_unless_boundFirst begins doubles).1.2 fun both =>
    both.2.elim (fun spelled => spelled lowered) fun radio => notRadio (doubles.eq_checked radio)
  have wins' := (wins_unless_boundFirst begins' doubles').1.2 fun both =>
    both.2.elim (fun spelled => spelled lowered) fun radio => notRadio (doubles'.eq_checked radio)
  exact ⟨wins, (wins_unless_boundFirst begins doubles).2.2.2 _ 0 1 _ begins' rfl rfl same wins wins'⟩

/-- The binding of a list that came first stays beside the two-way one, and a radio button that is
bound to `checked` keeps that. -/
theorem not_wins_boundFirst :
    ¬ Wins 0 "v" "selectedIndex" "onChange"
        (reading "select" [("selectedindex", "\x7b\x7bw\x7d\x7d"), ("bind-selectedindex", "v")])
        ((reading "select"
          [("selectedindex", "\x7b\x7bw\x7d\x7d"), ("bind-selectedindex", "v")]).bindAttributes 0 1) ∧
      ¬ Wins 0 "v" "checked" "onChange"
        (reading "input"
          [("type", "radio"), ("checked", "\x7b\x7bw\x7d\x7d"), ("bind-checked", "v")])
        ((reading "input" [("type", "radio"), ("checked", "\x7b\x7bw\x7d\x7d"),
          ("bind-checked", "v")]).bindAttributes 0 1) := by
  constructor
  · intro wins
    have other := wins.only "selectedindex" (by decide) (by decide +kernel)
    revert other
    decide
  · intro wins
    have handled := wins.handled "onChange"
    revert handled
    decide +kernel

end Pass
end ComponentMarkup
