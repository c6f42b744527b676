import ComponentMarkup.Binding.Expr
import ComponentMarkup.Proofs.Annotated.Accepted
import ComponentMarkup.Proofs.Text

/-!
The event of a native two-way attribute assigns to the expression that its binding reads. The one-time
modifier is the exception: it belongs to the binding alone, but the event assigns to it as well.
-/

namespace ComponentMarkup

namespace Binding

/-! ## The modifier -/

section Modifier
variable {expr text cs : List Char} {c : Char}

/-- The text is the expression, a bar and the modifier, with nothing but blanks between them. -/
def Modifies (expr text : List Char) : Prop :=
  ∃ before after, (∀ c ∈ before ++ after, Text.isBlank c = true) ∧
    text = expr ++ before ++ '|' :: (after ++ "final".toList)

theorem splitFinal_cases (text : List Char) :
    splitFinal text = (text, false) ∨ ∃ expr, splitFinal text = (expr, true) ∧ Modifies expr text := by
  unfold splitFinal
  split
  · exact .inl rfl
  · next head found =>
    split
    · exact .inl rfl
    · next rest _ bar =>
      obtain ⟨after, blankAfter, isHead⟩ := Text.exists_blanks_trimStart head
      obtain ⟨before, blankBefore, isRest⟩ := Text.exists_blanks_trimStart rest
      refine .inr ⟨_, rfl, before.reverse, after.reverse, fun c member => ?_, ?_⟩
      · rw [List.mem_append, List.mem_reverse, List.mem_reverse] at member
        exact member.elim (blankBefore c) (blankAfter c)
      · rw [Text.trimStart, bar, ← isRest] at isHead
        rw [← text.reverse_reverse, ← Text.afterLead?_eq_some.1 found, ← isHead]
        simp [Text.trimStart]
    · exact .inl rfl

/-- What ends otherwise has no modifier. -/
theorem splitFinal_concat (other : c ≠ 'l') (cs : List Char) :
    splitFinal (cs ++ [c]) = (cs ++ [c], false) := by
  have missing : Text.afterLead? "final".toList.reverse (cs ++ [c]).reverse = none := by
    rw [List.reverse_append]
    exact if_neg (Ne.symm other)
  rw [splitFinal, missing]

end Modifier

/-! ## Assigned expressions -/

variable {text value : String}

namespace Expr

theorem ofText_trimmed (value : String) : (ofText (Text.trimmed value)).text = (ofText value).text ∧
    (ofText (Text.trimmed value)).isFinal = (ofText value).isFinal := by
  rw [ofText, ofRaw, Text.trimmed, String.toList_ofList, Text.trim_trim]
  exact ⟨rfl, rfl⟩

/-- The modifier aside, nothing but the blanks around it is taken off an expression. -/
theorem ofText_cases (value : String) :
    (ofText value).isFinal = false ∧ (ofText value).text = Text.trimmed value ∨
      (ofText value).isFinal = true ∧
        Modifies (ofText value).text.toList (Text.trimmed value).toList := by
  rw [ofText, ofRaw, Text.trimmed, String.toList_ofList]
  rcases splitFinal_cases (Text.trim value.toList) with same | ⟨expr, split, modifies⟩
  · rw [same]
    exact .inl ⟨rfl, rfl⟩
  · rw [split]
    refine .inr ⟨rfl, ?_⟩
    rwa [String.toList_ofList]

end Expr

namespace Action

/-- The expression that an action assigns to. -/
def target? : Action → Option String
  | .inline _ => none
  | .assignProperty target _ | .assignLiteral target _ => some target

/-- A bound text reads what the action assigns to. An action that assigns a literal stands for a
choice, and there the text compares the two. -/
def IsReadBy (text : String) : Action → Prop
  | .inline _ => False
  | .assignProperty target _ => text = target
  | .assignLiteral target literal => ∃ gap, (∀ c ∈ gap, Text.isBlank c = true) ∧
      text.toList = target.toList ++ gap ++ "== ".toList ++ (Text.Quoted.literal literal).toList

/-- What is assigned to is what the text reads, without blanks around it and without a modifier. -/
structure WritesBack (text : String) (action : Action) : Prop where
  read : action.IsReadBy text
  trimmed : ∀ target ∈ action.target?, Text.trimmed target = target
  unmodified : ∀ target ∈ action.target?, (Expr.ofText target).isFinal = false

theorem writesBack_iff {action : Action} (target : action.target? = some (Text.trimmed value))
    (read : action.IsReadBy text ∨ (Expr.ofText value).isFinal = true) :
    action.WritesBack text ↔ (Expr.ofText value).isFinal = false := by
  constructor
  · intro writes
    rw [← (Expr.ofText_trimmed value).2]
    exact writes.unmodified _ target
  · intro unmodified
    rw [unmodified] at read
    refine ⟨read.resolve_right Bool.false_ne_true, fun other isTarget => ?_, fun other isTarget => ?_⟩
    · obtain rfl := Option.some.inj (target.symm.trans isTarget)
      exact Text.trimmed_trimmed value
    · obtain rfl := Option.some.inj (target.symm.trans isTarget)
      rwa [(Expr.ofText_trimmed value).2]

end Action
end Binding

/-- The condition of a radio button compares the whole expression, a modifier included. -/
theorem Pass.isReadBy_radioCondition (value literal : String) :
    (Binding.Action.assignLiteral (Text.trimmed value) literal).IsReadBy
      (Binding.Expr.ofText (radioCondition (Text.trimmed value) literal)).text := by
  have quoted := Text.Quoted.toList_literal literal
  have quote : Text.isBlank '\'' = false := by decide
  have solid : Text.trimStart (Text.trimmed value).toList = (Text.trimmed value).toList := by
    rw [Text.trimmed, String.toList_ofList, Text.trimStart_trim]
  obtain ⟨gap, blank, trimmed⟩ : ∃ gap, (∀ c ∈ gap, Text.isBlank c = true) ∧
      Text.trim (radioCondition (Text.trimmed value) literal).toList =
        (Text.trimmed value).toList ++ gap ++ "== ".toList ++
          ('\'' :: Text.Quoted.encode literal.toList) ++ ['\''] := by
    have equals : " == ".toList = ' ' :: "== ".toList := by decide
    rw [radioCondition, String.toList_append, String.toList_append, quoted, equals]
    generalize (Text.trimmed value).toList = target at *
    by_cases empty : target = []
    · have first : Text.trimStart "== ".toList = "== ".toList := by decide
      have kept := Text.trim_append_concat first (by decide)
        ('\'' :: Text.Quoted.encode literal.toList) quote
      refine ⟨[], fun c member => absurd member List.not_mem_nil, ?_⟩
      rw [empty, List.nil_append, List.nil_append, List.append_assoc, List.cons_append,
        Text.trim_cons_of_pos (by decide), kept, List.nil_append]
    · have kept := Text.trim_append_concat solid empty
        (' ' :: "== ".toList ++ '\'' :: Text.Quoted.encode literal.toList) quote
      refine ⟨[' '], fun c member => ?_, by simpa using kept⟩
      rw [List.mem_singleton.1 member]
      rfl
  refine ⟨gap, blank, ?_⟩
  rw [Binding.Expr.ofText, Binding.Expr.ofRaw, trimmed, Binding.splitFinal_concat (by decide),
    quoted, String.toList_ofList, List.append_assoc]

namespace Pass
variable {s t : Pass} {id : AnnotatedId} {node : NodeId} {e : Bearer} {begun : String → Bool}
  {name value : String} {done rest before after : List (String × String)}

/-- What is natively installed is one binding and one handler, and the handler assigns to the trimmed
value of the attribute. -/
theorem Outcome.native (outcome : Outcome e node id name value s t)
    (native : (e.native? name).isSome = true) : e.installs name = true ∧
      ∃ key expr event action, e.stores? name value = some (key, .direct expr .plain) ∧
        e.runs name value = [{ event, action }] ∧ action.target? = some (Text.trimmed value) ∧
        (action.IsReadBy expr.text ∨ (Binding.Expr.ofText value).isFinal = true ∧
          Binding.Modifies expr.text.toList (Text.trimmed value).toList) := by
  cases outcome with
  | @property property event installs =>
      refine ⟨installs.native?.2, _, _, _, _, installs.stores? value, installs.runs value, rfl, ?_⟩
      rw [(Binding.Expr.ofText_trimmed value).1]
      exact (Binding.Expr.ofText_cases value).imp_left And.right
  | @choice static installs =>
      refine ⟨installs.native?.2, _, _, _, _, installs.stores? value, installs.runs value, rfl, .inl ?_⟩
      exact isReadBy_radioCondition value static
  | input chosen =>
      rw [(Bearer.of_component value chosen).1] at native
      cases native
  | refused objected taken =>
      rw [(Bearer.of_objection? value objected).1] at native
      cases native

/-- At its turn a native two-way attribute installs a binding and a handler that write back what they
read exactly when its value has no one-time modifier. With one, the expression that the binding reads
is what stands before the modifier, or the modifier stays in both. -/
theorem writesBack_iff_unmodified (begins : s.BeginsAt id node e)
    (distinct : OrderedMap.Distinct e.attributes.entries)
    (entries : e.attributes.entries = before ++ (name, value) :: after)
    (native : (e.native? name).isSome = true) :
    let turn := s.readTo id node before
    ∃ key expr event action,
      Accepts id name key (.direct expr .plain) [{ event, action }] turn
        (bindAttribute id node turn name value) ∧
      action.target? = some (Text.trimmed value) ∧
      (action.WritesBack expr.text ↔ (Binding.Expr.ofText value).isFinal = false) ∧
      (action.IsReadBy expr.text ∨
        Binding.Modifies expr.text.toList (Text.trimmed value).toList) := by
  intro turn
  have read := begins.readTo distinct entries
  cases twoWay : Text.after? "bind-" name with
  | none =>
      rw [Bearer.native?_eq_none (Bearer.twoWay?_eq_none twoWay)] at native
      cases native
  | some hyphenated =>
      rw [read.bindAttribute_eq entries distinct begins.steering twoWay]
      obtain ⟨installed, key, expr, event, action, stores, runs, target, reads⟩ :=
        (read.outcome entries distinct twoWay).native native
      have accepts := read.accepts entries distinct twoWay installed stores
      rw [runs] at accepts
      exact ⟨key, expr, event, action, accepts, target,
        Binding.Action.writesBack_iff target (reads.imp_right And.left), reads.imp_right And.right⟩

/-- `type="radio" value="red" bind-value=" c "` -/
def colorRadio : List (String × String) :=
  [("type", "radio"), ("value", "red"), ("bind-value", " c ")]

theorem writesBack_iff_unmodified_colorRadio : ∃ key expr event action,
    Accepts 0 "bind-value" key (.direct expr .plain) [{ event, action }]
      ((reading "input" colorRadio).readTo 0 1 (colorRadio.take 2))
      (bindAttribute 0 1 ((reading "input" colorRadio).readTo 0 1 (colorRadio.take 2))
        "bind-value" " c ") ∧
      action.target? = some "c" ∧ action.WritesBack expr.text := by
  have distinct : OrderedMap.Distinct colorRadio := by
    unfold OrderedMap.Distinct
    decide
  have split : colorRadio = colorRadio.take 2 ++ ("bind-value", " c ") :: [] := rfl
  obtain ⟨key, expr, event, action, accepts, target, writes, -⟩ :=
    writesBack_iff_unmodified (begins_reading "input" colorRadio) distinct split (by decide)
  exact ⟨key, expr, event, action, accepts, target, writes.2 (by decide)⟩

/-- `<input bind-value="x | final">` is shown `x`, but assigns to `x | final`. -/
theorem not_writesBack_modified :
    let t := (reading "input" [("bind-value", "x | final")]).bindAttributes 0 1
    ∃ expr action, t.stored? 0 "value" = some (.direct expr .plain) ∧
      t.handlersOf 0 inputEvent = [{ event := inputEvent, action }] ∧
      expr.text = "x" ∧ action = .assignProperty "x | final" "value" ∧
      ¬ action.WritesBack expr.text := by
  intro t
  refine ⟨.ofText "x | final", _, by decide, by decide, by decide, rfl, fun writes => ?_⟩
  have isTarget := writes.read
  have differs : (Binding.Expr.ofText "x | final").text ≠ "x | final" := by decide
  exact differs isTarget

end Pass
end ComponentMarkup
