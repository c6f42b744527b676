import ComponentMarkup.Proofs.Annotated.Stored

/-!
A native two-way attribute beside the attribute of the same property: which of the two is bound, what
is reported, and when it matters which of them comes first.
-/

namespace ComponentMarkup

namespace Bearer

/-- Whether an attribute stands before another one. -/
def precedes (e : Bearer) (first second : String) : Bool :=
  (e.attributes.entries.takeWhile (·.1 != second)).any (·.1 == first)

/-- Of the attributes of an element without component, `bound` alone is two-way. It is natively bound
to `property`, and the attribute of that name is there as well, spelled in small letters only. -/
structure Doubles (e : Bearer) (bound value property event static : String) : Prop where
  alone : e.isComponent = false
  distinct : OrderedMap.Distinct e.attributes.entries
  twoWay : e.attributes.find? bound = some value
  only : ∀ entry ∈ e.attributes.entries, entry.1 ≠ bound → Text.after? "bind-" entry.1 = none
  chosen : e.twoWay? bound = some (property, .native event) ∨
    e.twoWay? bound = some (property, .radioChecked) ∧ event = changeEvent
  beside : e.attributes.find? (Text.lowered property) = some static
  spelled : ∀ entry ∈ e.attributes.entries, Text.sameLetters property entry.1 = true →
    entry.1 = Text.lowered property

/-- The attribute of the property has been bound before the two-way attribute has its turn. -/
def BoundFirst (e : Bearer) (bound property static : String) : Prop :=
  e.precedes (Text.lowered property) bound = true ∧ Binding.hasBinding static = true

instance (e : Bearer) (bound property static : String) :
    Decidable (e.BoundFirst bound property static) :=
  inferInstanceAs (Decidable (_ ∧ _))

/-- The element is a radio button, and `bound` its attribute for `checked`. -/
def ChecksRadio (e : Bearer) (bound property : String) : Prop :=
  e.twoWay? bound = some (property, .radioChecked)

variable {e e' : Bearer} {bound value property event static name : String}
  {before after : List (String × String)}

theorem precedes_eq (entries : e.attributes.entries = before ++ (bound, value) :: after)
    (distinct : OrderedMap.Distinct e.attributes.entries) (name : String) :
    e.precedes name bound = before.any (·.1 == name) := by
  rw [entries] at distinct
  rw [precedes, entries, List.takeWhile_append_of_pos, List.takeWhile_cons_of_neg, List.append_nil]
  · simp
  · intro entry member
    rw [bne, OrderedMap.not_beq_of_distinct distinct member]
    rfl

namespace Doubles
variable (doubles : e.Doubles bound value property event static)
include doubles

theorem isTwoWay : ∃ hyphenated, Text.after? "bind-" bound = some hyphenated ∧
    canonicalProperty hyphenated = property ∧ property ∈ knownProperties := by
  have native {choice : TwoWay} (chosen : e.twoWay? bound = some (property, choice))
      (known : ∀ name, TwoWay.choose e.tag e.type property name e.isComponent = choice →
        property ∈ knownProperties) :
      ∃ hyphenated, Text.after? "bind-" bound = some hyphenated ∧
        canonicalProperty hyphenated = property ∧ property ∈ knownProperties := by
    obtain ⟨hyphenated, twoWay, same⟩ := Option.map_eq_some_iff.1 chosen
    obtain ⟨isProperty, isChoice⟩ := Prod.mk.inj same
    rw [isProperty] at isChoice
    exact ⟨hyphenated, twoWay, isProperty, known bound isChoice⟩
  rcases doubles.chosen with chosen | ⟨chosen, -⟩
  · exact native chosen fun _ => TwoWay.mem_known_of_native
  · exact native chosen fun _ choice => TwoWay.eq_checked_of_radioChecked choice ▸ by decide

theorem known : property ∈ knownProperties :=
  let ⟨_, _, _, known⟩ := doubles.isTwoWay
  known

theorem exists_split : ∃ before after, e.attributes.entries = before ++ (bound, value) :: after :=
  OrderedMap.exists_split doubles.twoWay

/-- A radio button is bound to `checked`, which is in small letters. -/
theorem eq_checked (radio : e.ChecksRadio bound property) : property = "checked" := by
  obtain ⟨hyphenated, -, same⟩ := Option.map_eq_some_iff.1 radio
  obtain ⟨rfl, isChoice⟩ := Prod.mk.inj same
  exact TwoWay.eq_checked_of_radioChecked isChoice

/-- The order of the attributes plays no part. -/
theorem perm (sameTag : e'.tag = e.tag) (alone : e'.isComponent = false)
    (same : e'.attributes.entries.Perm e.attributes.entries) :
    e'.Doubles bound value property event static ∧ e'.twoWay? bound = e.twoWay? bound ∧
      ∀ name, e'.attributes.find? name = e.attributes.find? name := by
  have distinct := OrderedMap.distinct_of_perm doubles.distinct same
  have found := OrderedMap.find?_of_perm doubles.distinct same
  have twoWay : e'.twoWay? bound = e.twoWay? bound := by
    rw [twoWay?, twoWay?, type, type, found, sameTag, alone, doubles.alone]
  refine ⟨⟨alone, distinct, ?_, fun entry member => ?_, ?_, ?_, fun entry member => ?_⟩, twoWay, found⟩
  · rw [found, doubles.twoWay]
  · exact doubles.only entry (same.mem_iff.1 member)
  · rw [twoWay]
    exact doubles.chosen
  · rw [found, doubles.beside]
  · exact doubles.spelled entry (same.mem_iff.1 member)

variable (entries : e.attributes.entries = before ++ (bound, value) :: after)
include entries

theorem plain_of_mem {entry : String × String} (member : entry ∈ before ++ after) :
    entry ∈ e.attributes.entries ∧ entry.1 ≠ bound ∧ Text.after? "bind-" entry.1 = none := by
  have distinct := doubles.distinct
  have listed : entry ∈ e.attributes.entries := by
    rw [entries]
    rcases List.mem_append.1 member with earlier | later
    · exact List.mem_append_left _ earlier
    · exact List.mem_append_right _ (List.mem_cons_of_mem _ later)
  rw [entries] at distinct
  have other : entry.1 ≠ bound := OrderedMap.ne_of_distinct distinct member
  exact ⟨listed, other, doubles.only entry listed other⟩

theorem distinct_parts : OrderedMap.Distinct before ∧ OrderedMap.Distinct after := by
  have distinct := doubles.distinct
  rw [entries] at distinct
  obtain ⟨first, second, -⟩ := List.pairwise_append.1 distinct
  exact ⟨first, (List.pairwise_cons.1 second).2⟩

/-- Whatever the two-way attribute asks for, only the attribute of the name `checked` can have been
bound to `checked` before it. -/
theorem any_asksChecked : (before.any fun entry => e.asksChecked entry.1 entry.2) = true ↔
    ∃ entry ∈ before, entry.1 = "checked" ∧ Binding.hasBinding entry.2 = true := by
  rw [List.any_eq_true]
  refine exists_congr fun entry => and_congr_right fun member => ?_
  rw [asksChecked_of_other (doubles.plain_of_mem entries (List.mem_append_left _ member)).2.2,
    doubles.alone, Bool.false_or, Bool.and_eq_true, beq_iff_eq]

theorem boundFirst_iff : e.BoundFirst bound property static ↔
    ∃ entry ∈ before, entry.1 = Text.lowered property ∧ Binding.hasBinding entry.2 = true := by
  rw [BoundFirst, precedes_eq entries doubles.distinct, List.any_eq_true]
  constructor
  · rintro ⟨⟨⟨name, value'⟩, member, isName⟩, bound⟩
    obtain rfl := eq_of_beq isName
    have listed := (doubles.plain_of_mem entries (List.mem_append_left _ member)).1
    have found := OrderedMap.find?_of_mem doubles.distinct listed
    obtain rfl := Option.some.inj (found.symm.trans doubles.beside)
    exact ⟨_, member, rfl, bound⟩
  · rintro ⟨⟨name, value'⟩, member, rfl, bound⟩
    have listed := (doubles.plain_of_mem entries (List.mem_append_left _ member)).1
    have found := OrderedMap.find?_of_mem doubles.distinct listed
    obtain rfl := Option.some.inj (found.symm.trans doubles.beside)
    exact ⟨⟨_, member, beq_self_eq_true _⟩, bound⟩

/-- What the two-way attribute lets its event run, unless a radio button has been bound to `checked`
before. -/
theorem runs_eq : (¬ (e.ChecksRadio bound property ∧ e.BoundFirst bound property static) →
      e.runs bound value = [{ event, action := .assignProperty (Text.trimmed value) property }]) ∧
    (e.ChecksRadio bound property → e.BoundFirst bound property static →
      e.runs bound value = []) := by
  have radio (chosen : e.ChecksRadio bound property) : e.takesChecked bound = true ↔
      ¬ e.BoundFirst bound property static := by
    have isChecked := doubles.eq_checked chosen
    rw [takesChecked_eq entries doubles.distinct, (of_radioChecked value chosen).2.2.1, isChecked,
      Bool.and_eq_true, Bool.not_eq_true', ← Bool.not_eq_true, doubles.any_asksChecked entries,
      ← isChecked, doubles.boundFirst_iff entries, isChecked]
    exact and_iff_right (beq_self_eq_true _)
  constructor
  · intro free
    rcases doubles.chosen with chosen | ⟨chosen, rfl⟩
    · exact (of_native value chosen).2.2.2
    · rw [(of_radioChecked value chosen).2.2.2, if_pos]
      exact (radio chosen).2 fun first => free ⟨chosen, first⟩
  · intro chosen first
    rw [(of_radioChecked value chosen).2.2.2, if_neg]
    exact fun taken => (radio chosen).1 taken first

end Doubles
end Bearer

namespace Pass
variable {s s' t : Pass} {id id' : AnnotatedId} {node node' : NodeId} {e e' : Bearer}
  {bound value property event static key : String} {before after : List (String × String)}

section Turn
variable (begins : s.BeginsAt id node e) (doubles : e.Doubles bound value property event static)
  (entries : e.attributes.entries = before ++ (bound, value) :: after)
include begins doubles

theorem BeginsAt.noComponent : s.component? id = none := by
  rw [← Option.not_isSome_iff_eq_none, begins.component, doubles.alone]
  exact Bool.false_ne_true

include entries

theorem hasRead_turn : HasRead e node id (s.isStripped id) before (s.readTo id node before) :=
  begins.readTo doubles.distinct entries

theorem stored?_turn (key : String) : (s.readTo id node before).stored? id key =
    ((OrderedMap.mk before).find? key).bind (Bearer.boundAs key) := by
  rw [readTo, stored?_foldl (doubles.distinct_parts entries).1
    (fun entry member => (doubles.plain_of_mem entries (List.mem_append_left _ member)).2.2)
    begins.bare.holds (begins.noComponent doubles), begins.bare.stored?, Option.or_none]
  refine Option.bind_congr fun value _ => ?_
  split
  · next steered => rw [Bearer.boundAs_of_directive (begins.steering key steered)]
  · rfl

/-- Before its turn an attribute is stripped of nothing but what steers the pass, unless it has been
read. -/
theorem isStripped_turn (unread : ∀ entry ∈ before, entry.1 ≠ key) :
    (s.readTo id node before).isStripped id key = s.isStripped id key := by
  rw [(hasRead_turn begins doubles entries).stripped, List.any_eq_false.2, Bool.or_false]
  intro entry member
  obtain ⟨-, -, plain⟩ := doubles.plain_of_mem entries (List.mem_append_left _ member)
  rw [Bearer.takes_of_other plain, beq_eq_false_iff_ne.2 (unread entry member), Bool.false_and]
  exact Bool.false_ne_true

/-- When a two-way attribute has its turn, nothing keeps it from being read. -/
theorem bindAttribute_turn : bindAttribute id node (s.readTo id node before) bound value =
    (s.readTo id node before).bindTwoWay id node bound property value := by
  obtain ⟨hyphenated, twoWay, rfl, -⟩ := doubles.isTwoWay
  exact (hasRead_turn begins doubles entries).bindAttribute_eq entries doubles.distinct
    begins.steering twoWay

theorem hasBinding_turn : (s.readTo id node before).hasBinding id "checked" = true ↔
    ∃ entry ∈ before, entry.1 = "checked" ∧ Binding.hasBinding entry.2 = true := by
  rw [(hasRead_turn begins doubles entries).checked, doubles.any_asksChecked entries]

/-- The way in which the two-way attribute is bound. -/
theorem choose_turn {choice : TwoWay} (chosen : e.twoWay? bound = some (property, choice)) :
    TwoWay.choose (((s.readTo id node before).document.tag? node).getD "")
      (Text.lowered (Text.trimmed (((s.readTo id node before).document.attribute? node
        "type").getD ""))) property bound ((s.readTo id node before).component? id).isSome =
      choice := by
  have read := hasRead_turn begins doubles entries
  obtain ⟨hyphenated, -, same⟩ := Option.map_eq_some_iff.1 chosen
  obtain ⟨isProperty, isChoice⟩ := Prod.mk.inj same
  rw [read.tag, read.type_eq, read.component, Option.getD_some, ← isChoice, isProperty]

/-- It is installed, unless a radio button has been bound to `checked` before. -/
theorem install_turn (free : e.ChecksRadio bound property → ¬ e.BoundFirst bound property static) :
    bindAttribute id node (s.readTo id node before) bound value =
      ((s.readTo id node before).install id node property (Text.trimmed value) event
        (.assignProperty (Text.trimmed value) property)).strip id bound := by
  rw [bindAttribute_turn begins doubles entries, bindTwoWay]
  rcases doubles.chosen with chosen | ⟨chosen, rfl⟩
  · rw [choose_turn begins doubles entries chosen]
  · rw [choose_turn begins doubles entries chosen]
    refine if_neg fun taken => free chosen ?_
    rw [hasBinding_turn begins doubles entries] at taken
    rw [doubles.boundFirst_iff entries, doubles.eq_checked chosen]
    exact taken

theorem report_turn (radio : e.ChecksRadio bound property)
    (first : e.BoundFirst bound property static) :
    bindAttribute id node (s.readTo id node before) bound value =
      (s.readTo id node before).report .radioTwice node := by
  rw [bindAttribute_turn begins doubles entries, bindTwoWay,
    choose_turn begins doubles entries radio]
  refine if_pos ?_
  rw [hasBinding_turn begins doubles entries]
  rwa [doubles.boundFirst_iff entries, doubles.eq_checked radio] at first

/-! ## After the turn -/

/-- What is stored in the end for a name, by what is stored and stripped when the two-way attribute has
had its turn. -/
theorem stored?_end (key : String) : (s.bindAttributes id node).stored? id key =
    (((OrderedMap.mk after).find? key).bind fun value' =>
      if (bindAttribute id node (s.readTo id node before) bound value).isStripped id key then none
      else Bearer.boundAs key value').or
      ((bindAttribute id node (s.readTo id node before) bound value).stored? id key) := by
  have read := hasRead_turn begins doubles entries
  have edits : Edits id node (s.readTo id node before)
      (bindAttribute id node (s.readTo id node before) bound value) :=
    Edits.refl.bindAttribute bound value
  have noComponent : (s.readTo id node before).component? id = none := by
    rw [← Option.not_isSome_iff_eq_none, read.component, doubles.alone]
    exact Bool.false_ne_true
  rw [begins.bindAttributes_eq entries, readTo]
  exact stored?_foldl (doubles.distinct_parts entries).2
    (fun entry member => (doubles.plain_of_mem entries (List.mem_append_right _ member)).2.2)
    (read.holds.edits edits) ((congrFun edits.quiet.bound id).trans noComponent) key

/-- Where the two-way attribute changes nothing, each attribute is bound under its own name. -/
theorem stored?_elsewhere
    (stored : (bindAttribute id node (s.readTo id node before) bound value).stored? id key =
      (s.readTo id node before).stored? id key)
    (stripped : key ≠ bound →
      (bindAttribute id node (s.readTo id node before) bound value).isStripped id key =
        (s.readTo id node before).isStripped id key) :
    (s.bindAttributes id node).stored? id key =
      (e.attributes.find? key).bind (Bearer.boundAs key) := by
  rw [stored?_end begins doubles entries, stored, stored?_turn begins doubles entries]
  by_cases isBound : key = bound
  · obtain ⟨hyphenated, twoWay, -⟩ := doubles.isTwoWay
    have none (found : Option String) : found.bind (Bearer.boundAs key) = none := by
      rw [isBound, Option.bind_eq_none_iff]
      exact fun value _ => Bearer.boundAs_of_twoWay twoWay
    rw [none, none, Option.or_none, Option.bind_eq_none_iff]
    intro value' _
    rw [isBound, Bearer.boundAs_of_twoWay twoWay, ite_self]
  · have other : ((bound, value).1 == key) = false := beq_eq_false_iff_ne.2 (Ne.symm isBound)
    have whole : e.attributes.find? key =
        ((OrderedMap.mk before).find? key).or ((OrderedMap.mk after).find? key) := by
      rw [OrderedMap.find?, entries]
      exact OrderedMap.find?_of_other other
    rw [whole]
    cases earlier : (OrderedMap.mk before).find? key with
    | some value' =>
        rw [OrderedMap.find?_eq_none_of_distinct (entries ▸ doubles.distinct) earlier]
        rfl
    | none =>
        have unread (entry : String × String) (member : entry ∈ before) : entry.1 ≠ key := by
          rw [OrderedMap.find?, Option.map_eq_none_iff, List.find?_eq_none] at earlier
          exact fun same => earlier entry member (beq_iff_eq.2 same)
        rw [stripped isBound, isStripped_turn begins doubles entries unread, Option.none_or,
          Option.bind_none, Option.or_none]
        refine Option.bind_congr fun value' _ => ?_
        split
        · next steered => rw [Bearer.boundAs_of_directive (begins.steering key steered)]
        · rfl

/-! ## With the two-way attribute installed -/

section Installed
variable (free : e.ChecksRadio bound property → ¬ e.BoundFirst bound property static)
include free

theorem stored?_installed (key : String) :
    (bindAttribute id node (s.readTo id node before) bound value).stored? id key =
      if property = key then some (.direct (.ofText (Text.trimmed value)) .plain)
      else (s.readTo id node before).stored? id key := by
  have read := hasRead_turn begins doubles entries
  rw [install_turn begins doubles entries free, stored?_strip, Overlays.install read.holds,
    lastWritten_singleton]
  split <;> rfl

theorem isStripped_installed (key : String) :
    (bindAttribute id node (s.readTo id node before) bound value).isStripped id key =
      ((s.readTo id node before).isStripped id key ||
        (Text.lowered property == key || bound == key)) := by
  have read := hasRead_turn begins doubles entries
  rw [install_turn begins doubles entries free, (Takes.install read.holds _ _ _ _ _ _).stripped]
  have has : ((s.readTo id node before).document.hasAttribute node key &&
      Text.lowered property == key) = (Text.lowered property == key) := by
    rw [Bool.and_comm, beq_and_congr (q := true), Bool.and_true]
    rintro rfl
    rw [read.hasAttribute (TwoWay.lowered_ne_class_of_known doubles.known), OrderedMap.contains,
      doubles.beside]
    rfl
  rw [has]

/-- What is stored in the end when the two-way attribute is installed. -/
theorem stored?_of_free (key : String) : (s.bindAttributes id node).stored? id key =
    if key = property then some (.direct (.ofText (Text.trimmed value)) .plain)
    else if key = Text.lowered property ∧ ¬ e.BoundFirst bound property static then none
    else (e.attributes.find? key).bind (Bearer.boundAs key) := by
  by_cases isProperty : key = property
  · subst isProperty
    rw [if_pos rfl, stored?_end begins doubles entries,
      stored?_installed begins doubles entries free, if_pos rfl, Option.or_eq_right_of_none]
    refine Option.bind_eq_none_iff.2 fun value' later => if_pos ?_
    obtain ⟨entry, member, -, isName⟩ := OrderedMap.exists_mem_of_find? later
    have isLowered : Text.lowered key = key := by
      have spelled := doubles.spelled entry
        (doubles.plain_of_mem entries (List.mem_append_right _ member)).1
        (by rw [eq_of_beq isName, Text.sameLetters, beq_self_eq_true])
      exact spelled.symm.trans (eq_of_beq isName)
    rw [isStripped_installed begins doubles entries free, beq_iff_eq.2 isLowered, Bool.true_or,
      Bool.or_true]
  · rw [if_neg isProperty]
    by_cases isLowered : key = Text.lowered property
    · subst isLowered
      -- The attribute of the property is stored if it came first and not at all if it came later.
      rw [stored?_end begins doubles entries, isStripped_installed begins doubles entries free,
        beq_self_eq_true, Bool.true_or, Bool.or_true, stored?_installed begins doubles entries free,
        if_neg (Ne.symm isProperty), stored?_turn begins doubles entries, doubles.beside]
      simp only [if_true, Option.bind_fun_none, Option.none_or, true_and, Option.bind_some]
      cases earlier : (OrderedMap.mk before).find? (Text.lowered property) with
      | none =>
          have later : ¬ e.BoundFirst bound property static := by
            rw [doubles.boundFirst_iff entries]
            rintro ⟨entry, member, isName, -⟩
            rw [OrderedMap.find?, Option.map_eq_none_iff, List.find?_eq_none] at earlier
            exact earlier entry member (beq_iff_eq.2 isName)
          rw [if_pos later]
          rfl
      | some value' =>
          obtain ⟨entry, member, rfl, isName⟩ := OrderedMap.exists_mem_of_find? earlier
          have found := OrderedMap.find?_of_mem doubles.distinct
            (doubles.plain_of_mem entries (List.mem_append_left _ member)).1
          rw [eq_of_beq isName] at found
          obtain rfl := Option.some.inj (found.symm.trans doubles.beside)
          have first : e.BoundFirst bound property entry.2 ↔ Binding.hasBinding entry.2 = true := by
            refine ⟨And.right, fun bound => (doubles.boundFirst_iff entries).2 ?_⟩
            exact ⟨entry, member, eq_of_beq isName, bound⟩
          rw [Option.bind_some, Bearer.boundAs_lowered doubles.known]
          split
          · next bound => rw [if_neg (not_not.2 (first.2 bound))]
          · rw [ite_self]
    · rw [if_neg fun both => isLowered both.1]
      refine stored?_elsewhere begins doubles entries ?_ fun other => ?_
      · rw [stored?_installed begins doubles entries free, if_neg (Ne.symm isProperty)]
      · rw [isStripped_installed begins doubles entries free,
          beq_eq_false_iff_ne.2 (Ne.symm isLowered), beq_eq_false_iff_ne.2 (Ne.symm other),
          Bool.or_false, Bool.or_false]

theorem reports_installed :
    (bindAttribute id node (s.readTo id node before) bound value).reports =
      (s.readTo id node before).reports ++ [⟨.shadowedAttribute (Text.lowered property),
        (s.readTo id node before).file.path, (s.readTo id node before).document.position node⟩] := by
  have read := hasRead_turn begins doubles entries
  have has : (s.readTo id node before).document.hasAttribute node (Text.lowered property) = true := by
    rw [read.hasAttribute (TwoWay.lowered_ne_class_of_known doubles.known), OrderedMap.contains,
      doubles.beside]
    rfl
  rw [install_turn begins doubles entries free, install, shadow, if_pos has]
  rfl

end Installed

/-! ## With a radio button that is bound already -/

section Taken
variable (radio : e.ChecksRadio bound property) (first : e.BoundFirst bound property static)
include radio first

/-- What is stored in the end when a radio button was bound to `checked` before. -/
theorem stored?_of_taken (key : String) : (s.bindAttributes id node).stored? id key =
    (e.attributes.find? key).bind (Bearer.boundAs key) := by
  have turn := report_turn begins doubles entries radio first
  exact stored?_elsewhere begins doubles entries (by rw [turn]; rfl) fun _ => by rw [turn]; rfl

end Taken

/-! ## Reports and handlers -/

/-- Of the event handlers that are left to the browser apart, what is reported at the turn of the
two-way attribute is all that is. -/
theorem reports_end {d : Diagnostic}
    (turn : (bindAttribute id node (s.readTo id node before) bound value).reports =
      (s.readTo id node before).reports ++ [d]) :
    ∃ notes, (s.bindAttributes id node).reports = s.reports ++ notes ∧
      ∀ keep : Problem → Bool, (∀ name, keep (.nativeHandler name) = false) →
        (notes.map Diagnostic.problem).filter keep = [d.problem].filter keep := by
  have read := hasRead_turn begins doubles entries
  have edits : Edits id node (s.readTo id node before)
      (bindAttribute id node (s.readTo id node before) bound value) :=
    Edits.refl.bindAttribute bound value
  have noComponent : (s.readTo id node before).component? id = none := by
    rw [← Option.not_isSome_iff_eq_none, read.component, doubles.alone]
    exact Bool.false_ne_true
  obtain ⟨first, reported, handlers⟩ := reports_foldl node
    (fun entry member => (doubles.plain_of_mem entries (List.mem_append_left _ member)).2.2)
    begins.bare.holds (begins.noComponent doubles)
  obtain ⟨later, reported', handlers'⟩ := reports_foldl node
    (fun entry member => (doubles.plain_of_mem entries (List.mem_append_right _ member)).2.2)
    (read.holds.edits edits) ((congrFun edits.quiet.bound id).trans noComponent)
  refine ⟨first ++ [d] ++ later, ?_, fun keep silent => ?_⟩
  · rw [begins.bindAttributes_eq entries, readTo, reported', turn, readTo, reported,
      List.append_assoc, List.append_assoc, List.append_assoc]
  · have none (notes : Diagnostics) (handlers : ∀ d ∈ notes, ∃ name, d.problem = .nativeHandler name) :
        (notes.map Diagnostic.problem).filter keep = [] := by
      refine List.filter_eq_nil_iff.2 fun problem member => ?_
      obtain ⟨d, listed, rfl⟩ := List.mem_map.1 member
      obtain ⟨name, isHandler⟩ := handlers d listed
      rw [isHandler, silent]
      exact Bool.false_ne_true
    rw [List.map_append, List.map_append, List.filter_append, List.filter_append, none first handlers,
      none later handlers', List.nil_append, List.append_nil]
    rfl

omit entries in
theorem handlersOf_end (other : String) : (s.bindAttributes id node).handlersOf id other =
    (e.attributes.entries.flatMap fun entry => e.runs entry.1 entry.2).filter (·.event == other) :=
  (begins.all doubles.distinct).handled other

/-- Of what an event runs, only what the two-way attribute is for writes back. -/
theorem writesBack_end (other : String) :
    ((s.bindAttributes id node).handlersOf id other).filter Binding.Handler.writesBack =
      ((e.runs bound value).filter Binding.Handler.writesBack).filter (·.event == other) := by
  have none (part : List (String × String)) (plain : ∀ entry ∈ part, entry ∈ before ++ after) :
      (part.flatMap fun entry => e.runs entry.1 entry.2).filter Binding.Handler.writesBack = [] := by
    refine List.filter_eq_nil_iff.2 fun handler member => ?_
    obtain ⟨entry, listed, runs⟩ := List.mem_flatMap.1 member
    rw [Bearer.runs_of_other (doubles.plain_of_mem entries (plain entry listed)).2.2] at runs
    split at runs
    · rw [List.mem_singleton.1 runs]
      exact Bool.false_ne_true
    · cases runs
  rw [handlersOf_end begins doubles, List.filter_comm]
  refine congrArg _ ?_
  rw [entries, List.flatMap_append, List.flatMap_cons, List.filter_append, List.filter_append,
    none before fun _ => List.mem_append_left _, none after fun _ => List.mem_append_right _,
    List.nil_append, List.append_nil]

end Turn
end Pass
end ComponentMarkup
