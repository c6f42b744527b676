import ComponentMarkup.Proofs.Annotated.Frame
import ComponentMarkup.Proofs.Annotated.Installed
import ComponentMarkup.Proofs.Annotated.Stripping
import ComponentMarkup.Proofs.Binding.Words

/-!
Which of the attributes that an element was given its start tag has, and with which values.
-/

namespace ComponentMarkup

/-! ## Attributes in a start tag -/

namespace Bearer

/-- Whether an attribute is a bound class list without static words. -/
def isWordless (name value : String) : Bool :=
  name == "class" && Binding.hasBinding value &&
    (Pass.staticClasses (Binding.scan value)).isEmpty

/-- The value of an attribute in the static markup: a bound class list is left its static words. -/
def shownValue (name value : String) : String :=
  if name == "class" && Binding.hasBinding value then
    " ".intercalate (Pass.staticClasses (Binding.scan value))
  else value

/-- Whether the static markup lacks an attribute that the element was given; `repeats` tells the host
of an iteration. -/
def omits (e : Bearer) (repeats : Bool) (name value : String) : Bool :=
  name == "indentation" || repeats && (name == "iterate" || name == "template") ||
    Text.startsWith name "on-" || e.installs name || isOwn name && Binding.hasBinding value ||
    e.shadows name || isWordless name value

/-- The attributes that the static markup has of those that the element was given. -/
def shown (e : Bearer) (repeats : Bool) : List (String × String) :=
  (e.attributes.entries.filter fun entry => !e.omits repeats entry.1 entry.2).map fun entry =>
    (entry.1, shownValue entry.1 entry.2)

theorem of_notClass {name : String} (notClass : name ≠ "class") (value : String) :
    isWordless name value = false ∧ shownValue name value = value := by
  rw [isWordless, shownValue, beq_eq_false_iff_ne.2 notClass]
  exact ⟨rfl, rfl⟩

section Names
variable {e : Bearer} {name value : String} {repeats : Bool}

/-- Of the attributes that it was given, an element lacks what its annotation is stripped of. -/
theorem omits_eq (distinct : OrderedMap.Distinct e.attributes.entries)
    (member : (name, value) ∈ e.attributes.entries) :
    e.omits repeats name value = (e.strips repeats name || isWordless name value) := by
  have found : e.attributes.contains name = true := by
    rw [OrderedMap.contains, OrderedMap.find?_of_mem distinct member]
    rfl
  rw [omits, strips, any_takes distinct member, found, takesOff]
  simp only [Bool.and_true]
  ac_rfl

/-- An `id` is stripped when it holds a binding. -/
theorem strips_id (distinct : OrderedMap.Distinct e.attributes.entries) :
    e.strips repeats "id" = (e.attributes.find? "id").any Binding.hasBinding := by
  have steering : e.strips repeats "id" = e.attributes.entries.any (e.takes "id") := by
    have iterate : ("id" == "iterate") = false := by decide
    have template : ("id" == "template") = false := by decide
    have indentation : ("id" == "indentation") = false := by decide
    rw [strips, iterate, template, indentation]
    simp
  rw [steering]
  cases found : e.attributes.find? "id" with
  | none =>
      refine List.any_eq_false.2 fun entry member taken => ?_
      rw [takes, OrderedMap.contains, found, Option.isSome_none, Bool.false_and, Bool.or_false,
        Bool.and_eq_true, beq_iff_eq] at taken
      have held := OrderedMap.find?_of_mem distinct member
      rw [taken.1, found] at held
      cases held
  | some value =>
      obtain ⟨⟨name, _⟩, member, rfl, isId⟩ := OrderedMap.exists_mem_of_find? found
      obtain rfl := eq_of_beq isId
      have none : e.twoWay? "id" = none := twoWay?_eq_none (by decide)
      have event : Text.startsWith "id" "on-" = false := by decide
      have own : isOwn "id" = true := by decide
      have unshadowed : e.shadows "id" = false := by
        have known : ∀ property ∈ knownProperties, Text.lowered property ≠ "id" := by decide
        refine List.any_eq_false.2 fun entry _ shadow => ?_
        cases native : e.native? entry.1 with
        | none =>
            rw [native] at shadow
            cases shadow
        | some property =>
            rw [native, Option.any_some] at shadow
            exact known property (mem_known_of_native? native) (eq_of_beq shadow)
      rw [any_takes distinct member, takesOff, event, installs_eq_false none, own, unshadowed]
      simp

end Names

/-! ## Class lists -/

/-- What reading the class lists leaves of attributes. -/
def withStaticClasses (entries : List (String × String)) : List (String × String) :=
  (entries.filter fun entry => !isWordless entry.1 entry.2).map fun entry =>
    (entry.1, shownValue entry.1 entry.2)

section ClassLists
variable {entries : List (String × String)} {value : String}

theorem withStaticClasses_of_unbound (unbound : ∀ entry ∈ entries, entry.1 = "class" →
    Binding.hasBinding entry.2 = false) : withStaticClasses entries = entries := by
  have same (entry : String × String) (member : entry ∈ entries) :
      isWordless entry.1 entry.2 = false ∧ shownValue entry.1 entry.2 = entry.2 := by
    by_cases isClass : entry.1 = "class"
    · rw [isWordless, shownValue, unbound entry member isClass, Bool.and_false]
      exact ⟨rfl, rfl⟩
    · exact of_notClass isClass _
  rw [withStaticClasses, List.filter_eq_self.2 fun entry member => by rw [(same entry member).1]; rfl]
  refine (List.map_congr_left fun entry member => ?_).trans (List.map_id _)
  rw [(same entry member).2, id]

variable (only : ∀ entry ∈ entries, entry.1 = "class" → entry.2 = value)
  (bound : Binding.hasBinding value = true)
include only bound

theorem withStaticClasses_of_wordless
    (wordless : (Pass.staticClasses (Binding.scan value)).isEmpty = true) :
    withStaticClasses entries = entries.filter fun entry => !(entry.1 == "class") := by
  have dropped : (entries.filter fun entry => !isWordless entry.1 entry.2) =
      entries.filter fun entry => !(entry.1 == "class") := by
    refine List.filter_congr fun entry member => ?_
    by_cases isClass : entry.1 = "class"
    · rw [isWordless, only entry member isClass, bound, wordless, Bool.and_true, Bool.and_true]
    · rw [(of_notClass isClass _).1, beq_eq_false_iff_ne.2 isClass]
  rw [withStaticClasses, dropped]
  refine (List.map_congr_left fun entry member => ?_).trans (List.map_id _)
  have notClass : entry.1 ≠ "class" := by simpa using (List.mem_filter.1 member).2
  rw [(of_notClass notClass _).2, id]

theorem withStaticClasses_of_words
    (words : (Pass.staticClasses (Binding.scan value)).isEmpty = false) :
    withStaticClasses entries = entries.map fun entry => if entry.1 == "class" then
      (entry.1, " ".intercalate (Pass.staticClasses (Binding.scan value))) else entry := by
  have kept : (entries.filter fun entry => !isWordless entry.1 entry.2) = entries := by
    refine List.filter_eq_self.2 fun entry member => ?_
    by_cases isClass : entry.1 = "class"
    · rw [isWordless, only entry member isClass, words, Bool.and_false]
      rfl
    · rw [(of_notClass isClass _).1]
      rfl
  rw [withStaticClasses, kept]
  refine List.map_congr_left fun entry member => ?_
  by_cases isClass : entry.1 = "class"
  · rw [shownValue, only entry member isClass, bound, isClass]
    rfl
  · rw [(of_notClass isClass _).2, beq_eq_false_iff_ne.2 isClass, if_neg Bool.false_ne_true]

end ClassLists
end Bearer

/-- Reading a class list drops it or rewrites it in its place. -/
theorem Pass.classesRead_eq {attributes : Attributes}
    (distinct : OrderedMap.Distinct attributes.entries) :
    (classesRead attributes).entries = Bearer.withStaticClasses attributes.entries := by
  have held (entry : String × String) (member : entry ∈ attributes.entries)
      (isClass : entry.1 = "class") : attributes.find? "class" = some entry.2 := by
    rw [← isClass]
    exact OrderedMap.find?_of_mem distinct member
  unfold classesRead
  cases found : attributes.find? "class" with
  | none =>
      refine (Bearer.withStaticClasses_of_unbound fun entry member isClass => ?_).symm
      exact nomatch (held entry member isClass).symm.trans found
  | some value =>
      have only (entry : String × String) (member : entry ∈ attributes.entries)
          (isClass : entry.1 = "class") : entry.2 = value :=
        Option.some.inj ((held entry member isClass).symm.trans found)
      dsimp only
      unfold setClasses
      dsimp only
      rw [Binding.isEmpty_bound_scan]
      cases bound : Binding.hasBinding value with
      | false =>
          rw [Bool.not_false, if_pos rfl]
          refine (Bearer.withStaticClasses_of_unbound fun entry member isClass => ?_).symm
          rw [only entry member isClass, bound]
      | true =>
          rw [Bool.not_true, if_neg Bool.false_ne_true]
          cases words : (staticClasses (Binding.scan value)).isEmpty with
          | true =>
              rw [if_pos rfl, Bearer.withStaticClasses_of_wordless only bound words]
              rfl
          | false =>
              rw [if_neg Bool.false_ne_true, OrderedMap.insert,
                OrderedMap.write_eq_map distinct found,
                Bearer.withStaticClasses_of_words only bound words]

/-! ## Start tags -/

/-- The attributes in the start tag of the element `e`. A generated identifier is there as the `id`,
unless the element was given one that holds a binding. -/
def AnnotatedTree.startTag (t : AnnotatedTree) (id : AnnotatedId) (a : AnnotatedNode) (e : Bearer) :
    List (String × String) :=
  if (e.attributes.find? "id").any Binding.hasBinding then e.shown a.directive?.isSome
  else (t.identified id a ⟨e.shown a.directive?.isSome⟩).entries

theorem AnnotatedTree.startTag_eq (t : AnnotatedTree) (id : AnnotatedId) (a : AnnotatedNode)
    {e : Bearer} (distinct : OrderedMap.Distinct e.attributes.entries) :
    ((t.identified id a (Pass.classesRead e.attributes)).entries.filter fun entry =>
      !e.strips a.directive?.isSome entry.1) = t.startTag id a e := by
  have read : ((Pass.classesRead e.attributes).entries.filter fun entry =>
      !e.strips a.directive?.isSome entry.1) = e.shown a.directive?.isSome := by
    rw [Pass.classesRead_eq distinct, Bearer.withStaticClasses, List.filter_map, List.filter_filter,
      Bearer.shown]
    refine congrArg _ (List.filter_congr fun entry member => ?_)
    rw [Bearer.omits_eq distinct member, Bool.not_or]
    rfl
  have written (identifier : String) :
      (((Pass.classesRead e.attributes).insert "id" identifier).entries.filter fun entry =>
        !e.strips a.directive?.isSome entry.1) =
      if (e.attributes.find? "id").any Binding.hasBinding then e.shown a.directive?.isSome
      else (OrderedMap.insert ⟨e.shown a.directive?.isSome⟩ "id" identifier).entries := by
    rw [OrderedMap.insert, OrderedMap.filter_write fun name => !e.strips a.directive?.isSome name,
      read, Bearer.strips_id distinct]
    cases (e.attributes.find? "id").any Binding.hasBinding <;> rfl
  unfold startTag identified
  cases a.identifier with
  | none =>
      dsimp only
      rw [read, ite_self]
  | some identifier =>
      dsimp only
      split
      · exact written identifier
      · rw [read, ite_self]

/-! ## Bindings in start tags -/

theorem Pass.hasBinding_staticClasses (text : String) :
    Binding.hasBinding (" ".intercalate (staticClasses (Binding.scan text))) = false := by
  have words : (staticClasses (Binding.scan text)).map String.toList =
      (Binding.scan text).texts.flatMap fun literal => Text.words literal.toList := by
    rw [staticClasses, List.map_flatMap]
    simp only [List.map_map, Function.comp_def, String.toList_ofList, List.map_id']
  have missed := Binding.next?_eq_none_iff.2 (Binding.unbound_words_scan text)
  rw [Binding.hasBinding, String.toList_intercalate, words]
  exact Option.isSome_eq_false_iff.2 (Option.isNone_iff_eq_none.2 missed)

theorem hasBinding_elementIdentifier (n : UInt64) :
    Binding.hasBinding (elementIdentifier n) = false := by
  have unopened : '\x7b' ∉ (elementIdentifier n).toList := by
    have written : (toString n.toNat).toList = Nat.toDigits 10 n.toNat := Nat.toList_repr
    rw [elementIdentifier, String.toList_append, List.mem_append, written]
    rintro (lead | digit)
    · exact absurd lead (by decide)
    · exact absurd (Nat.isDigit_of_mem_toDigits (by decide) (by decide) digit) (by decide)
  have unbound : Binding.Unbound (elementIdentifier n).toList :=
    Binding.unbound_of_unopened fun opens => unopened (opens.subset List.mem_cons_self)
  exact Option.isSome_eq_false_iff.2 (Option.isNone_iff_eq_none.2 (Binding.next?_eq_none_iff.2 unbound))

/-- An attribute that is shown with a binding is none that is bound under its own name. -/
theorem Bearer.apart_of_shown {e : Bearer} {repeats : Bool} {entry : String × String}
    (member : entry ∈ e.shown repeats) (bound : Binding.hasBinding entry.2 = true) :
    directiveNames.contains entry.1 = true ∨ Text.startsWith entry.1 "on" = true ∨
      Text.startsWith entry.1 "bind-" = true := by
  obtain ⟨⟨name, value⟩, given, rfl⟩ := List.mem_map.1 member
  have kept : e.omits repeats name value = false := by simpa using (List.mem_filter.1 given).2
  have other : name ≠ "class" := by
    rintro rfl
    rw [shownValue, beq_self_eq_true, Bool.true_and] at bound
    split at bound
    · rw [Pass.hasBinding_staticClasses] at bound
      cases bound
    · next unbound => exact unbound bound
  dsimp only at bound ⊢
  rw [(of_notClass other value).2] at bound
  rw [omits, bound] at kept
  simp only [Bool.and_true, Bool.or_eq_false_iff] at kept
  have own := kept.1.1.2
  rw [isOwn, bne_iff_ne.2 other] at own
  simp only [Bool.and_true, Bool.and_eq_false_iff, Bool.not_eq_false'] at own
  exact or_assoc.1 own

/-- Neither is one of a start tag, where the identifier is a generated one. -/
theorem AnnotatedTree.apart_of_startTag (t : AnnotatedTree) (id : AnnotatedId) {a : AnnotatedNode}
    (generated : a.isNumbered = true → a.IsGenerated) {e : Bearer} {entry : String × String}
    (member : entry ∈ t.startTag id a e) (bound : Binding.hasBinding entry.2 = true) :
    directiveNames.contains entry.1 = true ∨ Text.startsWith entry.1 "on" = true ∨
      Text.startsWith entry.1 "bind-" = true := by
  unfold startTag identified at member
  split at member
  · exact Bearer.apart_of_shown member bound
  · split at member
    · next identifier label =>
      split at member
      · next numbered =>
        rw [Bool.and_eq_true] at numbered
        obtain ⟨n, isGenerated⟩ := generated numbered.1
        rw [label, Option.some.injEq] at isGenerated
        rcases OrderedMap.value_of_mem_write member with written | given
        · rw [written, isGenerated, hasBinding_elementIdentifier] at bound
          cases bound
        · exact Bearer.apart_of_shown given bound
      · exact Bearer.apart_of_shown member bound
    · exact Bearer.apart_of_shown member bound

end ComponentMarkup
