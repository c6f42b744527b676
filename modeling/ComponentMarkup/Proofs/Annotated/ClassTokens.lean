import ComponentMarkup.Proofs.Annotated.Frame
import ComponentMarkup.Proofs.Annotated.Stored
import ComponentMarkup.Proofs.Binding.Tokens

/-!
What a bound class list leaves in the document. Each of its literals is split at blanks by itself, so
that a token which is partly bound leaves the fragments beside its bindings.
-/

namespace ComponentMarkup

/-- The words of a class list, if there is one. -/
def classWords (classes : Option String) : List String :=
  (Text.words (classes.getD "").toList).map String.ofList

/-- Of a bound class list those tokens are left that hold no part of a binding, and the list is dropped
when there are none. -/
structure KeepsWhole (text : String) (classes : Option String) : Prop where
  words : classWords classes = Binding.wholeTokens text
  dropped : Binding.wholeTokens text = [] → classes = none

namespace Pass
variable {s : Pass} {id : AnnotatedId} {node : NodeId} {attributes : Attributes} {text : String}

theorem staticClasses_scan (text : String) :
    staticClasses (Binding.scan text) = (Binding.tokens text).flatMap Binding.fragments :=
  (Binding.flatMap_fragments text).symm

/-- The fragments are what the class list is split into when it is read again. -/
theorem classWords_intercalate (text : String) :
    classWords (some (" ".intercalate (staticClasses (Binding.scan text)))) =
      (Binding.tokens text).flatMap Binding.fragments := by
  rw [staticClasses_scan, classWords, Option.getD_some, String.toList_intercalate]
  have blank : " ".toList = [' '] := rfl
  rw [blank, Text.words_intercalate, List.map_map]
  · simp
  · intro word member
    obtain ⟨fragment, isFragment, rfl⟩ := List.mem_map.1 member
    exact Binding.solid_of_fragment isFragment

/-- The class list that is left when `text` was the class list. -/
theorem find?_setClasses (bound : Binding.hasBinding text = true) (attributes : Attributes) :
    (setClasses text attributes).find? "class" =
      if (Binding.tokens text).flatMap Binding.fragments = [] then none
      else some (" ".intercalate (staticClasses (Binding.scan text))) := by
  unfold setClasses
  dsimp only
  rw [Binding.isEmpty_bound_scan, bound, Bool.not_true, if_neg Bool.false_ne_true,
    ← staticClasses_scan]
  cases staticClasses (Binding.scan text) with
  | nil =>
      rw [List.isEmpty_nil, if_pos rfl, if_pos rfl, OrderedMap.find?, Option.map_eq_none_iff,
        List.find?_eq_none]
      intro entry member isClass
      have other := (List.mem_filter.1 member).2
      rw [isClass] at other
      cases other
  | cons word words =>
      rw [List.isEmpty_cons, if_neg Bool.false_ne_true, if_neg (List.cons_ne_nil _ _),
        OrderedMap.find?_insert_self]

theorem attribute?_class_bindClass (present : s.document.attributes? node = some attributes) :
    (s.bindClass id node text).document.attribute? node "class" =
      (setClasses text attributes).find? "class" := by
  rw [document_bindClass, Document.attribute?, Document.attributes?_mapAttributes, if_pos rfl, present,
    Option.map_some, Option.bind_some]

/-- No other attribute of an element changes what reading its class list leaves. -/
theorem attribute?_class_bindAttributes (present : s.document.attributes? node = some attributes)
    (distinct : OrderedMap.Distinct attributes.entries) (listed : attributes.find? "class" = some text)
    (unstripped : s.isStripped id "class" = false) :
    (s.bindAttributes id node).document.attribute? node "class" =
      (s.bindClass id node text).document.attribute? node "class" := by
  rw [document_bindAttributes unstripped, Document.attribute?, Document.attributes?_mapAttributes,
    if_pos rfl, present, Option.map_some, Option.bind_some, attributesRead_of_distinct distinct,
    classesRead, listed, attribute?_class_bindClass present]

/-- Reading a bound class list leaves the fragments of its tokens, in their order, and drops the list
when there are none. Those are the tokens without any part of a binding exactly when no token has
literal characters beside a binding. -/
theorem keepsWhole_iff_unmixed (present : s.document.attributes? node = some attributes)
    (bound : Binding.hasBinding text = true) :
    let classes := (s.bindClass id node text).document.attribute? node "class"
    classWords classes = (Binding.tokens text).flatMap Binding.fragments ∧
      (classes = none ↔ (Binding.tokens text).flatMap Binding.fragments = []) ∧
      (Binding.wholeTokens text).Sublist (classWords classes) ∧
      (KeepsWhole text classes ↔ ∀ token ∈ Binding.tokens text, Binding.isMixed token = false) ∧
      (OrderedMap.Distinct attributes.entries → attributes.find? "class" = some text →
        s.isStripped id "class" = false →
          (s.bindAttributes id node).document.attribute? node "class" = classes) := by
  intro classes
  have left : classes = if (Binding.tokens text).flatMap Binding.fragments = [] then none
      else some (" ".intercalate (staticClasses (Binding.scan text))) :=
    (attribute?_class_bindClass present).trans (find?_setClasses bound attributes)
  have words : classWords classes = (Binding.tokens text).flatMap Binding.fragments := by
    rw [left]
    split
    · next none => exact none.symm
    · exact classWords_intercalate text
  have dropped : classes = none ↔ (Binding.tokens text).flatMap Binding.fragments = [] := by
    rw [left]
    split
    · next none => exact iff_of_true rfl none
    · next some => exact iff_of_false nofun some
  refine ⟨words, dropped, words ▸ Binding.wholeTokens_sublist text, ?_,
    fun distinct listed unstripped =>
      attribute?_class_bindAttributes present distinct listed unstripped⟩
  rw [← Binding.fragments_eq_whole_iff, ← words]
  refine ⟨KeepsWhole.words, fun same => ⟨same, fun none => dropped.2 ?_⟩⟩
  rw [← words, same, none]

/-- `a {{b}} c` -/
def unmixedClasses : String := "a \x7b\x7bb\x7d\x7d c"

theorem keepsWhole_iff_unmixed_unmixedClasses :
    Binding.hasBinding unmixedClasses = true ∧ KeepsWhole unmixedClasses
      (((reading "p" [("class", unmixedClasses)]).bindClass 0 1 unmixedClasses).document.attribute? 1
        "class") := by
  have bound : Binding.hasBinding unmixedClasses = true := by decide
  have present : (reading "p" [("class", unmixedClasses)]).document.attributes? 1 =
      some ⟨[("class", unmixedClasses)]⟩ := rfl
  obtain ⟨-, -, -, keeps, -⟩ := @keepsWhole_iff_unmixed _ 0 _ _ _ present bound
  exact ⟨bound, keeps.2 (by decide +kernel)⟩

/-- `btn-{{kind}} on` -/
def mixedClasses : String := "btn-\x7b\x7bkind\x7d\x7d on"

/-- The fragment `btn-` of a token that is partly bound becomes a class. -/
theorem not_keepsWhole_mixedClasses :
    let classes := ((reading "p" [("class", mixedClasses)]).bindAttributes 0 1).document.attribute? 1
      "class"
    Binding.hasBinding mixedClasses = true ∧ Binding.wholeTokens mixedClasses = ["on"] ∧
      classes = some "btn- on" ∧ ¬ KeepsWhole mixedClasses classes := by
  intro classes
  have whole : Binding.wholeTokens mixedClasses = ["on"] := by decide +kernel
  have left : classes = some "btn- on" := by decide +kernel
  refine ⟨by decide, whole, left, fun keeps => ?_⟩
  have words := keeps.words
  rw [left, whole] at words
  exact absurd words (by decide)

end Pass
end ComponentMarkup
