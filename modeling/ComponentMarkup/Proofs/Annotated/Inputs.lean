import ComponentMarkup.Proofs.Annotated.Doubled
import ComponentMarkup.Proofs.Annotated.Stored
import ComponentMarkup.Proofs.Text

/-!
The inputs of a component: a two-way attribute is one, and so is the text of an attribute that has the
name of an input. Of both together the last one stays.
-/

namespace ComponentMarkup

/-- An input has no hyphen in its name, so that no attribute of that name is two-way. -/
theorem after?_canonicalProperty (hyphenated : String) :
    Text.after? "bind-" (canonicalProperty hyphenated) = none := by
  have noHyphen : '-' ∉ (canonicalProperty hyphenated).toList := by
    unfold canonicalProperty
    dsimp only
    cases found : knownProperties.find? (Text.sameLetters · (Text.camelCased hyphenated)) with
    | none => exact Text.hyphen_not_mem_camelCased hyphenated
    | some property =>
        have all : ∀ property ∈ knownProperties, '-' ∉ property.toList := by decide
        exact all property (List.mem_of_find?_eq_some found)
  rw [Text.after?, Option.map_eq_none_iff, Option.eq_none_iff_forall_ne_some]
  intro rest found
  rw [← Text.afterLead?_eq_some.1 found] at noHyphen
  exact noHyphen (List.mem_append_left _ (by decide))

namespace Bearer

/-- The element stands for a component and has no properties that are natively bound. -/
structure IsForeign (e : Bearer) : Prop where
  component : e.isComponent = true
  tag : e.tag ∉ ["input", "select", "textarea"]

/-- The binding of a two-way attribute of a component. -/
def input (value : String) : Binding.Attribute :=
  .direct (.ofText (Text.trimmed value)) .twoWay

/-- Of the attributes of an element that stands for a component, `bound` alone is two-way for
`property`. -/
structure Feeds (e : Bearer) (bound value property : String) : Prop extends e.IsForeign where
  distinct : OrderedMap.Distinct e.attributes.entries
  twoWay : e.attributes.find? bound = some value
  isProperty : (Text.after? "bind-" bound).map canonicalProperty = some property
  only : ∀ entry ∈ e.attributes.entries,
    (Text.after? "bind-" entry.1).map canonicalProperty = some property → entry.1 = bound

/-- The attribute is neither of two. -/
def besides (first second : String) (entry : String × String) : Bool :=
  entry.1 != first && entry.1 != second

/-- What the attribute `property` binds by itself, if it stands behind `bound`. -/
def replacement? (e : Bearer) (bound property : String) : Option Binding.Attribute :=
  ((e.attributes.entries.dropWhile (·.1 != bound)).find? (·.1 == property)).bind fun entry =>
    ownBinding? e.isComponent property entry.2

variable {e e' : Bearer} {name value bound property hyphenated key : String}
  {entry : String × String} {rest : List (String × String)}

theorem style_ownBinding? {isComponent : Bool} {binding : Binding.Attribute}
    (own : ownBinding? isComponent name value = some binding) : binding.style ≠ .twoWay := by
  have ofSegments {segments : Binding.Segments} {alone : Binding.Style} (other : alone ≠ .twoWay) :
      (Binding.Attribute.ofSegments segments alone).style ≠ .twoWay := by
    unfold Binding.Attribute.ofSegments
    split
    · exact other
    · exact Binding.Style.noConfusion
  rcases Option.or_eq_some_iff.1 own with bound | ⟨-, static⟩
  · unfold boundAs at bound
    split at bound
    · cases bound
    · split at bound
      · rw [← Option.some.inj bound]
        exact ofSegments Binding.Style.noConfusion
      · split at bound
        · rw [← Option.some.inj bound]
          exact Binding.Style.noConfusion
        · rw [← Option.some.inj bound]
          exact ofSegments Binding.Style.noConfusion
  · rw [← Option.some.inj (Option.ite_none_right_eq_some.1 static).2]
    exact Binding.Style.noConfusion

theorem replacement?_ne (e : Bearer) (bound value property : String) :
    e.replacement? bound property ≠ some (input value) := by
  intro replaced
  obtain ⟨entry, -, own⟩ := Option.bind_eq_some_iff.1 replaced
  exact style_ownBinding? own rfl

namespace IsForeign
variable (foreign : e.IsForeign)
include foreign

theorem twoWay? (twoWay : Text.after? "bind-" name = some hyphenated) :
    e.twoWay? name = some (canonicalProperty hyphenated, .component) := by
  have tag := foreign.tag
  rw [Bearer.twoWay?, twoWay, Option.map_some, foreign.component]
  generalize canonicalProperty hyphenated = property
  unfold TwoWay.choose
  grind

theorem shadows (name : String) : e.shadows name = false := by
  rw [Bearer.shadows, List.any_eq_false]
  intro entry member
  have native : e.native? entry.1 = none := by
    cases twoWay : Text.after? "bind-" entry.1 with
    | none => exact native?_eq_none (twoWay?_eq_none twoWay)
    | some hyphenated => exact (of_component "" (foreign.twoWay? twoWay)).1
  rw [native]
  exact Bool.false_ne_true

theorem writes (name value : String) : e.writes name value =
    match Text.after? "bind-" name with
    | some hyphenated => [(canonicalProperty hyphenated, input value)]
    | none => ((ownBinding? true name value).map (name, ·)).toList := by
  cases twoWay : Text.after? "bind-" name with
  | some hyphenated =>
      rw [writes_of_twoWay twoWay, stores?, foreign.twoWay? twoWay]
      rfl
  | none => rw [writes_of_plain twoWay, foreign.component]

theorem lastWritten_of_twoWay (twoWay : Text.after? "bind-" name = some hyphenated)
    (value key : String) : Pass.lastWritten (e.writes name value) key =
      if canonicalProperty hyphenated = key then some (input value) else none := by
  rw [foreign.writes, twoWay]
  exact Pass.lastWritten_singleton _ _ _

end IsForeign

namespace Feeds
variable (feeds : e.Feeds bound value property)
include feeds

theorem plain : Text.after? "bind-" property = none := by
  obtain ⟨hyphenated, -, rfl⟩ := Option.map_eq_some_iff.1 feeds.isProperty
  exact after?_canonicalProperty hyphenated

theorem bound_ne : bound ≠ property := by
  rintro rfl
  have isProperty := feeds.isProperty
  rw [feeds.plain] at isProperty
  cases isProperty

/-- Apart from `bound`, an attribute writes to `property` when it has that name. -/
theorem lastWritten_writes (member : entry ∈ e.attributes.entries) (other : entry.1 ≠ bound) :
    Pass.lastWritten (e.writes entry.1 entry.2) property =
      if entry.1 = property then ownBinding? true property entry.2 else none := by
  cases twoWay : Text.after? "bind-" entry.1 with
  | some hyphenated =>
      have unlike : canonicalProperty hyphenated ≠ property := by
        intro same
        apply other
        apply feeds.only entry member
        rw [twoWay, ← same]
        rfl
      have named : entry.1 ≠ property := by
        intro same
        rw [same, feeds.plain] at twoWay
        cases twoWay
      rw [feeds.lastWritten_of_twoWay twoWay, if_neg unlike, if_neg named]
  | none =>
      rw [Pass.lastWritten_of_plain twoWay, feeds.component]
      by_cases named : entry.1 = property
      · rw [if_pos named, if_pos named, named]
      · rw [if_neg named, if_neg named]

theorem lastWritten_rest (listed : ∀ entry ∈ rest, entry ∈ e.attributes.entries ∧ entry.1 ≠ bound)
    (distinct : OrderedMap.Distinct rest) :
    Pass.lastWritten (rest.flatMap fun entry => e.writes entry.1 entry.2) property =
      (rest.find? (·.1 == property)).bind fun entry => ownBinding? true property entry.2 := by
  induction rest with
  | nil => rfl
  | cons entry rest ih =>
      obtain ⟨apart, distinctRest⟩ := List.pairwise_cons.1 distinct
      obtain ⟨member, other⟩ := listed entry List.mem_cons_self
      rw [Pass.lastWritten_flatMap_cons, feeds.lastWritten_writes member other,
        ih (fun later member => listed later (List.mem_cons_of_mem _ member)) distinctRest]
      by_cases named : entry.1 = property
      · -- The names are distinct: nothing behind the attribute writes over it.
        have gone : rest.find? (·.1 == property) = none := by
          rw [List.find?_eq_none]
          intro later member
          rw [← named, BEq.comm, apart later member]
          exact Bool.false_ne_true
        rw [gone, if_pos named, List.find?_cons_of_pos (by simpa using named)]
        rfl
      · rw [if_neg named, Option.or_none, List.find?_cons_of_neg (by simpa using named)]

theorem lastWritten_entries :
    Pass.lastWritten (e.attributes.entries.flatMap fun entry => e.writes entry.1 entry.2) property =
      some ((e.replacement? bound property).getD (input value)) := by
  obtain ⟨before, after, entries⟩ := OrderedMap.exists_split feeds.twoWay
  obtain ⟨hyphenated, twoWay, isProperty⟩ := Option.map_eq_some_iff.1 feeds.isProperty
  have distinct := feeds.distinct
  rw [entries] at distinct
  have distinctAfter := (List.pairwise_cons.1 (List.pairwise_append.1 distinct).2.1).2
  have written : Pass.lastWritten (e.writes bound value) property = some (input value) := by
    rw [feeds.lastWritten_of_twoWay twoWay, if_pos isProperty]
  have listed (entry : String × String) (member : entry ∈ after) :
      entry ∈ e.attributes.entries ∧ entry.1 ≠ bound := by
    rw [entries]
    exact ⟨List.mem_append_right _ (List.mem_cons_of_mem _ member),
      OrderedMap.ne_of_distinct distinct (List.mem_append_right _ member)⟩
  have later := feeds.lastWritten_rest listed distinctAfter
  have behind : e.attributes.entries.dropWhile (·.1 != bound) = (bound, value) :: after := by
    rw [entries, List.dropWhile_append_of_pos, List.dropWhile_cons_of_neg]
    · simp
    · intro entry member
      rw [bne, OrderedMap.not_beq_of_distinct distinct member]
      rfl
  rw [replacement?, behind, List.find?_cons_of_neg (by simpa using feeds.bound_ne),
    feeds.component, entries, List.flatMap_append, Pass.lastWritten_append,
    Pass.lastWritten_flatMap_cons, later, written]
  generalize ((after.find? (·.1 == property)).bind fun entry => ownBinding? true property entry.2) =
    replacement
  cases replacement <;> rfl

/-- Under other names neither of the two attributes writes. -/
theorem lastWritten_others (other : key ≠ property) :
    Pass.lastWritten ((e.attributes.entries.filter (besides bound property)).flatMap fun entry =>
        e.writes entry.1 entry.2) key =
      Pass.lastWritten (e.attributes.entries.flatMap fun entry => e.writes entry.1 entry.2) key := by
  apply Pass.lastWritten_flatMap_filter
  intro entry member aside
  obtain ⟨hyphenated, twoWay, isProperty⟩ := Option.map_eq_some_iff.1 feeds.isProperty
  rw [besides, Bool.and_eq_false_iff, bne_eq_false_iff_eq, bne_eq_false_iff_eq] at aside
  rcases aside with isBound | named
  · rw [isBound, feeds.lastWritten_of_twoWay twoWay, isProperty, if_neg (Ne.symm other)]
  · rw [named, Pass.lastWritten_of_plain feeds.plain, if_neg (Ne.symm other)]

theorem perm (sameTag : e'.tag = e.tag) (component : e'.isComponent = true)
    (same : e'.attributes.entries.Perm e.attributes.entries) : e'.Feeds bound value property where
  component := component
  tag := by
    rw [sameTag]
    exact feeds.tag
  distinct := OrderedMap.distinct_of_perm feeds.distinct same
  twoWay := (OrderedMap.find?_of_perm feeds.distinct same bound).trans feeds.twoWay
  isProperty := feeds.isProperty
  only entry member := feeds.only entry (same.mem_iff.1 member)

end Feeds
end Bearer

theorem getD_eq_getD_iff {α : Type} {first second : Option α} {default : α}
    (unlike : first ≠ some default) (unlike' : second ≠ some default) :
    first.getD default = second.getD default ↔ first = second := by
  constructor
  · intro same
    cases first with
    | none =>
        cases second with
        | none => rfl
        | some b => exact absurd (congrArg some same.symm) unlike'
    | some a =>
        cases second with
        | none => exact absurd (congrArg some same) unlike
        | some b => exact congrArg some same
  · intro same
    rw [same]

namespace Pass
variable {s : Pass} {id : AnnotatedId} {node : NodeId} {e : Bearer}
  {bound value property : String}

theorem BeginsAt.stored?_of_feeds (begins : s.BeginsAt id node e)
    (feeds : e.Feeds bound value property) (key : String) :
    (s.bindAttributes id node).stored? id key =
      lastWritten (e.attributes.entries.flatMap fun entry => e.writes entry.1 entry.2) key :=
  begins.stored?_bindAttributes feeds.distinct fun entry _ => .inr (feeds.shadows entry.1)

/-- An input of a component stays unless the attribute of its name stands behind and binds something
by itself. Where that attribute stands plays no part for any other input. -/
theorem fed_unless_replaced (begins : s.BeginsAt id node e) (feeds : e.Feeds bound value property) :
    let t := s.bindAttributes id node
    t.stored? id property =
        some ((e.replacement? bound property).getD (Bearer.input value)) ∧
      (t.stored? id property = some (Bearer.input value) ↔ e.replacement? bound property = none) ∧
      ∀ (s' : Pass) (id' : AnnotatedId) (node' : NodeId) (e' : Bearer), s'.BeginsAt id' node' e' →
        e'.tag = e.tag → e'.isComponent = true →
        e'.attributes.entries.Perm e.attributes.entries →
        e'.attributes.entries.filter (Bearer.besides bound property) =
          e.attributes.entries.filter (Bearer.besides bound property) →
        let t' := s'.bindAttributes id' node'
        (∀ key, key ≠ property → t'.stored? id' key = t.stored? id key) ∧
          ((∀ key, t'.stored? id' key = t.stored? id key) ↔
            e'.replacement? bound property = e.replacement? bound property) := by
  intro t
  have atProperty := (begins.stored?_of_feeds feeds property).trans feeds.lastWritten_entries
  refine ⟨atProperty, ?_, fun s' id' node' e' begins' sameTag component same others => ?_⟩
  · rw [atProperty, Option.some_inj]
    exact getD_eq_getD_iff (e.replacement?_ne bound value property) (Option.some_ne_none _).symm
  · intro t'
    have feeds' := feeds.perm sameTag component same
    -- The others stand in the same order, so that each name but `property` is written alike.
    have atProperty' := (begins'.stored?_of_feeds feeds' property).trans feeds'.lastWritten_entries
    have atOthers (key : String) (other : key ≠ property) : t'.stored? id' key = t.stored? id key := by
      rw [begins'.stored?_of_feeds feeds', begins.stored?_of_feeds feeds,
        ← feeds'.lastWritten_others other, ← feeds.lastWritten_others other, others]
      simp only [feeds.writes, feeds'.writes]
    refine ⟨atOthers, fun same => ?_, fun same key => ?_⟩
    · have replaced := same property
      rw [atProperty, atProperty', Option.some_inj] at replaced
      exact (getD_eq_getD_iff (e'.replacement?_ne bound value property)
        (e.replacement?_ne bound value property)).1 replaced
    · by_cases other : key = property
      · rw [other, atProperty, atProperty', same]
      · exact atOthers key other

/-! ## A component with one input -/

/-- The only element of a document, which stands for a component, is about to have its attributes
read. -/
def readingInput (attributes : List (String × String)) : Pass :=
  (reading "x-a" attributes).mapBindings 0 fun b => { b with component := some 0 }

theorem begins_readingInput (attributes : List (String × String)) :
    (readingInput attributes).BeginsAt 0 1 ⟨"x-a", ⟨attributes⟩, true⟩ :=
  ⟨⟨some 0, rfl⟩, rfl, rfl, nofun⟩

/-- `user="w" title="t" bind-user="v"` -/
def boundBehind : List (String × String) :=
  [("user", "w"), ("title", "t"), ("bind-user", "v")]

/-- `title="t" user="w" bind-user="v"` -/
def boundNext : List (String × String) :=
  [("title", "t"), ("user", "w"), ("bind-user", "v")]

theorem fed_unless_replaced_boundBehind :
    ((readingInput boundBehind).bindAttributes 0 1).stored? 0 "user" = some (Bearer.input "v") ∧
      ∀ key, ((readingInput boundNext).bindAttributes 0 1).stored? 0 key =
        ((readingInput boundBehind).bindAttributes 0 1).stored? 0 key := by
  have distinct : OrderedMap.Distinct boundBehind := by
    unfold OrderedMap.Distinct
    decide
  have feeds : Bearer.Feeds ⟨"x-a", ⟨boundBehind⟩, true⟩ "bind-user" "v" "user" :=
    { component := rfl, tag := by decide, distinct, twoWay := rfl, isProperty := by decide,
      only := by decide }
  obtain ⟨-, stays, moved⟩ := fed_unless_replaced (begins_readingInput boundBehind) feeds
  have alike := moved _ 0 1 _ (begins_readingInput boundNext) rfl rfl (.swap ..) (by decide)
  exact ⟨stays.2 (by decide), alike.2.2 (by decide)⟩

/-- The text of the attribute `user` replaces the two-way binding when it stands behind that. -/
theorem not_fed_boundBefore :
    ((readingInput [("bind-user", "v"), ("user", "w")]).bindAttributes 0 1).stored? 0 "user" =
        some (.interpolation [] ["w"] .plain) ∧
      .interpolation [] ["w"] .plain ≠ Bearer.input "v" ∧
      ((readingInput [("user", "w"), ("bind-user", "v")]).bindAttributes 0 1).stored? 0 "user" =
        some (Bearer.input "v") := by
  decide +kernel

end Pass
end ComponentMarkup
