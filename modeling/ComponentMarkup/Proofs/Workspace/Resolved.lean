import ComponentMarkup.Proofs.Annotated.Resolved
import ComponentMarkup.Proofs.Linking.Reports
import ComponentMarkup.Proofs.Workspace.Linked
import ComponentMarkup.Proofs.Workspace.Scopes
import ComponentMarkup.Proofs.Workspace.Settled

/-!
What a run tells about its custom elements. Linking announces what it flags, and annotating, which
comes after it, binds an element or leaves it to what has been announced.
-/

namespace ComponentMarkup
namespace Workspace

/-! ## Linking -/

/-- From `w` no component was flagged without a pair of errors, and every scope still has each
component under its tag. -/
structure Announces (w : Workspace) (ran : Workspace × Diagnostics) : Prop where
  agrees : w.components.Agrees ran.1.components
  named : ∀ entry ∈ ran.1.files.entries, Linking.Named ran.1.components entry.2.scope
  told : ∀ c, ran.1.components.hasConflict c = true → w.components.hasConflict c = true ∨
    ∃ ds, Linking.IsPair w.components c ds ∧ ds <:+: ran.2

section Linking
variable {w : Workspace} (named : ∀ entry ∈ w.files.entries, Linking.Named w.components entry.2.scope)
include named

theorem announces_link (path : Path) : w.Announces (w.link path) := by
  cases found : w.files.find? path with
  | none =>
      rw [link_of_absent found]
      exact ⟨.refl _, named, fun c flagged => .inl flagged⟩
  | some file =>
      obtain ⟨entry, listed, rfl⟩ := Option.map_eq_some_iff.1 found
      obtain ⟨agrees, kept, told⟩ := announces_linkFile w.files w.scripts
        (named entry (List.mem_of_find?_eq_some listed))
      rw [link_of_found found]
      refine ⟨agrees, fun other member => ?_, told⟩
      rcases OrderedMap.value_of_mem_write member with new | old
      · rw [new]
        exact kept
      · exact (named other old).congr agrees

theorem announces_each_link (paths : List Path) : w.Announces (w.each link paths) := by
  induction paths generalizing w with
  | nil => exact ⟨.refl _, named, fun c flagged => .inl flagged⟩
  | cons path paths ih =>
      have first := announces_link named path
      have later := ih first.named
      refine ⟨first.agrees.trans later.agrees, later.named, fun c flagged => ?_⟩
      have reports : (w.each link (path :: paths)).2 =
          (w.link path).2 ++ ((w.link path).1.each link paths).2 := rfl
      rw [reports]
      rcases later.told c flagged with before | ⟨ds, pair, listed⟩
      · refine (first.told c before).imp_right fun ⟨ds, pair, listed⟩ => ⟨ds, pair, ?_⟩
        exact listed.trans (List.prefix_append ..).isInfix
      · exact .inr ⟨ds, pair.congr first.agrees.symm, listed.trans (List.suffix_append ..).isInfix⟩

end Linking

/-! ## Annotating -/

/-- The pass `s` over `old` was one of those that annotating files in turn is made of, and it made
`entry`. -/
structure Turn (w : Workspace) (ran : Workspace × Diagnostics) (old entry : Path × SourceFile)
    (s : Pass) : Prop where
  file : s.file = old.2
  flags : s.components.hasConflict = w.components.hasConflict
  made : entry = (old.1, (annotateFile w.settings.keepBlanks s).file)
  reported : ∀ r ∈ (annotateFile w.settings.keepBlanks s).reports, r ∈ ran.2

/-- Annotating files in turn keeps the declarations and the flags, and makes each file in a turn. -/
theorem turns_annotate (rest : List (Path × SourceFile)) :
    ∀ (before : List (Path × SourceFile)) (w : Workspace), w.files = ⟨before ++ rest⟩ →
      OrderedMap.Distinct (before ++ rest) →
      let ran := w.each annotate (rest.map Prod.fst)
      w.components.Agrees ran.1.components ∧
        ran.1.components.hasConflict = w.components.hasConflict ∧
        ∀ entry ∈ ran.1.files.entries,
          entry ∈ before ∨ ∃ old ∈ rest, ∃ s, w.Turn ran old entry s := by
  -- The files before `rest` are done: the paths are distinct, so no later turn replaces one of them.
  induction rest with
  | nil =>
      intro before w files _
      refine ⟨.refl _, rfl, fun entry member => .inl ?_⟩
      change entry ∈ w.files.entries at member
      rwa [files, List.append_nil] at member
  | cons first rest ih =>
      intro before w files distinct
      obtain ⟨path, file⟩ := first
      have found : w.files.find? path = some file := by
        rw [files]
        exact OrderedMap.find?_of_distinct distinct
      let s : Pass := { file, components := w.components, counter := w.counter }
      have basis := basis_annotateFile w.settings.keepBlanks s
      have stepped : w.annotate path = _ := annotate_of_found found
      have files' : (w.annotate path).1.files =
          ⟨(before ++ [(path, (annotateFile w.settings.keepBlanks s).file)]) ++ rest⟩ := by
        rw [stepped]
        dsimp only
        rw [files, OrderedMap.insert, OrderedMap.write_of_distinct distinct, List.append_assoc,
          List.singleton_append]
      have agrees : w.components.Agrees (w.annotate path).1.components := by
        rw [stepped]
        exact fun id => congrFun (congrArg Basis.declaration basis) id
      have flags : (w.annotate path).1.components.hasConflict = w.components.hasConflict := by
        rw [stepped]
        exact congrArg Basis.flagged basis
      have settings : (w.annotate path).1.settings = w.settings := by rw [stepped]
      have own : (w.annotate path).2 = (annotateFile w.settings.keepBlanks s).reports := by
        rw [stepped]
      have replaced := OrderedMap.distinct_replace distinct
        (annotateFile w.settings.keepBlanks s).file
      rw [← List.singleton_append, ← List.append_assoc] at replaced
      obtain ⟨agrees', flags', turns⟩ := ih _ _ files' replaced
      refine ⟨agrees.trans agrees', flags'.trans flags, fun entry member => ?_⟩
      rcases turns entry member with early | ⟨old, listed, s', turn⟩
      · refine (List.mem_append.1 early).imp_right fun here => ?_
        refine ⟨_, List.mem_cons_self, s, rfl, rfl, List.mem_singleton.1 here, fun r reported => ?_⟩
        exact List.mem_append_left _ (own ▸ reported)
      · refine .inr ⟨old, List.mem_cons_of_mem _ listed, s', turn.file, turn.flags.trans flags, ?_, ?_⟩
        · rw [← settings]
          exact turn.made
        · rw [← settings]
          exact fun r reported => List.mem_append_right _ (turn.reported r reported)

end Workspace

/-! ## Elements -/

/-- How an element with a custom tag is answered for: it is bound, what it means is flagged and two
errors were reported about it, or a warning was reported at the element. Else its `is` stands in the
way, which names no component and nothing custom. -/
inductive SourceFile.Answers (t : ComponentTable) (reports : Diagnostics) (file : SourceFile)
    (a : AnnotatedNode) (tag : String) (attributes : Attributes) : Prop
  | bound {name : String} {c : ComponentId} (means : file.Means tag attributes name c)
      (bound : a.component? = some c) : Answers t reports file a tag attributes
  | conflicted {name : String} {c : ComponentId} {ds : Diagnostics}
      (means : file.Means tag attributes name c) (named : t.tag c = name)
      (flagged : t.hasConflict c = true) (pair : Linking.IsPair t c ds) (told : ds <:+: reports) :
      Answers t reports file a tag attributes
  | unknown {name : String} (misses : file.Misses tag attributes name)
      (told : ⟨.unknownElement name, file.path, file.document.position a.source⟩ ∈ reports) :
      Answers t reports file a tag attributes
  | unnoticed {value : String} (unbound : a.component? = none)
      (absent : file.scope.find? tag = none) (given : attributes.find? "is" = some value)
      (missing : file.scope.find? (Text.lowered (Text.trimmed value)) = none)
      (standard : Tag.isCustom (Text.lowered (Text.trimmed value)) = false) :
      Answers t reports file a tag attributes

/-- What an element is bound to is what it means and is not flagged, and it is answered for. -/
structure SourceFile.Resolves (t : ComponentTable) (reports : Diagnostics) (before : Document)
    (file : SourceFile) (a : AnnotatedNode) (tag : String) (attributes : Attributes) : Prop where
  given : file.Gives before a.source tag attributes
  bound : ∀ c, a.component? = some c → Pass.readsAttributes tag a.directive? = true ∧
    t.hasConflict c = false ∧ ∃ name, file.Means tag attributes name c
  answers : Pass.readsAttributes tag a.directive? = true → Tag.isCustom tag = true →
    file.Answers t reports a tag attributes

section Elements
variable {s : Pass} {t : ComponentTable} {a : AnnotatedNode} {tag : String} {attributes : Attributes}
  {c : ComponentId} (heeds : s.Heeds a tag)
  (is : Pass.readsAttributes tag a.directive? = true →
    s.document.attribute? a.source "is" = attributes.find? "is")
  (flags : s.components.hasConflict = t.hasConflict)
include heeds is flags

theorem Pass.Heeds.means (bound : a.component? = some c) :
    Pass.readsAttributes tag a.directive? = true ∧ t.hasConflict c = false ∧
      ∃ name, s.file.Means tag attributes name c := by
  have reads := heeds.reads bound
  rw [heeds.bound, reads, if_pos rfl] at bound
  rcases Pass.means_or_misses (is reads) tag with ⟨c', meant, means⟩ | ⟨unmeant, -⟩
  · have unflagged : s.basis.flagged c' = t.hasConflict c' := congrFun flags c'
    rw [meant, Basis.bound_some, unflagged] at bound
    split at bound
    · cases bound
    · next unset =>
      obtain rfl := Option.some.inj bound
      exact ⟨reads, Bool.eq_false_iff.2 unset, _, means⟩
  · rw [unmeant] at bound
    cases bound

theorem Pass.Heeds.answers {reports : Diagnostics} (named : Linking.Named t s.file.scope)
    (announced : ∀ c, t.hasConflict c = true → ∃ ds, Linking.IsPair t c ds ∧ ds <:+: reports)
    (told : ∀ r ∈ s.reports, r ∈ reports) (reads : Pass.readsAttributes tag a.directive? = true)
    (custom : Tag.isCustom tag = true) : s.file.Answers t reports a tag attributes := by
  have bound := heeds.bound
  rw [reads, if_pos rfl] at bound
  rcases Pass.means_or_misses (is reads) tag with ⟨c, meant, means⟩ | ⟨unmeant, misses⟩
  · have flag : s.basis.flagged c = t.hasConflict c := congrFun flags c
    rw [meant, Basis.bound_some, flag] at bound
    cases flagged : t.hasConflict c with
    | false =>
        rw [flagged, if_neg Bool.false_ne_true] at bound
        exact .bound means bound
    | true =>
        obtain ⟨ds, pair, listed⟩ := announced c flagged
        obtain ⟨first, there, tagged⟩ := named _ c meant
        refine .conflicted means ?_ flagged pair listed
        rw [ComponentTable.tag, there]
        exact tagged
  · have warned (custom : Tag.isCustom (s.componentName a.source tag) = true) :
        ⟨.unknownElement (s.componentName a.source tag), s.file.path,
          s.file.document.position a.source⟩ ∈ reports :=
      told _ (heeds.told reads unmeant custom)
    rw [unmeant] at bound
    generalize s.componentName a.source tag = name at misses warned
    cases last : Tag.isCustom name with
    | true => exact .unknown misses (warned last)
    | false =>
        cases misses with
        | tag absent plain => exact nomatch last.symm.trans custom
        | is absent given missing => exact .unnoticed bound absent given missing last

end Elements

namespace Workspace

/-- A turn resolves the elements of its file over every table with the same flags, when all that is
flagged there was announced. -/
theorem Turn.resolves {w : Workspace} {ran : Workspace × Diagnostics} {old entry : Path × SourceFile}
    {s : Pass} {t : ComponentTable} {reports : Diagnostics} {source : Source}
    (turn : w.Turn ran old entry s) (holds : old.2.Holds source)
    (wellFormed : source.document.WellFormed) (flags : t.hasConflict = w.components.hasConflict)
    (named : Linking.Named t old.2.scope)
    (announced : ∀ c, t.hasConflict c = true → ∃ ds, Linking.IsPair t c ds ∧ ds <:+: reports)
    (told : ∀ r ∈ ran.2, r ∈ reports) {id : AnnotatedId} {a : AnnotatedNode}
    (present : entry.2.annotations.get? id = some a) : a.isText = true ∧ a.component? = none ∨
      ∃ tag attributes, entry.2.Resolves t reports source.document a tag attributes := by
  have fresh : s.annotations = {} := by
    rw [Pass.annotations, turn.file]
    exact holds.annotations
  have document : s.document = source.document := by
    rw [Pass.document, turn.file]
    exact holds.document
  have basis := basis_annotateFile w.settings.keepBlanks s
  have flags' : (annotateFile w.settings.keepBlanks s).components.hasConflict = t.hasConflict :=
    (congrArg Basis.flagged basis).trans (turn.flags.trans flags.symm)
  have scope : (annotateFile w.settings.keepBlanks s).file.scope = s.file.scope :=
    congrArg (fun basis => basis.file.scope) basis
  rw [← turn.file, ← scope] at named
  obtain rfl := turn.made
  cases text : a.isText with
  | true =>
      refine .inl ⟨rfl, ?_⟩
      cases a using AnnotatedNode.byKind with
      | text => rfl
      | _ => cases text
  | false =>
      obtain ⟨tag, attributes, gives, heeds, is⟩ :=
        heeds_annotateFile w.settings.keepBlanks fresh (document ▸ wellFormed) present text
      rw [document] at gives
      exact .inr ⟨tag, attributes, gives, fun c => heeds.means is flags',
        heeds.answers is flags' named announced fun r reported => told r (turn.reported r reported)⟩

theorem run_snd (w : Workspace) (sources : List Source) : (w.run sources).2 =
    (w.declareAll sources).2 ++ (w.declareAll sources).1.linkAll.2 ++
      (w.declareAll sources).1.linkAll.1.annotateAll.2 := rfl

/-- When the sources of a first run have been linked, every scope has each component under its tag, and
what is flagged has been announced. -/
theorem announced_linkAll (settings : Settings) (scripts : OrderedMap Path CodeUnit)
    (sources : List Source) :
    let linked := (({ settings, scripts } : Workspace).declareAll sources).1.linkAll
    linked.1.settings = settings ∧ OrderedMap.Distinct linked.1.files.entries ∧
      (∀ entry ∈ linked.1.files.entries,
        (∃ source, source? sources entry.1 = some source ∧ entry.2.Holds source) ∧
        Linking.Named linked.1.components entry.2.scope) ∧
      ∀ c, linked.1.components.hasConflict c = true →
        ∃ ds, Linking.IsPair linked.1.components c ds ∧ ds <:+: linked.2 := by
  have unflagged := hasConflict_declareAll (w := { settings, scripts }) sources fun _ => rfl
  obtain ⟨files, components, declared, distinct, origin, -⟩ := run_turns settings scripts sources
  rw [declared] at unflagged ⊢
  have fresh : ∀ entry ∈ files.entries, Linking.Named components entry.2.scope := by
    intro entry listed tag c found
    obtain ⟨source, -, number, record⟩ := origin entry listed
    rw [record] at found
    cases found
  have announces := announces_each_link (w := { settings, scripts, files, components }) fresh files.keys
  have all := fst_linkAll (w := { settings, scripts, files, components }) distinct
  intro linked
  have kept : linked.1.files.entries = (linkEach files scripts files.entries components).1 := by
    change (linkAll { settings, scripts, files, components }).1.files.entries = _
    rw [all]
  refine ⟨?_, ?_, fun entry member => ⟨?_, announces.named entry member⟩, fun c flagged => ?_⟩
  · change (linkAll { settings, scripts, files, components }).1.settings = _
    rw [all]
  · rw [kept]
    exact OrderedMap.distinct_of_keys (keys_linkEach files scripts files.entries components) distinct
  · rw [kept] at member
    refine linkEach_holds
      (P := fun path file => ∃ source, source? sources path = some source ∧ file.Holds source)
      ?_ (fun entry listed => ?_) entry member
    · rintro path file scope code ⟨source, found, holds⟩
      exact ⟨source, found, holds.document, holds.annotations⟩
    · obtain ⟨source, found, first, record⟩ := origin entry listed
      exact ⟨source, found, record ▸ source.holds_file settings.packageRoot first⟩
  · rcases announces.told c flagged with before | ⟨ds, pair, listed⟩
    · exact nomatch (unflagged c).symm.trans before
    · exact ⟨ds, pair.congr announces.agrees, listed⟩

/-- After a first run every element with a custom tag is answered for, unless its `is` stands in the
way, and every node that is bound is bound to an unflagged component that it means. -/
theorem resolves_run (settings : Settings) (scripts : OrderedMap Path CodeUnit)
    (sources : List Source) (wellFormed : ∀ source ∈ sources, source.document.WellFormed) :
    let ran := ({ settings, scripts } : Workspace).run sources
    ∀ entry ∈ ran.1.files.entries, ∃ source, source? sources entry.1 = some source ∧
      ∀ id a, entry.2.annotations.get? id = some a → a.isText = true ∧ a.component? = none ∨
        ∃ tag attributes,
          entry.2.Resolves ran.1.components ran.2 source.document a tag attributes := by
  obtain ⟨same, distinct, origin, announced⟩ := announced_linkAll settings scripts sources
  intro ran entry member
  have tables : ran.1 = _ := run_eq { settings, scripts } sources
  have reports : ran.2 = _ := run_snd { settings, scripts } sources
  generalize (({ settings, scripts } : Workspace).declareAll sources).1.linkAll = linked at *
  obtain ⟨agrees, flags, turns⟩ := turns_annotate linked.1.files.entries [] linked.1 rfl distinct
  change _ = linked.1.annotateAll.1 at tables
  rw [tables] at member ⊢
  rcases turns entry member with impossible | ⟨old, listed, s, turn⟩
  · cases impossible
  · obtain ⟨⟨source, found, holds⟩, named⟩ := origin old listed
    have own : entry.1 = old.1 := by rw [turn.made]
    refine ⟨source, own ▸ found, fun id a present => ?_⟩
    refine turn.resolves holds (wellFormed source (mem_of_source? found)) flags (named.congr agrees)
      (fun c flagged => ?_) (fun r reported => ?_) present
    · obtain ⟨ds, pair, told⟩ := announced c ((congrFun flags c).symm.trans flagged)
      refine ⟨ds, pair.congr agrees, told.trans ?_⟩
      rw [reports]
      exact List.infix_append ..
    · rw [reports]
      exact List.mem_append_right _ reported

/-- `<element name="x-a">`, `<element name="x-b">` twice, `<x-a>`, `<x-b>`, `<x-c>`, `<div is="X-A">`
and `<x-c is="div">` in a body. -/
def customElements : Document where
  nodes := #[
    { data := .document, children := [1] },
    { data := .element "body" {}, parent := some 0, children := [2, 3, 4, 5, 6, 7, 8, 9] },
    { data := .element "element" ⟨[("name", "x-a")]⟩, parent := some 1 },
    { data := .element "element" ⟨[("name", "x-b")]⟩, parent := some 1 },
    { data := .element "element" ⟨[("name", "x-b")]⟩, parent := some 1 },
    { data := .element "x-a" {}, parent := some 1 },
    { data := .element "x-b" {}, parent := some 1 },
    { data := .element "x-c" {}, parent := some 1 },
    { data := .element "div" ⟨[("is", "X-A")]⟩, parent := some 1 },
    { data := .element "x-c" ⟨[("is", "div")]⟩, parent := some 1 }]

theorem resolves_run_customElements :
    let ran := ({} : Workspace).run [{ path := ⟨"a.html"⟩, document := customElements }]
    customElements.WellFormed ∧
      ∀ entry ∈ ran.1.files.entries, ∃ source,
        source? [{ path := ⟨"a.html"⟩, document := customElements }] entry.1 = some source ∧
        ∀ id a, entry.2.annotations.get? id = some a → a.isText = true ∧ a.component? = none ∨
          ∃ tag attributes,
            entry.2.Resolves ran.1.components ran.2 source.document a tag attributes := by
  have checked : customElements.Checked fun n => if n < 2 then n else 2 := by decide
  have wellFormed := Document.WellFormed.of_checked checked
  refine ⟨wellFormed, resolves_run {} {} _ fun source member => ?_⟩
  obtain rfl := List.mem_singleton.1 member
  exact wellFormed

/-- The first `<x-a>` and the `<div>` are bound, the others with a custom tag are not. -/
example : ((({} : Workspace).run
    [{ path := ⟨"a.html"⟩, document := customElements }]).1.files.find? ⟨"a.html"⟩).map
      (fun file => (List.range' 4 5).map fun id => (file.annotations.get? id).bind (·.component?)) =
        some [some 0, none, none, some 0, none] := by
  decide +kernel

/-- `<x-foo is="div">` in a body. -/
def aliasedElement : Document where
  nodes := #[
    { data := .document, children := [1] },
    { data := .element "body" {}, parent := some 0, children := [2] },
    { data := .element "x-foo" ⟨[("is", "div")]⟩, parent := some 1 }]

/-- The element of `aliasedElement` has a custom tag and is bound to nothing, of which nothing tells. -/
theorem not_answered_aliasedElement :
    let ran := ({} : Workspace).run [{ path := ⟨"a.html"⟩, document := aliasedElement }]
    aliasedElement.WellFormed ∧ Tag.isCustom "x-foo" = true ∧ ran.2 = [] ∧
      ∃ file a, ran.1.files.find? ⟨"a.html"⟩ = some file ∧ file.annotations.get? 1 = some a ∧
        file.document.tag? a.source = some "x-foo" ∧ a.isPlain = true ∧ a.component? = none := by
  intro ran
  have checked : aliasedElement.Checked fun n => n := by decide
  have silent : ran.2.length = 0 := by decide +kernel
  have annotated : ((ran.1.files.find? ⟨"a.html"⟩).bind fun file =>
      (file.annotations.get? 1).map fun a =>
        (file.document.tag? a.source, a.isPlain, a.component?)) =
          some (some "x-foo", true, none) := by
    decide +kernel
  obtain ⟨file, found, annotated⟩ := Option.bind_eq_some_iff.1 annotated
  obtain ⟨a, present, fields⟩ := Option.map_eq_some_iff.1 annotated
  obtain ⟨tag, plain, unbound⟩ : file.document.tag? a.source = some "x-foo" ∧ a.isPlain = true ∧
      a.component? = none := by simpa using fields
  exact ⟨.of_checked checked, by decide, List.length_eq_zero_iff.1 silent, file, a, found, present,
    tag, plain, unbound⟩

end Workspace
end ComponentMarkup
