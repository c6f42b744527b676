import ComponentMarkup.Proofs.Annotated.Choices
import ComponentMarkup.Proofs.Annotated.ClosedForm
import ComponentMarkup.Proofs.Annotated.Conserved
import ComponentMarkup.Proofs.Annotated.Directives
import ComponentMarkup.Proofs.Annotated.Located
import ComponentMarkup.Proofs.Annotated.Shapes
import ComponentMarkup.Proofs.Workspace.Numbers

/-!
What is true of every file that is annotated once: the closed form of its flags and identifiers,
which generated identifiers its static markup has, which attributes of its source and which of its
directives, which attribute each of its bindings stems from, and which literals its radio buttons
assign and compare with.
-/

namespace ComponentMarkup.Workspace

/-! ## Closed form -/

/-- A file that has been declared and linked holds its source, whatever else the workspace has. -/
theorem link_declare (w : Workspace) (source : Source) : ∃ file,
    ((w.declare source).1.link source.path).1.files.find? source.path = some file ∧
      file.Holds source := by
  rw [w.declare_fst source]
  unfold link
  simp only [OrderedMap.find?_insert_self]
  have holds := source.holds_file w.settings.packageRoot w.components.size
  generalize source.file w.settings.packageRoot w.components.size = file at holds ⊢
  generalize w.components.extend (source.findings w.settings.packageRoot).components = components
  obtain ⟨code, l, linked, -⟩ := linkFile_eq (w.files.insert source.path file) w.scripts
    components file
  exact ⟨_, rfl, by rw [linked]; exact ⟨holds.document, holds.annotations⟩⟩

/-- Annotating a file for the first time gives all its annotations their closed form. -/
theorem closedForm_annotate {w : Workspace} {path : Path} {file : SourceFile} {source : Source}
    (present : w.files.find? path = some file) (holds : file.Holds source)
    (wellFormed : source.document.WellFormed) :
    ∃ after, (w.annotate path).1.files.find? path = some after ∧
      ∀ id a, after.annotations.get? id = some a →
        id ∈ after.annotations.walk ∧ after.ClosedForm source.document id a := by
  have fresh : ({ file, components := w.components, counter := w.counter } : Pass).annotations =
    {} := holds.annotations
  unfold annotate
  simp only [present, OrderedMap.find?_insert_self]
  refine ⟨_, rfl, fun id a found => ⟨(labelled_annotateFile _ fresh found).1, ?_⟩⟩
  have same : ({ file, components := w.components, counter := w.counter } : Pass).document =
    source.document := holds.document
  rw [← same]
  exact closedForm_annotateFile _ fresh (same ▸ wellFormed) found

theorem closedForm_annotate_boundParagraph :
    let source : Source := { path := ⟨"a.html"⟩, document := boundParagraph }
    let w := ((({} : Workspace).declare source).1.link ⟨"a.html"⟩).1
    ∃ file, w.files.find? ⟨"a.html"⟩ = some file ∧ file.Holds source ∧
      boundParagraph.WellFormed ∧
      ∃ after, (w.annotate ⟨"a.html"⟩).1.files.find? ⟨"a.html"⟩ = some after ∧
        ∀ id a, after.annotations.get? id = some a →
          id ∈ after.annotations.walk ∧ after.ClosedForm boundParagraph id a := by
  obtain ⟨file, present, holds⟩ :=
    link_declare {} { path := ⟨"a.html"⟩, document := boundParagraph }
  have checked : boundParagraph.Checked fun n => n := by decide
  have wellFormed := Document.WellFormed.of_checked checked
  exact ⟨file, present, holds, wellFormed, closedForm_annotate present holds wellFormed⟩

/-! ## Identifiers in static markup -/

/-- After a first run the static markup has the identifier of a node that is not built, unless an
`id` of the input that holds a binding was stripped or a void element stands above the node. -/
theorem locates_run (settings : Settings) (scripts : OrderedMap Path CodeUnit)
    (sources : List Source) (wellFormed : ∀ source ∈ sources, source.document.WellFormed) :
    ∀ entry ∈ (({ settings, scripts } : Workspace).run sources).1.files.entries, ∃ source,
      source? sources entry.1 = some source ∧
      entry.2.staticMarkup = String.join (entry.2.staticPieces.map Document.Piece.text) ∧
      ∀ id a, entry.2.annotations.get? id = some a → a.isText = false → a.IsGenerated →
        entry.2.annotations.isBuilt id = false →
          (entry.2.Locates a ↔ a.losesId source.document = false ∧ entry.2.IsOpen a.source) := by
  obtain ⟨linked, components, origin, ran⟩ := run_fst settings scripts sources
  rw [ran]
  intro entry member
  obtain ⟨before, listed, components, counter, rfl⟩ := mem_annotateEach member
  obtain ⟨source, found, holds⟩ := origin before listed
  have fresh : ({ file := before.2, components, counter } : Pass).annotations = {} :=
    holds.annotations
  have same : ({ file := before.2, components, counter } : Pass).document = source.document :=
    holds.document
  have checked := wellFormed source (mem_of_source? found)
  refine ⟨source, found, SourceFile.staticMarkup_eq _, ?_⟩
  intro id a present element generated unbuilt
  rw [← same]
  exact locates_annotateFile _ fresh (same ▸ checked) present element generated unbuilt

/-- `<div id="{{x}}">` in a body. -/
def boundIdentifier : Document where
  nodes := #[
    { data := .document, children := [1] },
    { data := .element "body" {}, parent := some 0, children := [2] },
    { data := .element "div" ⟨[("id", "\x7b\x7bx\x7d\x7d")]⟩, parent := some 1 }]

theorem locates_run_boundParagraph :
    boundParagraph.WellFormed ∧
      ∀ entry ∈ (({} : Workspace).run
        [{ path := ⟨"a.html"⟩, document := boundParagraph }]).1.files.entries, ∃ source,
          source? [{ path := ⟨"a.html"⟩, document := boundParagraph }] entry.1 = some source ∧
          entry.2.staticMarkup = String.join (entry.2.staticPieces.map Document.Piece.text) ∧
          ∀ id a, entry.2.annotations.get? id = some a → a.isText = false → a.IsGenerated →
            entry.2.annotations.isBuilt id = false →
              (entry.2.Locates a ↔
                a.losesId source.document = false ∧ entry.2.IsOpen a.source) := by
  have checked : boundParagraph.Checked fun n => n := by decide
  have wellFormed := Document.WellFormed.of_checked checked
  refine ⟨wellFormed, locates_run {} {} _ fun source member => ?_⟩
  obtain rfl := List.mem_singleton.1 member
  exact wellFormed

/-- The `<div>` of `boundIdentifier` is to be found as `__e-0`, which the static markup lacks. -/
theorem not_locates_boundIdentifier :
    boundIdentifier.WellFormed ∧ ∃ file a, (({} : Workspace).run
        [{ path := ⟨"a.html"⟩, document := boundIdentifier }]).1.files.find? ⟨"a.html"⟩ = some file ∧
      file.annotations.get? 1 = some a ∧ a.isText = false ∧ a.IsGenerated ∧
      file.annotations.isBuilt 1 = false ∧ file.staticMarkup = "<body><div></div></body>" ∧
      ¬ file.Locates a := by
  have checked : boundIdentifier.Checked fun n => n := by decide
  let found? := (({} : Workspace).run
    [{ path := ⟨"a.html"⟩, document := boundIdentifier }]).1.files.find? ⟨"a.html"⟩
  have annotated : (found?.bind fun file => (file.annotations.get? 1).map fun a =>
      (a.isText, a.identifier, a.source)) = some (false, some (elementIdentifier 0), 2) := by
    decide +kernel
  have shown : (found?.map fun file =>
      (file.annotations.isBuilt 1, file.staticMarkup, file.staticPieces)) =
        some (false, "<body><div></div></body>",
          [.start 1 "body" [], .start 2 "div" [], .other "</div>", .other "</body>"]) := by
    decide +kernel
  obtain ⟨file, found, shown⟩ := Option.map_eq_some_iff.1 shown
  obtain ⟨file', found', annotated⟩ := Option.bind_eq_some_iff.1 annotated
  obtain rfl := Option.some.inj (found.symm.trans found')
  obtain ⟨a, present, fields⟩ := Option.map_eq_some_iff.1 annotated
  obtain ⟨element, identifier, source⟩ : a.isText = false ∧
      a.identifier = some (elementIdentifier 0) ∧ a.source = 2 := by simpa using fields
  obtain ⟨unbuilt, markup, pieces⟩ : file.annotations.isBuilt 1 = false ∧
      file.staticMarkup = "<body><div></div></body>" ∧ file.staticPieces =
        [.start 1 "body" [], .start 2 "div" [], .other "</div>", .other "</body>"] := by
    simpa using shown
  refine ⟨Document.WellFormed.of_checked checked, file, a, found, present, element,
    ⟨0, identifier⟩, unbuilt, markup, ?_⟩
  rintro ⟨tag, kept, member, held⟩
  rw [pieces, source] at member
  obtain ⟨-, rfl⟩ : tag = "div" ∧ kept = [] := by simpa using member
  rw [identifier] at held
  cases held

/-! ## Attributes in static markup -/

/-- After a first run the start tag of every element whose attributes are read has those that it was
given, in their order and with their values, but for what the reading took off or wrote. -/
theorem conserves_run (settings : Settings) (scripts : OrderedMap Path CodeUnit)
    (sources : List Source) (wellFormed : ∀ source ∈ sources, source.document.WellFormed)
    (distinct : ∀ source ∈ sources, source.document.NamesAttributesOnce) :
    ∀ entry ∈ (({ settings, scripts } : Workspace).run sources).1.files.entries, ∃ source,
      source? sources entry.1 = some source ∧
      entry.2.staticMarkup = String.join (entry.2.staticPieces.map Document.Piece.text) ∧
      ∀ id a, entry.2.annotations.get? id = some a → a.isText = false →
        ∃ tag attributes, entry.2.Gives source.document a.source tag attributes ∧
          (Pass.readsAttributes tag a.directive? = true →
            entry.2.Conserves id a ⟨tag, attributes, a.component?.isSome⟩) := by
  obtain ⟨linked, components, origin, ran⟩ := run_fst settings scripts sources
  rw [ran]
  intro entry member
  obtain ⟨before, listed, components, counter, rfl⟩ := mem_annotateEach member
  obtain ⟨source, found, holds⟩ := origin before listed
  have fresh : ({ file := before.2, components, counter } : Pass).annotations = {} :=
    holds.annotations
  have same : ({ file := before.2, components, counter } : Pass).document = source.document :=
    holds.document
  have given := mem_of_source? found
  refine ⟨source, found, SourceFile.staticMarkup_eq _, ?_⟩
  intro id a present element
  rw [← same]
  exact conserves_annotateFile _ fresh (same ▸ wellFormed source given) (same ▸ distinct source given)
    present element

/-- `<input type="radio" value="1" checked style="top: {{t}}" bind-value="c" class="{{k}} a"
on-focus="f()" title="n">` in a body. -/
def boundRadio : Document where
  nodes := #[
    { data := .document, children := [1] },
    { data := .element "body" {}, parent := some 0, children := [2] },
    { data := .element "input" ⟨[("type", "radio"), ("value", "1"), ("checked", ""),
        ("style", "top: \x7b\x7bt\x7d\x7d"), ("bind-value", "c"), ("class", "\x7b\x7bk\x7d\x7d a"),
        ("on-focus", "f()"), ("title", "n")]⟩,
      parent := some 1 }]

theorem conserves_run_boundRadio :
    boundRadio.WellFormed ∧ boundRadio.NamesAttributesOnce ∧
      ∀ entry ∈ (({} : Workspace).run
        [{ path := ⟨"a.html"⟩, document := boundRadio }]).1.files.entries, ∃ source,
          source? [{ path := ⟨"a.html"⟩, document := boundRadio }] entry.1 = some source ∧
          entry.2.staticMarkup = String.join (entry.2.staticPieces.map Document.Piece.text) ∧
          ∀ id a, entry.2.annotations.get? id = some a → a.isText = false →
            ∃ tag attributes, entry.2.Gives source.document a.source tag attributes ∧
              (Pass.readsAttributes tag a.directive? = true →
                entry.2.Conserves id a ⟨tag, attributes, a.component?.isSome⟩) := by
  have checked : boundRadio.Checked fun n => n := by decide
  have wellFormed := Document.WellFormed.of_checked checked
  have distinct : boundRadio.NamesAttributesOnce := .of_checked (by decide)
  refine ⟨wellFormed, distinct, conserves_run {} {} _ (fun source member => ?_)
    fun source member => ?_⟩
  · obtain rfl := List.mem_singleton.1 member
    exact wellFormed
  · obtain rfl := List.mem_singleton.1 member
    exact distinct

/-- The radio button is bound by its `checked`, which is no attribute any more. -/
example : ((({} : Workspace).run
    [{ path := ⟨"a.html"⟩, document := boundRadio }]).1.files.find? ⟨"a.html"⟩).map
      SourceFile.staticMarkup = some
        "<body><input type=\"radio\" value=\"1\" class=\"a\" title=\"n\" id=\"__e-0\"></body>" := by
  decide +kernel

/-! ## Directives in static markup -/

/-- After a first run no element with a condition shows a directive in its start tag. One that is
repeated shows the `instantiate` and, as a template, the `template` that it came with, and no other. -/
theorem showsDirectives_run (settings : Settings) (scripts : OrderedMap Path CodeUnit)
    (sources : List Source) (wellFormed : ∀ source ∈ sources, source.document.WellFormed) :
    ∀ entry ∈ (({ settings, scripts } : Workspace).run sources).1.files.entries, ∃ source,
      source? sources entry.1 = some source ∧
      entry.2.staticMarkup = String.join (entry.2.staticPieces.map Document.Piece.text) ∧
      ∀ id a directive, entry.2.annotations.get? id = some a → a.directive? = some directive →
        ∃ tag attributes,
          entry.2.ShowsDirectives source.document a directive tag attributes := by
  obtain ⟨linked, components, origin, ran⟩ := run_fst settings scripts sources
  rw [ran]
  intro entry member
  obtain ⟨before, listed, components, counter, rfl⟩ := mem_annotateEach member
  obtain ⟨source, found, holds⟩ := origin before listed
  have fresh : ({ file := before.2, components, counter } : Pass).annotations = {} :=
    holds.annotations
  have same : ({ file := before.2, components, counter } : Pass).document = source.document :=
    holds.document
  have checked := wellFormed source (mem_of_source? found)
  refine ⟨source, found, SourceFile.staticMarkup_eq _, ?_⟩
  intro id a directive present isDirective
  rw [← same]
  exact showsDirectives_annotateFile _ fresh (same ▸ checked) present isDirective

/-- `<template iterate="x in xs" instantiate="foo" template indentation="remove">a</template>` in a
body. -/
def instantiatedTemplate : Document where
  nodes := #[
    { data := .document, children := [1] },
    { data := .element "body" {}, parent := some 0, children := [2] },
    { data := .element "template" ⟨[("iterate", "x in xs"), ("instantiate", "foo"),
        ("template", ""), ("indentation", "remove")]⟩, parent := some 1, children := [3] },
    { data := .text "a", parent := some 2 }]

theorem showsDirectives_run_instantiatedTemplate :
    instantiatedTemplate.WellFormed ∧
      ∀ entry ∈ (({} : Workspace).run
        [{ path := ⟨"a.html"⟩, document := instantiatedTemplate }]).1.files.entries, ∃ source,
          source? [{ path := ⟨"a.html"⟩, document := instantiatedTemplate }] entry.1 = some source ∧
          entry.2.staticMarkup = String.join (entry.2.staticPieces.map Document.Piece.text) ∧
          ∀ id a directive, entry.2.annotations.get? id = some a → a.directive? = some directive →
            ∃ tag attributes,
              entry.2.ShowsDirectives source.document a directive tag attributes := by
  have checked : instantiatedTemplate.Checked fun n => n := by decide
  have wellFormed := Document.WellFormed.of_checked checked
  refine ⟨wellFormed, showsDirectives_run {} {} _ fun source member => ?_⟩
  obtain rfl := List.mem_singleton.1 member
  exact wellFormed

/-- The template of `instantiatedTemplate` is repeated, and its start tag has two directives. -/
theorem not_cleared_instantiatedTemplate :
    instantiatedTemplate.WellFormed ∧ ∃ file a, (({} : Workspace).run
        [{ path := ⟨"a.html"⟩, document := instantiatedTemplate }]).1.files.find? ⟨"a.html"⟩ =
          some file ∧
      file.annotations.get? 1 = some a ∧ a.directive? = some (.iteration "x" "xs") ∧ a.source = 2 ∧
      .start 2 "template" [("instantiate", "foo"), ("template", ""), ("id", "__e-0")] ∈
        file.staticPieces ∧
      file.staticMarkup = "<body><template instantiate=\"foo\" template=\"\" id=\"__e-0\">a" ++
        "</template></body>" := by
  have checked : instantiatedTemplate.Checked fun n => n := by decide
  let found? := (({} : Workspace).run
    [{ path := ⟨"a.html"⟩, document := instantiatedTemplate }]).1.files.find? ⟨"a.html"⟩
  have annotated : (found?.bind fun file => (file.annotations.get? 1).map fun a =>
      (a.directive?, a.source)) = some (some (.iteration "x" "xs"), 2) := by
    decide +kernel
  have shown : (found?.map fun file => (file.staticMarkup, file.staticPieces.take 2)) = some
      ("<body><template instantiate=\"foo\" template=\"\" id=\"__e-0\">a</template></body>",
        [.start 1 "body" [], .start 2 "template"
          [("instantiate", "foo"), ("template", ""), ("id", "__e-0")]]) := by
    decide +kernel
  obtain ⟨file, found, shown⟩ := Option.map_eq_some_iff.1 shown
  obtain ⟨file', found', annotated⟩ := Option.bind_eq_some_iff.1 annotated
  obtain rfl := Option.some.inj (found.symm.trans found')
  obtain ⟨a, present, fields⟩ := Option.map_eq_some_iff.1 annotated
  obtain ⟨directive, source⟩ := Prod.mk.inj fields
  obtain ⟨markup, pieces⟩ := Prod.mk.inj shown
  refine ⟨Document.WellFormed.of_checked checked, file, a, found, present, directive, source, ?_, markup⟩
  refine List.mem_of_mem_take (i := 2) ?_
  rw [pieces]
  exact List.mem_cons_of_mem _ List.mem_cons_self

/-! ## Stored bindings -/

/-- After a first run every binding that is stored stems from one attribute that its element was
given, and has the shape that goes with its style. -/
theorem stems_run (settings : Settings) (scripts : OrderedMap Path CodeUnit)
    (sources : List Source) (wellFormed : ∀ source ∈ sources, source.document.WellFormed) :
    ∀ entry ∈ (({ settings, scripts } : Workspace).run sources).1.files.entries, ∃ source,
      source? sources entry.1 = some source ∧
      ∀ id a, entry.2.annotations.get? id = some a → ∀ stored ∈ a.storedBindings,
        stored.2.IsShaped ∧ ∃ tag attributes,
          entry.2.Gives source.document a.source tag attributes ∧
          Pass.readsAttributes tag a.directive? = true ∧
          ∃ given ∈ attributes.entries,
            Binding.Attribute.Stems a.component?.isSome given.1 given.2 stored.1 stored.2 := by
  obtain ⟨linked, components, origin, ran⟩ := run_fst settings scripts sources
  rw [ran]
  intro entry member
  obtain ⟨before, listed, components, counter, rfl⟩ := mem_annotateEach member
  obtain ⟨source, found, holds⟩ := origin before listed
  have fresh : ({ file := before.2, components, counter } : Pass).annotations = {} :=
    holds.annotations
  have same : ({ file := before.2, components, counter } : Pass).document = source.document :=
    holds.document
  have checked := wellFormed source (mem_of_source? found)
  refine ⟨source, found, fun id a present stored isStored => ?_⟩
  cases text : a.isText with
  | true =>
      rw [AnnotatedNode.storedBindings_of_isText text] at isStored
      cases isStored
  | false =>
      obtain ⟨tag, attributes, gives, stems⟩ :=
        stems_annotateFile settings.keepBlanks fresh (same ▸ checked) present text
      obtain ⟨reads, given, listed, stems⟩ := stems stored isStored
      rw [same] at gives
      exact ⟨stems.isShaped, tag, attributes, gives, reads, given, listed, stems⟩

theorem stems_run_boundRadio :
    boundRadio.WellFormed ∧
      ∀ entry ∈ (({} : Workspace).run
        [{ path := ⟨"a.html"⟩, document := boundRadio }]).1.files.entries, ∃ source,
          source? [{ path := ⟨"a.html"⟩, document := boundRadio }] entry.1 = some source ∧
          ∀ id a, entry.2.annotations.get? id = some a → ∀ stored ∈ a.storedBindings,
            stored.2.IsShaped ∧ ∃ tag attributes,
              entry.2.Gives source.document a.source tag attributes ∧
              Pass.readsAttributes tag a.directive? = true ∧
              ∃ given ∈ attributes.entries,
                Binding.Attribute.Stems a.component?.isSome given.1 given.2 stored.1 stored.2 := by
  have checked : boundRadio.Checked fun n => n := by decide
  have wellFormed := Document.WellFormed.of_checked checked
  refine ⟨wellFormed, stems_run {} {} _ fun source member => ?_⟩
  obtain rfl := List.mem_singleton.1 member
  exact wellFormed

/-! ## Literals -/

/-- A value has one body as a literal, and reading that gives the value, up to the quote that is put
behind it. What assigns a literal ends with that body and the quote, and so does what compares with
it. After a first run whatever assigns a literal is bound to `checked` by comparing what it assigns to
with the same literal, and that is the `value` that its element was given. -/
theorem literals_run (literal : String) :
    let body := Text.Quoted.encode literal.toList
    Text.Quoted.Spells body literal.toList ∧
    (∀ event target, ((Binding.Action.assignLiteral target literal).render event).toList =
      target.toList ++ " = '".toList ++ body ++ ['\'']) ∧
    (∀ target, (Pass.radioCondition target literal).toList =
      target.toList ++ " == '".toList ++ body ++ ['\'']) ∧
    ∀ (settings : Settings) (scripts : OrderedMap Path CodeUnit) (sources : List Source),
      (∀ source ∈ sources, source.document.WellFormed) →
      (∀ source ∈ sources, source.document.NamesAttributesOnce) →
      ∀ entry ∈ (({ settings, scripts } : Workspace).run sources).1.files.entries, ∃ source,
        source? sources entry.1 = some source ∧
        ∀ id a event target fired, entry.2.annotations.get? id = some a →
          { event, action := .assignLiteral target literal } ∈ a.handlersOf fired →
          (∃ tag attributes, entry.2.Gives source.document a.source tag attributes ∧
            attributes.find? "value" = some literal) ∧
          ∃ expr gap, a.stored? "checked" = some (.direct expr .plain) ∧
            (∀ c ∈ gap, Text.isBlank c = true) ∧
            expr.text.toList = target.toList ++ gap ++ "== '".toList ++ body ++ ['\''] := by
  intro body
  have quoted := Text.Quoted.toList_literal literal
  refine ⟨Text.Quoted.spells_encode _, fun event target => ?_, fun target => ?_,
    fun settings scripts sources wellFormed distinct => ?_⟩
  · rw [Binding.Action.render, String.toList_append, String.toList_append, quoted]
    simp [body]
  · rw [Pass.radioCondition, String.toList_append, String.toList_append, quoted]
    simp [body]
  · obtain ⟨linked, components, origin, ran⟩ := run_fst settings scripts sources
    rw [ran]
    intro entry member
    obtain ⟨before, listed, components, counter, rfl⟩ := mem_annotateEach member
    obtain ⟨source, found, holds⟩ := origin before listed
    have fresh : ({ file := before.2, components, counter } : Pass).annotations = {} :=
      holds.annotations
    have same : ({ file := before.2, components, counter } : Pass).document = source.document :=
      holds.document
    have given := mem_of_source? found
    refine ⟨source, found, fun id a event target fired present assigns => ?_⟩
    obtain ⟨static, stored, -, trimmed⟩ := checked_annotateFile settings.keepBlanks fresh
      (same ▸ wellFormed source given) (same ▸ distinct source given) present assigns
    obtain ⟨gap, blank, text⟩ := Pass.isReadBy_radioCondition target literal
    rw [trimmed, quoted] at text
    rw [same] at static
    refine ⟨static, _, gap, stored, blank, ?_⟩
    rw [text]
    simp [body]

/-- `<body><input type="radio" value="it's" bind-value=" c "></body>`. -/
def quotedRadio : Document where
  nodes := #[
    { data := .document, children := [1] },
    { data := .element "body" {}, parent := some 0, children := [2] },
    { data := .element "input" ⟨[("type", "radio"), ("value", "it's"), ("bind-value", " c ")]⟩,
      parent := some 1 }]

theorem literals_run_quotedRadio :
    quotedRadio.WellFormed ∧ quotedRadio.NamesAttributesOnce ∧
      ∃ file a, (({} : Workspace).run
          [{ path := ⟨"a.html"⟩, document := quotedRadio }]).1.files.find? ⟨"a.html"⟩ = some file ∧
        file.annotations.get? 1 = some a ∧
        { event := changeEvent, action := .assignLiteral "c" "it's" } ∈ a.handlersOf changeEvent ∧
        ∃ expr gap, a.stored? "checked" = some (.direct expr .plain) ∧
          (∀ c ∈ gap, Text.isBlank c = true) ∧
          expr.text.toList = "c".toList ++ gap ++ "== 'it\\'s'".toList := by
  have checked : quotedRadio.Checked fun n => n := by decide
  have wellFormed := Document.WellFormed.of_checked checked
  have distinct : quotedRadio.NamesAttributesOnce := .of_checked (by decide)
  let found? := (({} : Workspace).run
    [{ path := ⟨"a.html"⟩, document := quotedRadio }]).1.files.find? ⟨"a.html"⟩
  have annotated : (found?.bind fun file => (file.annotations.get? 1).map fun a =>
      a.handlersOf changeEvent) =
        some [{ event := changeEvent, action := .assignLiteral "c" "it's" }] := by
    decide +kernel
  obtain ⟨file, found, annotated⟩ := Option.bind_eq_some_iff.1 annotated
  obtain ⟨a, present, handled⟩ := Option.map_eq_some_iff.1 annotated
  have assigns : { event := changeEvent, action := .assignLiteral "c" "it's" } ∈
      a.handlersOf changeEvent := by
    rw [handled]
    exact List.mem_singleton_self _
  obtain ⟨entry, member, rfl, -⟩ := OrderedMap.exists_mem_of_find? found
  obtain ⟨-, -, -, ran⟩ := literals_run "it's"
  obtain ⟨source, -, agrees⟩ := ran {} {} [{ path := ⟨"a.html"⟩, document := quotedRadio }]
    (fun source member => by obtain rfl := List.mem_singleton.1 member; exact wellFormed)
    (fun source member => by obtain rfl := List.mem_singleton.1 member; exact distinct) entry member
  obtain ⟨-, expr, gap, stored, blank, text⟩ := agrees 1 a _ _ _ present assigns
  have written : "== '".toList ++ Text.Quoted.encode "it's".toList ++ ['\''] =
      "== 'it\\'s'".toList := by decide
  refine ⟨wellFormed, distinct, entry.2, a, found, present, assigns, expr, gap, stored, blank, ?_⟩
  rw [text, ← written]
  simp only [List.append_assoc]

end ComponentMarkup.Workspace
