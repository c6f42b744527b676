import ComponentMarkup.Proofs.Annotated.Correspondence
import ComponentMarkup.Proofs.Annotated.Frame
import ComponentMarkup.Proofs.Annotated.Handlers
import ComponentMarkup.Proofs.Annotated.TextRows
import ComponentMarkup.Proofs.Workspace.AnnotatedOnce

/-!
How the annotations of a file that is annotated once and its document correspond: the tree of the
one mirrors that of the other, nothing is lost on the way, and what changes of the document is what
the annotations ask for. Handlers are stored in the order of their attributes. Each text is cut into
its literals and placeholders, under the mode of the node it stands in, and the placeholders hold
numbers that nothing has drawn before.
-/

namespace ComponentMarkup.Workspace

section Annotate
variable {w : Workspace} {path : Path} {file : SourceFile} {source : Source}
  (present : w.files.find? path = some file) (holds : file.Holds source)
include present holds

/-- To annotate a file is to run a pass over its source. -/
theorem annotate_of_holds : ∃ s : Pass, s.annotations = {} ∧ s.document = source.document ∧
    (w.annotate path).1.files.find? path = some (annotateFile w.settings.keepBlanks s).file ∧
    (w.annotate path).2 = (annotateFile w.settings.keepBlanks s).reports ∧ s.reports = [] := by
  refine ⟨{ file, components := w.components, counter := w.counter }, holds.annotations,
    holds.document, ?_, ?_, rfl⟩
  · unfold annotate
    simp only [present, OrderedMap.find?_insert_self]
  · unfold annotate
    simp only [present]

/-- After a first pass the annotations of a file mirror its document. -/
theorem mirrors_annotate (wellFormed : source.document.WellFormed) :
    ∃ after, (w.annotate path).1.files.find? path = some after ∧ after.Mirrors source.document := by
  obtain ⟨s, fresh, document, found, -⟩ := annotate_of_holds present holds
  rw [← document] at wellFormed ⊢
  exact ⟨_, found, mirrors_file_annotateFile _ fresh wellFormed⟩

/-- A first pass loses no element and no text of the body without a reason. -/
theorem covers_annotate (wellFormed : source.document.WellFormed) :
    ∃ after, (w.annotate path).1.files.find? path = some after ∧
      ∀ n ∈ source.document.reached source.document.bodyForest,
        after.Covers source.document (w.annotate path).2 n := by
  obtain ⟨s, fresh, document, found, reports, -⟩ := annotate_of_holds present holds
  rw [← document] at wellFormed ⊢
  rw [reports]
  exact ⟨_, found, covers_file_annotateFile _ fresh wellFormed⟩

/-- A first pass changes of the document what its annotations ask for, and nothing else. -/
theorem frames_annotate (wellFormed : source.document.WellFormed)
    (distinct : source.document.NamesAttributesOnce) :
    ∃ after, (w.annotate path).1.files.find? path = some after ∧
      after.Frames source.document w.settings.keepBlanks := by
  obtain ⟨s, fresh, document, found, -⟩ := annotate_of_holds present holds
  rw [← document] at wellFormed distinct ⊢
  exact ⟨_, found, frames_file_annotateFile _ fresh wellFormed distinct⟩

/-- A first pass stores the handlers that the attributes ask for, in their order, and reports those
that are left to the browser, each once. -/
theorem handles_annotate (wellFormed : source.document.WellFormed)
    (distinct : source.document.NamesAttributesOnce) :
    ∃ after warnings, (w.annotate path).1.files.find? path = some after ∧
      Diagnostics.natives (w.annotate path).2 =
        (List.range after.annotations.nodes.size).flatMap warnings ∧
      (∀ d ∈ Diagnostics.natives (w.annotate path).2, d.severity = .warning) ∧
      ∀ id a, after.annotations.get? id = some a → after.Handles source.document a (warnings id) := by
  obtain ⟨s, fresh, document, found, reports, silent⟩ := annotate_of_holds present holds
  rw [← document] at wellFormed distinct ⊢
  have natives := natives_annotateFile w.settings.keepBlanks fresh wellFormed
  have quiet : s.natives = [] := by rw [Pass.natives, silent]; rfl
  rw [Pass.natives, ← reports, quiet, List.nil_append] at natives
  exact ⟨_, _, found, natives, fun _ => Diagnostics.severity_of_mem_natives,
    fun id a here => handles_annotateFile _ fresh wellFormed distinct here⟩

end Annotate

/-! ## Single documents -/

/-- `<body><p template if="c" class="{{x}} a"> hi {{y}}</p></body>`. -/
def optInParagraph : Document where
  nodes := #[
    { data := .document, children := [1] },
    { data := .element "body" {}, parent := some 0, children := [2] },
    { data := .element "p" ⟨[("template", ""), ("if", "c"), ("class", "\x7b\x7bx\x7d\x7d a")]⟩,
      parent := some 1, children := [3] },
    { data := .text " hi \x7b\x7by\x7d\x7d", parent := some 2 }]

theorem mirrors_annotate_optInParagraph :
    let source : Source := { path := ⟨"a.html"⟩, document := optInParagraph }
    let w := ((({} : Workspace).declare source).1.link ⟨"a.html"⟩).1
    ∃ file, w.files.find? ⟨"a.html"⟩ = some file ∧ file.Holds source ∧ optInParagraph.WellFormed ∧
      ∃ after, (w.annotate ⟨"a.html"⟩).1.files.find? ⟨"a.html"⟩ = some after ∧
        after.Mirrors optInParagraph := by
  obtain ⟨file, present, holds⟩ := link_declare {} { path := ⟨"a.html"⟩, document := optInParagraph }
  have checked : optInParagraph.Checked fun n => n := by decide
  have wellFormed := Document.WellFormed.of_checked checked
  exact ⟨file, present, holds, wellFormed, mirrors_annotate present holds wellFormed⟩

theorem covers_annotate_optInParagraph :
    let source : Source := { path := ⟨"a.html"⟩, document := optInParagraph }
    let w := ((({} : Workspace).declare source).1.link ⟨"a.html"⟩).1
    ∃ file, w.files.find? ⟨"a.html"⟩ = some file ∧ file.Holds source ∧ optInParagraph.WellFormed ∧
      ∃ after, (w.annotate ⟨"a.html"⟩).1.files.find? ⟨"a.html"⟩ = some after ∧
        ∀ n ∈ optInParagraph.reached optInParagraph.bodyForest,
          after.Covers optInParagraph (w.annotate ⟨"a.html"⟩).2 n := by
  obtain ⟨file, present, holds⟩ := link_declare {} { path := ⟨"a.html"⟩, document := optInParagraph }
  have checked : optInParagraph.Checked fun n => n := by decide
  have wellFormed := Document.WellFormed.of_checked checked
  exact ⟨file, present, holds, wellFormed, covers_annotate present holds wellFormed⟩

theorem frames_annotate_optInParagraph :
    let source : Source := { path := ⟨"a.html"⟩, document := optInParagraph }
    let w := ((({} : Workspace).declare source).1.link ⟨"a.html"⟩).1
    ∃ file, w.files.find? ⟨"a.html"⟩ = some file ∧ file.Holds source ∧ optInParagraph.WellFormed ∧
      optInParagraph.NamesAttributesOnce ∧
      ∃ after, (w.annotate ⟨"a.html"⟩).1.files.find? ⟨"a.html"⟩ = some after ∧
        after.Frames optInParagraph w.settings.keepBlanks := by
  obtain ⟨file, present, holds⟩ := link_declare {} { path := ⟨"a.html"⟩, document := optInParagraph }
  have checked : optInParagraph.Checked fun n => n := by decide
  have wellFormed := Document.WellFormed.of_checked checked
  have distinct : optInParagraph.NamesAttributesOnce := .of_checked (by decide)
  exact ⟨file, present, holds, wellFormed, distinct, frames_annotate present holds wellFormed distinct⟩

/-- `<body><input on-input=" f() " bind-value="n" onclick="g()"></body>`. -/
def handledInput : Document where
  nodes := #[
    { data := .document, children := [1] },
    { data := .element "body" {}, parent := some 0, children := [2] },
    { data := .element "input" ⟨[("on-input", " f() "), ("bind-value", "n"), ("onclick", "g()")]⟩,
      parent := some 1 }]

theorem handles_annotate_handledInput :
    let source : Source := { path := ⟨"a.html"⟩, document := handledInput }
    let w := ((({} : Workspace).declare source).1.link ⟨"a.html"⟩).1
    ∃ file, w.files.find? ⟨"a.html"⟩ = some file ∧ file.Holds source ∧ handledInput.WellFormed ∧
      handledInput.NamesAttributesOnce ∧
      ∃ after warnings, (w.annotate ⟨"a.html"⟩).1.files.find? ⟨"a.html"⟩ = some after ∧
        Diagnostics.natives (w.annotate ⟨"a.html"⟩).2 =
          (List.range after.annotations.nodes.size).flatMap warnings ∧
        (∀ d ∈ Diagnostics.natives (w.annotate ⟨"a.html"⟩).2, d.severity = .warning) ∧
        ∀ id a, after.annotations.get? id = some a → after.Handles handledInput a (warnings id) := by
  obtain ⟨file, present, holds⟩ := link_declare {} { path := ⟨"a.html"⟩, document := handledInput }
  have checked : handledInput.Checked fun n => n := by decide
  have wellFormed := Document.WellFormed.of_checked checked
  have distinct : handledInput.NamesAttributesOnce := .of_checked (by decide)
  exact ⟨file, present, holds, wellFormed, distinct, handles_annotate present holds wellFormed distinct⟩

/-- `<body><template if="c">&nbsp;</template></body>`. -/
def blankTemplate : Document where
  nodes := #[
    { data := .document, children := [1] },
    { data := .element "body" {}, parent := some 0, children := [2] },
    { data := .element "template" ⟨[("if", "c")]⟩, parent := some 1, children := [3] },
    { data := .text "\u00a0", parent := some 2 }]

/-- The no-break space of `blankTemplate`, which is no blank of markup, is lost without a word. -/
theorem not_shows_blankTemplate :
    let run := ({} : Workspace).run [{ path := ⟨"a.html"⟩, document := blankTemplate }]
    blankTemplate.WellFormed ∧ 3 ∈ blankTemplate.reached blankTemplate.bodyForest ∧
      blankTemplate.text? 3 = some "\u00a0" ∧ "\u00a0".toList.all Text.isMarkupBlank = false ∧
      (∀ n, blankTemplate.tag? n ≠ some "script") ∧ run.2 = [] ∧
      ∃ after, run.1.files.find? ⟨"a.html"⟩ = some after ∧
        ¬ after.ShowsText blankTemplate 3 "\u00a0" := by
  intro run
  have checked : blankTemplate.Checked fun n => n := by decide
  have reached : 3 ∈ blankTemplate.reached blankTemplate.bodyForest := by decide
  have silent : run.2.isEmpty = true := by decide +kernel
  have sources : (run.1.files.find? ⟨"a.html"⟩).map (fun file =>
      file.annotations.nodes.toList.map AnnotatedNode.source) = some [1] := by decide +kernel
  have unbound : Binding.hasBinding "\u00a0" = false := by decide +kernel
  obtain ⟨after, found, only⟩ := Option.map_eq_some_iff.1 sources
  refine ⟨.of_checked checked, reached, rfl, by decide, fun n isScript => ?_,
    List.isEmpty_iff.1 silent, after, found, ?_⟩
  · match n with
    | 0 | 3 => cases isScript
    | 1 | 2 => exact absurd isScript (by decide)
    | n + 4 => cases isScript
  · rintro (⟨id, a, here, -, source⟩ | ⟨bound, -⟩)
    · have member : a.source ∈ after.annotations.nodes.toList.map AnnotatedNode.source :=
        List.mem_map.2 ⟨a, Array.mem_toList_iff.2 (Array.mem_of_getElem? here), rfl⟩
      rw [only, List.mem_singleton] at member
      cases source.symm.trans member
    · cases unbound.symm.trans bound

/-! ## Rows of texts -/

section Texts
variable {w : Workspace} {path : Path} {file : SourceFile} {source : Source}

/-- A first pass cuts all texts of a file, and its identifiers hold the next numbers of the count. -/
theorem cutsTexts_annotate (present : w.files.find? path = some file) (holds : file.Holds source)
    (wellFormed : source.document.WellFormed) :
    ∃ after count, (w.annotate path).1.files.find? path = some after ∧
      after.CutsTexts source.document w.settings.keepBlanks ∧
      after.numbers = drawnFrom w.counter count ∧
      (w.annotate path).1.counter = w.counter + UInt64.ofNat count := by
  let s : Pass := { file, components := w.components, counter := w.counter }
  have fresh : s.annotations = {} := holds.annotations
  have document : s.document = source.document := holds.document
  have found : (w.annotate path).1.files.find? path =
      some (annotateFile w.settings.keepBlanks s).file := by
    unfold annotate
    simp only [present, OrderedMap.find?_insert_self]
    rfl
  have counted : (w.annotate path).1.counter = (annotateFile w.settings.keepBlanks s).counter := by
    unfold annotate
    simp only [present]
    rfl
  rw [← document] at wellFormed ⊢
  obtain ⟨count, counter, numbers⟩ := numbers_annotateFile w.settings.keepBlanks fresh
  exact ⟨_, count, found, cutsTexts_annotateFile _ fresh wellFormed, numbers, counted.trans counter⟩

/-- `<body><p indentation="preserve"> a {{x}}{{y}} b</p><p> c </p></body>`. -/
def keptAndCompacted : Document where
  nodes := #[
    { data := .document, children := [1] },
    { data := .element "body" {}, parent := some 0, children := [2, 4] },
    { data := .element "p" ⟨[("indentation", "preserve")]⟩, parent := some 1, children := [3] },
    { data := .text " a \x7b\x7bx\x7d\x7d\x7b\x7by\x7d\x7d b", parent := some 2 },
    { data := .element "p" {}, parent := some 1, children := [5] },
    { data := .text "  c ", parent := some 4 }]

theorem cutsTexts_annotate_keptAndCompacted :
    let source : Source := { path := ⟨"a.html"⟩, document := keptAndCompacted }
    let w := ((({} : Workspace).declare source).1.link ⟨"a.html"⟩).1
    ∃ file, w.files.find? ⟨"a.html"⟩ = some file ∧ file.Holds source ∧
      keptAndCompacted.WellFormed ∧
      ∃ after count, (w.annotate ⟨"a.html"⟩).1.files.find? ⟨"a.html"⟩ = some after ∧
        after.CutsTexts keptAndCompacted w.settings.keepBlanks ∧
        after.numbers = drawnFrom w.counter count ∧
        (w.annotate ⟨"a.html"⟩).1.counter = w.counter + UInt64.ofNat count := by
  obtain ⟨file, present, holds⟩ :=
    link_declare {} { path := ⟨"a.html"⟩, document := keptAndCompacted }
  have checked : keptAndCompacted.Checked fun n => [0, 1, 2, 3, 2, 3].getD n 0 := by decide
  have wellFormed := Document.WellFormed.of_checked checked
  exact ⟨file, present, holds, wellFormed, cutsTexts_annotate present holds wellFormed⟩

end Texts
end ComponentMarkup.Workspace
