import ComponentMarkup.Proofs.Annotated.Spelled
import ComponentMarkup.Proofs.Workspace.Mirrored
import ComponentMarkup.Proofs.Workspace.Scopes
import ComponentMarkup.Proofs.Workspace.Respelled
import ComponentMarkup.Proofs.Workspace.Settled

/-!
The two spellings of a condition in whole runs: what is told about the element is the same, and so
is everything that is reported.
-/

namespace ComponentMarkup
variable {path : Path} {ρ : NodeId → NodeId} {n inner : NodeId} {condition : String}

theorem ComponentTable.twin_relocate (path : Path) (ρ : NodeId → NodeId) (t : ComponentTable) :
    t.Twin (t.relocate path ρ) := by
  intro id
  rw [get?_relocate, Option.map_map]
  rfl

/-- A file in which the element `n` has a condition, and the file in which a template around the
element `inner` has it instead. The element is split for its condition, and its part without
directives is told of like `inner`, identifiers included. -/
structure SourceFile.SpelledAlike (n inner : NodeId) (condition : String)
    (components components' : ComponentTable) (file file' : SourceFile) : Prop where
  identifiers : ∀ id, (file'.annotations.get? id).map AnnotatedNode.identifier =
    (file.annotations.get? id).map AnnotatedNode.identifier
  split : ∃ host content a b, file.annotations.get? host = some a ∧ a.source = n ∧
    a.directive? = some (.conditional condition) ∧ a.content? = some content ∧
    a.children = [content] ∧ file'.annotations.get? content = some b ∧ b.source = inner ∧
    Report.subtree components' file' content = Report.subtree components file content

namespace Pass
variable {t t' : Pass} {host bound : AnnotatedId}

theorem Twin.identifier_eq {host : Option AnnotatedId} (twin : Twin host t t') (id : AnnotatedId) :
    (t'.annotations.get? id).map AnnotatedNode.identifier =
      (t.annotations.get? id).map AnnotatedNode.identifier := by
  have shown (s : Pass) : (s.annotations.get? id).map AnnotatedNode.identifier =
      (s.seen host id).map fun sight => sight.node.identifier := by
    rw [Pass.seen, Option.map_map]
    refine Option.map_congr fun a _ => ?_
    rw [Function.comp_apply]
    split <;> rfl
  rw [shown, shown, twin.seen]

theorem Divides.spelledAlike (divides : Divides n inner condition bound t t' host)
    {before : Document} (mirrors : t.file.Mirrors before) {components components' : ComponentTable}
    (tags : ∀ id, components'.tag id = components.tag id) :
    t.file.SpelledAlike n inner condition components components' t'.file where
  identifiers := divides.toTwin.identifier_eq
  split := by
    obtain ⟨parent, a, stands, directive⟩ := divides.stands
    obtain ⟨b, found, source⟩ := divides.content
    exact ⟨host, host + 1, a, b, stands.found, stands.source, directive, stands.content,
      stands.children, found, source, divides.subtree mirrors tags⟩

end Pass

theorem SourceFile.SpelledAlike.congr {t t' u u' : ComponentTable} {file file' : SourceFile}
    (alike : file.SpelledAlike n inner condition t t' file') (tags : ∀ id, u.tag id = t.tag id)
    (tags' : ∀ id, u'.tag id = t'.tag id) : file.SpelledAlike n inner condition u u' file' where
  identifiers := alike.identifiers
  split := by
    obtain ⟨host, content, a, b, found, source, directive, isContent, children, found', source',
      same⟩ := alike.split
    have told (t u : ComponentTable) (file : SourceFile) (tags : ∀ id, u.tag id = t.tag id) :
        Report.subtree u file content = Report.subtree t file content :=
      Report.annotatedNodes_congr tags fun _ _ => rfl
    refine ⟨host, content, a, b, found, source, directive, isContent, children, found', source', ?_⟩
    rw [told t' u' file' tags', told t u file tags, same]

theorem ComponentTable.Agrees.tag {t u : ComponentTable} (agrees : t.Agrees u) (id : ComponentId) :
    u.tag id = t.tag id := by
  have shown (v : ComponentTable) :
      v.tag id = (((v.get? id).map Component.declaration).map Component.tag).getD "" := by
    rw [ComponentTable.tag, Option.map_map]
    cases v.get? id <;> rfl
  rw [shown, shown, agrees]

/-- The file declares with the other document what it declares with its own. -/
theorem SourceFile.Ready.relocated {t u u' : ComponentTable} {file : SourceFile}
    (ready : file.Ready t) (agrees : t.Agrees u) (agrees' : (t.relocate path ρ).Agrees u')
    (d' : Document) (counter counter' : UInt64) :
    ({ file, components := u, counter } : Pass).basis.Relocated
      (if file.path == path then ρ else id) file.document.size
      ({ file := file.withDocument d', components := u', counter := counter' } : Pass).basis where
  declared := rfl
  moved id member := by
    change (u'.get? id).map Component.declaration = ((u.get? id).map Component.declaration).map _
    rw [agrees' id, agrees id, ComponentTable.get?_relocate]
    obtain ⟨c, present, here, -, -⟩ := ready.declared id member
    obtain ⟨old, found, rfl⟩ := Option.map_eq_some_iff.1 present
    change old.file = file.path at here
    rw [found, Option.map_some, Option.map_some, Option.map_some, Option.map_some,
      Component.relocatedIn, here]
    rfl
  inside id member c found := by
    obtain ⟨c', present, -, element, template⟩ := ready.declared id member
    obtain rfl := Option.some.inj (((agrees id).trans present).symm.trans found)
    refine ⟨Document.lt_size_of_tag? element, fun x isTemplate => ?_⟩
    have first := template.symm.trans isTemplate
    have child := (List.mem_filter.1 (List.mem_of_head? first)).1
    exact Document.lt_size_of_parent? ((ready.wellFormed.linked _ _).1 child)

namespace Workspace
variable {d' : Document} {l w w' : Workspace} {todo : List Path}

/-- Two workspaces in the midst of annotating: `w` comes from `l`, and `w'` from `l` with the other
spelling in the file at `path`. The files of `todo` are not annotated yet. -/
structure Abreast (n inner : NodeId) (condition : String) (path : Path) (ρ : NodeId → NodeId)
    (d' : Document) (l : Workspace) (todo : List Path) (w w' : Workspace) : Prop where
  settings : w.settings = l.settings ∧ w'.settings = l.settings
  counter : w'.counter = w.counter
  twin : w.components.Twin w'.components
  agrees : l.components.Agrees w.components
  agrees' : (l.components.relocate path ρ).Agrees w'.components
  files : ∀ p ∈ todo, w.files.find? p = l.files.find? p ∧
    w'.files.find? p = (l.respelled path ρ d').files.find? p
  done : (∀ p ∈ todo, (p == path) = false) → ∀ file, l.files.find? path = some file →
    ∃ after after', w.files.find? path = some after ∧ w'.files.find? path = some after' ∧
      after.SpelledAlike n inner condition w.components w'.components after'

namespace Abreast
variable {p : Path} (abreast : Abreast n inner condition path ρ d' l (p :: todo) w w')
include abreast

/-- To annotate one more file keeps the workspaces abreast if it leaves passes that are twins. -/
theorem step {host : Option AnnotatedId} {s s' t t' : Pass} {file file' : SourceFile}
    (apart : ∀ q ∈ todo, (p == q) = false) (found : w.files.find? p = some file)
    (found' : w'.files.find? p = some file')
    (begins : s = { file, components := w.components, counter := w.counter })
    (begins' : s' = { file := file', components := w'.components, counter := w'.counter })
    (passed : t = annotateFile l.settings.keepBlanks s)
    (passed' : t' = annotateFile l.settings.keepBlanks s') (twin : Pass.Twin host t t')
    (split : (p == path) = true → t.file.SpelledAlike n inner condition t.components t'.components
      t'.file) :
    (w'.annotate p).2 = (w.annotate p).2 ∧
      Abreast n inner condition path ρ d' l todo (w.annotate p).1 (w'.annotate p).1 := by
  have basis := basis_annotateFile l.settings.keepBlanks s
  have basis' := basis_annotateFile l.settings.keepBlanks s'
  rw [← passed] at basis
  rw [← passed'] at basis'
  have agrees : w.components.Agrees t.components := fun id =>
    (congrFun (congrArg Basis.declaration basis) id).trans (by rw [begins]; rfl)
  have agrees' : w'.components.Agrees t'.components := fun id =>
    (congrFun (congrArg Basis.declaration basis') id).trans (by rw [begins']; rfl)
  rw [annotate_of_found found, annotate_of_found found', abreast.settings.1, abreast.settings.2]
  dsimp only
  rw [← begins, ← begins', ← passed, ← passed']
  refine ⟨twin.reports, ⟨rfl, rfl⟩, twin.counter, twin.components, abreast.agrees.trans agrees,
    abreast.agrees'.trans agrees', fun q member => ?_, fun others original listed => ?_⟩
  · dsimp only
    rw [OrderedMap.find?_insert, OrderedMap.find?_insert, apart q member]
    exact abreast.files q (List.mem_cons_of_mem _ member)
  · dsimp only
    rw [OrderedMap.find?_insert, OrderedMap.find?_insert]
    cases here : p == path with
    | true => exact ⟨t.file, t'.file, rfl, rfl, split here⟩
    | false =>
        obtain ⟨after, after', there, there', alike⟩ := abreast.done
          (List.forall_mem_cons.2 ⟨here, others⟩) original listed
        exact ⟨after, after', there, there', alike.congr agrees.tag agrees'.tag⟩

variable {tag : String} {attributes : Attributes} (ready : l.Ready)
  (apart : ∀ q ∈ todo, (p == q) = false)
  (here : ∀ file, (p == path) = true → l.files.find? p = some file → d'.WellFormed ∧
    file.document.Wraps ρ n inner tag attributes condition d' ∧
    n ∈ file.document.visited file.document.bodyForest)
include ready apart here

theorem annotate : (w'.annotate p).2 = (w.annotate p).2 ∧
    Abreast n inner condition path ρ d' l todo (w.annotate p).1 (w'.annotate p).1 := by
  obtain ⟨old, old'⟩ := abreast.files p List.mem_cons_self
  have look : (l.respelled path ρ d').files.find? p = _ :=
    l.files.find?_modify path (.withDocument d') p
  rw [look] at old'
  cases original : l.files.find? p with
  | none =>
      rw [original] at old old'
      rw [Option.map_none, ite_self] at old'
      rw [annotate_of_absent old, annotate_of_absent old']
      refine ⟨rfl, { abreast with
        files := fun q member => abreast.files q (List.mem_cons_of_mem _ member)
        done := fun others file listed => ?_ }⟩
      refine abreast.done (List.forall_mem_cons.2 ⟨Bool.eq_false_iff.2 fun same => ?_, others⟩) file
        listed
      have absent : l.files.find? path = none := (l.files.find?_eq_of_beq same).symm.trans original
      cases absent.symm.trans listed
  | some file =>
      have waits := ready.of_find? original
      have samePath : (file.path == path) = (p == path) := BEq.congr_left (ready.path_eq original)
      let s : Pass := { file, components := w.components, counter := w.counter }
      have fresh : s.annotations = {} := waits.fresh
      have started (d : Document) :=
        waits.relocated abreast.agrees abreast.agrees' d w.counter w'.counter
      rw [original] at old old'
      rw [samePath] at started
      cases isPath : p == path with
      | false =>
          let s' : Pass := { file, components := w'.components, counter := w'.counter }
          have fresh' : s'.annotations = {} := waits.fresh
          have twin : Pass.Twin none s s' :=
            Pass.twin_of_fresh fresh fresh' rfl abreast.twin abreast.counter rfl
          rw [isPath, if_neg Bool.false_ne_true] at old' started
          refine abreast.step apart old old' rfl rfl rfl rfl
            (Pass.twin_annotateFile fresh fresh' waits.wellFormed waits.wellFormed twin _
              (started file.document) rfl) fun impossible => ?_
          cases isPath.symm.trans impossible
      | true =>
          obtain ⟨wellFormed', wraps, visited⟩ := here file isPath original
          let s' : Pass :=
            { file := file.withDocument d', components := w'.components, counter := w'.counter }
          have fresh' : s'.annotations = {} := waits.fresh
          have twin : Pass.Twin none s s' :=
            Pass.twin_of_fresh fresh fresh' rfl abreast.twin abreast.counter rfl
          rw [isPath, if_pos rfl] at old' started
          obtain ⟨host, divides⟩ := Pass.exists_divides_annotateFile fresh fresh' waits.wellFormed
            wellFormed' twin l.settings.keepBlanks (started d') wraps visited
          refine abreast.step apart old old' rfl rfl rfl rfl divides.toTwin fun _ => ?_
          exact divides.spelledAlike (mirrors_file_annotateFile _ fresh waits.wellFormed)
            divides.components.tag

end Abreast

section All
variable {tag : String} {attributes : Attributes} (ready : l.Ready)
  (here : ∀ p file, (p == path) = true → l.files.find? p = some file → d'.WellFormed ∧
    file.document.Wraps ρ n inner tag attributes condition d' ∧
    n ∈ file.document.visited file.document.bodyForest)
include ready here

theorem Abreast.each (distinct : todo.Pairwise fun p q => (p == q) = false)
    (abreast : Abreast n inner condition path ρ d' l todo w w') :
    (w'.each Workspace.annotate todo).2 = (w.each Workspace.annotate todo).2 ∧
      Abreast n inner condition path ρ d' l [] (w.each Workspace.annotate todo).1
        (w'.each Workspace.annotate todo).1 := by
  induction todo generalizing w w' with
  | nil => exact ⟨rfl, abreast⟩
  | cons p todo ih =>
      obtain ⟨apart, distinct⟩ := List.pairwise_cons.1 distinct
      obtain ⟨reports, next⟩ := abreast.annotate ready apart fun file => here p file
      obtain ⟨more, last⟩ := ih distinct next
      refine ⟨?_, last⟩
      rw [Workspace.each, Workspace.each]
      dsimp only
      rw [reports, more]

/-- Annotating all files tells the same in both spellings. -/
theorem annotateAll_respelled : (l.respelled path ρ d').annotateAll.2 = l.annotateAll.2 ∧
    Abreast n inner condition path ρ d' l [] l.annotateAll.1
      (l.respelled path ρ d').annotateAll.1 := by
  have keys : (l.respelled path ρ d').files.keys = l.files.keys := OrderedMap.keys_modify ..
  have distinct : l.files.keys.Pairwise fun p q => (p == q) = false :=
    List.pairwise_map.2 ready.distinct
  rw [annotateAll, annotateAll, keys]
  refine Abreast.each ready here distinct
    { settings := ⟨rfl, rfl⟩
      counter := rfl
      twin := l.components.twin_relocate path ρ
      agrees := .refl _
      agrees' := .refl _
      files := fun p _ => ⟨rfl, rfl⟩
      done := fun others file found => ?_ }
  obtain ⟨entry, member, same, -⟩ := exists_entry_of_find? found
  have other := others entry.1 (List.mem_map_of_mem member)
  cases same.symm.trans other

end All

/-- An element with a condition of its own, which every pass over the source comes to, is annotated
like the element without directives in a template that has the condition. The runs report the same
and draw the same numbers. -/
theorem spelledAlike_run (settings : Settings) (scripts : OrderedMap Path CodeUnit)
    {before after : List Source} {source : Source} {tag : String} {attributes : Attributes}
    (wellFormed : ∀ other ∈ before ++ source :: after, other.document.WellFormed)
    (wellFormed' : d'.WellFormed)
    (others : ∀ other ∈ before ++ after, (other.path == source.path) = false)
    (wraps : source.document.Wraps ρ n inner tag attributes condition d')
    (visited : n ∈ source.document.visited source.document.bodyForest) :
    let w := ({ settings, scripts } : Workspace).run (before ++ source :: after)
    let w' := ({ settings, scripts } : Workspace).run
      (before ++ { source with document := d' } :: after)
    w'.2 = w.2 ∧ w'.1.counter = w.1.counter ∧ ∃ file file',
      w.1.files.find? source.path = some file ∧ w'.1.files.find? source.path = some file' ∧
      file.SpelledAlike n inner condition w.1.components w'.1.components file' := by
  have known : source.document.WellFormed :=
    wellFormed source (List.mem_append_right _ List.mem_cons_self)
  have ready := ready_linkAll settings scripts wellFormed
  have start : ({ settings, scripts } : Workspace).respelled source.path ρ d' =
      { settings, scripts } := by
    rw [respelled, ComponentTable.relocate, Array.map_empty]
    rfl
  have declared := declareAll_respelled (w := { settings, scripts }) others wraps known wellFormed'
  rw [start] at declared
  have unlinked := (unlinked_declareAll settings scripts (before ++ source :: after)).1
  have found : ∃ file, (({ settings, scripts } : Workspace).declareAll
      (before ++ source :: after)).1.linkAll.1.files.find? source.path = some file ∧
        file.document = source.document := by
    have listed : ∃ root first, (({ settings, scripts } : Workspace).declareAll
        (before ++ source :: after)).1.files.find? source.path = some (source.file root first) := by
      rw [declareAll_append, declareAll_cons, find?_declareAll fun other member =>
        others other (List.mem_append_right _ member), declare_fst]
      dsimp only
      rw [OrderedMap.find?_insert, if_pos BEq.rfl]
      exact ⟨_, _, rfl⟩
    obtain ⟨root, first, listed⟩ := listed
    exact ⟨_, unlinked.find?_linkAll listed, rfl⟩
  have here (p : Path) (file : SourceFile) (same : (p == source.path) = true)
      (listed : (({ settings, scripts } : Workspace).declareAll
        (before ++ source :: after)).1.linkAll.1.files.find? p = some file) : d'.WellFormed ∧
      file.document.Wraps ρ n inner tag attributes condition d' ∧
      n ∈ file.document.visited file.document.bodyForest := by
    obtain ⟨held, isHeld, document⟩ := found
    rw [OrderedMap.find?_eq_of_beq _ same, isHeld] at listed
    rw [← Option.some.inj listed, document]
    exact ⟨wellFormed', wraps, visited⟩
  obtain ⟨file, isFile, -⟩ := found
  dsimp only [run]
  rw [declared]
  dsimp only
  rw [linkAll_respelled]
  dsimp only
  obtain ⟨reports, abreast⟩ := annotateAll_respelled ready here
  refine ⟨by rw [reports], abreast.counter, ?_⟩
  exact abreast.done (fun p impossible => by cases impossible) file isFile

/-! ## A single paragraph -/

/-- `<body><template if="c"><p class="{{x}} a"> hi {{y}}</p></template></body>`. -/
def templatedParagraph : Document where
  nodes := #[
    { data := .document, children := [1] },
    { data := .element "body" {}, parent := some 0, children := [2] },
    { data := .element "template" ⟨[("if", "c")]⟩, parent := some 1, children := [3] },
    { data := .element "p" ⟨[("class", "{{x}} a")]⟩, parent := some 2,
      children := [4] },
    { data := .text " hi {{y}}", parent := some 3 }]

theorem wraps_optInParagraph : optInParagraph.Wraps (fun m => if m < 3 then m else m + 1) 2 3 "p"
    ⟨[("template", ""), ("if", "c"), ("class", "{{x}} a")]⟩ "c" templatedParagraph where
  injective := by
    have gap : Function.Injective fun m : Nat => if m < 3 then m else m + 1 := by
      intro m m' same
      dsimp only at same
      split at same <;> split at same <;> omega
    exact gap
  fresh := fun (m : Nat) (same : (if m < 3 then m else m + 1) = 3) => by
    split at same <;> omega
  nested := by decide
  root := by decide
  others m inside other := by
    match m with
    | 0 | 1 | 3 => exact ⟨⟨rfl, rfl⟩, rfl⟩
    | 2 => cases other rfl
    | m + 4 => exact absurd inside (Nat.not_lt_of_le (Nat.le_add_left 4 m))
  parents := by decide
  element := rfl
  plain := by decide
  optsIn := by decide
  conditional := by decide
  single := by decide
  apart above isAbove := by
    obtain rfl := Option.some.inj isAbove
    decide
  host := ⟨⟨[("if", "c")]⟩, rfl, by decide⟩
  content := rfl
  positions := ⟨rfl, rfl⟩
  inside := ⟨rfl, rfl⟩

theorem spelledAlike_run_optInParagraph :
    let source : Source := { path := ⟨"a.html"⟩, document := optInParagraph }
    let w := ({} : Workspace).run [source]
    let w' := ({} : Workspace).run [{ source with document := templatedParagraph }]
    optInParagraph.WellFormed ∧ templatedParagraph.WellFormed ∧
    2 ∈ optInParagraph.visited optInParagraph.bodyForest ∧
    w'.2 = w.2 ∧ w'.1.counter = w.1.counter ∧ ∃ file file',
      w.1.files.find? source.path = some file ∧ w'.1.files.find? source.path = some file' ∧
      file.SpelledAlike 2 3 "c" w.1.components w'.1.components file' := by
  have checked : optInParagraph.Checked fun n => n := by decide
  have checked' : templatedParagraph.Checked fun n => n := by decide
  have wellFormed := Document.WellFormed.of_checked checked
  have wellFormed' := Document.WellFormed.of_checked checked'
  have visited : 2 ∈ optInParagraph.visited optInParagraph.bodyForest := by decide
  have single : ∀ other ∈ [] ++ ({ path := ⟨"a.html"⟩, document := optInParagraph } : Source) :: [],
      other.document.WellFormed := by
    intro other member
    rw [List.mem_singleton.1 member]
    exact wellFormed
  exact ⟨wellFormed, wellFormed', visited, spelledAlike_run {} {} single wellFormed'
    (fun other impossible => by cases impossible) wraps_optInParagraph visited⟩

end Workspace
end ComponentMarkup
