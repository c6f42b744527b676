import ComponentMarkup.Proofs.Annotated.Conserved
import ComponentMarkup.Proofs.Annotated.Entering
import ComponentMarkup.Proofs.Annotated.Given
import ComponentMarkup.Proofs.Annotated.Mirror
import ComponentMarkup.Proofs.Annotated.Stepwise
import ComponentMarkup.Proofs.Annotated.WrittenBack

/-!
What becomes of the handlers on elements. Events run the code of those in `on-` and the assignments of
native two-way attributes, each where its attribute stands. Those of the browser are left where they
are, and a pass reports them in the order in which the elements were annotated, and no others.
-/

namespace ComponentMarkup

/-! ## What is reported -/

/-- The attributes that are handlers of the browser. -/
def nativesOf (attributes : Attributes) : List (String × String) :=
  attributes.entries.filter fun entry => isNativeName entry.1

section Attributes
variable {attributes : Attributes} {name value : String}

theorem nativeNotes_nativesOf (path : Path) (position : Position) (attributes : Attributes) :
    nativeNotes path position (nativesOf attributes) =
      nativeNotes path position attributes.entries := by
  simp only [nativeNotes, nativesOf, List.filter_filter, Bool.and_self]

theorem nativesOf_insert (other : isNativeName name = false) (value : String) :
    nativesOf (attributes.insert name value) = nativesOf attributes := by
  rw [nativesOf, OrderedMap.insert, OrderedMap.filter_write, other, if_neg Bool.false_ne_true,
    nativesOf]

theorem nativesOf_erase (other : isNativeName name = false) :
    nativesOf (attributes.erase name) = nativesOf attributes := by
  rw [nativesOf, OrderedMap.erase, List.filter_filter, nativesOf]
  refine List.filter_congr fun entry _ => ?_
  by_cases same : entry.1 = name
  · rw [same, other, Bool.false_and]
  · rw [beq_eq_false_iff_ne.2 same, Bool.not_false, Bool.and_true]

theorem nativesOf_setClasses (value : String) :
    nativesOf (Pass.setClasses value attributes) = nativesOf attributes := by
  have other : isNativeName "class" = false := by decide
  unfold Pass.setClasses
  dsimp only
  split
  · rfl
  · split
    · exact nativesOf_erase other
    · exact nativesOf_insert other _

theorem nativesOf_attributesRead (attributes : Attributes) :
    nativesOf (Pass.attributesRead attributes) = nativesOf attributes :=
  Pass.apply_attributesRead nativesOf (fun value _ => nativesOf_setClasses value) attributes

end Attributes

/-- The tag of an element and its handlers of the browser. -/
def Document.natives? (d : Document) (node : NodeId) : Option (String × List (String × String)) :=
  match d.data? node with
  | some (.element tag attributes) => some (tag, nativesOf attributes)
  | _ => none

namespace Document
variable {d d' : Document} {node n : NodeId}

theorem natives?_congr (same : d'.data? n = d.data? n) : d'.natives? n = d.natives? n := by
  rw [natives?, same, natives?]

theorem natives?_eq {tag : String} {attributes : Attributes}
    (data : d.data? node = some (.element tag attributes)) :
    d.natives? node = some (tag, nativesOf attributes) := by
  rw [natives?, data]

theorem natives?_mapAttributes {f : Attributes → Attributes}
    (same : ∀ attributes, nativesOf (f attributes) = nativesOf attributes) :
    (d.mapAttributes node f).natives? = d.natives? := by
  funext n
  rw [natives?, data?_mapAttributes, natives?]
  by_cases here : node = n
  · rw [if_pos here]
    cases d.data? n with
    | none => rfl
    | some data =>
        cases data with
        | element tag attributes => simp only [Option.map_some, same]
        | _ => rfl
  · rw [if_neg here]

end Document

/-- What is to be reported about the handlers of the browser on the element of an annotation. -/
def AnnotatedNode.notes (d : Document) (path : Path) (a : AnnotatedNode) : Diagnostics :=
  match d.natives? a.source with
  | some (tag, handlers) =>
      if !a.isText && Pass.readsAttributes tag a.directive? then
        nativeNotes path (d.position a.source) handlers
      else []
  | none => []

namespace AnnotatedNode
variable {a a' : AnnotatedNode} {d d' : Document} {path : Path}

theorem notes_of_isText (text : a.isText = true) : a.notes d path = [] := by
  rw [notes]
  split
  · rw [text, Bool.not_true, Bool.false_and, if_neg Bool.false_ne_true]
  · rfl

theorem notes_of_unread (unread : ∀ tag, Pass.readsAttributes tag a.directive? = false) :
    a.notes d path = [] := by
  rw [notes]
  split
  · rw [unread, Bool.and_false, if_neg Bool.false_ne_true]
  · rfl

theorem notes_of_core (core : a'.core = a.core) (handlers : d'.natives? a.source = d.natives? a.source)
    (position : d'.position a.source = d.position a.source) : a'.notes d' path = a.notes d path := by
  rw [notes, notes, source_of_core core, isText_of_core core, directive?_of_core core, handlers,
    position]

end AnnotatedNode

namespace Pass
variable {s t u : Pass} {id : AnnotatedId} {node : NodeId} {tag : String} {attributes : Attributes}
  {around : Surroundings} {parent : Option AnnotatedId} {entry : Entry} {F : Forest}

def notesAt (s : Pass) (id : AnnotatedId) : Diagnostics :=
  (s.annotations.get? id).elim [] (·.notes s.document s.file.path)

/-- What is to be reported about the annotations from `first` on. -/
def notesFrom (s : Pass) (first : AnnotatedId) : Diagnostics :=
  (List.range' first (s.annotations.nodes.size - first)).flatMap s.notesAt

/-- From `s` to `t` the handlers of the browser were reported that the new annotations have. -/
def Notes (s t : Pass) : Prop := t.natives = s.natives ++ t.notesFrom s.annotations.nodes.size

theorem notesAt_eq {a : AnnotatedNode} (found : s.annotations.get? id = some a) :
    s.notesAt id = a.notes s.document s.file.path := by
  rw [notesAt, found]
  rfl

theorem Notes.of_texts (natives : t.natives = s.natives)
    (texts : ∀ id a, s.annotations.nodes.size ≤ id → t.annotations.get? id = some a →
      a.isText = true) : Notes s t := by
  have none : t.notesFrom s.annotations.nodes.size = [] := by
    refine List.flatMap_eq_nil_iff.2 fun id member => ?_
    rw [notesAt]
    cases found : t.annotations.get? id with
    | none => rfl
    | some a => exact AnnotatedNode.notes_of_isText (texts id a (List.mem_range'_1.1 member).1 found)
  rw [Notes, none, List.append_nil, natives]

/-- Where nothing is annotated, nothing is reported. -/
theorem Notes.of_same (natives : t.natives = s.natives)
    (size : t.annotations.nodes.size = s.annotations.nodes.size) : Notes s t :=
  .of_texts natives fun _ _ isNew found =>
    absurd (AnnotatedTree.lt_size_of_get? found) (Nat.not_lt_of_ge (size ▸ isNew))

theorem Notes.trans (first : Notes s t) (second : Notes t u)
    (size : s.annotations.nodes.size ≤ t.annotations.nodes.size)
    (grows : t.annotations.Grows parent F u.annotations) (path : u.file.path = t.file.path)
    (kept : KeepsSources s t u) : Notes s u := by
  have whole : u.notesFrom s.annotations.nodes.size =
      t.notesFrom s.annotations.nodes.size ++ u.notesFrom t.annotations.nodes.size := by
    rw [notesFrom, ← AnnotatedTree.range'_sub_append size grows.size, List.flatMap_append]
    refine congrArg (· ++ _) (List.flatMap_congr fun id member => ?_)
    obtain ⟨isNew, inside⟩ := List.mem_range'_1.1 member
    rw [Nat.add_sub_of_le size] at inside
    obtain ⟨a, found⟩ := AnnotatedTree.get?_isSome inside
    obtain ⟨a', found', core⟩ := grows.core found
    rw [notesAt_eq found, notesAt_eq found', path]
    cases text : a.isText with
    | true =>
        rw [AnnotatedNode.notes_of_isText text,
          AnnotatedNode.notes_of_isText ((AnnotatedNode.isText_of_core core).trans text)]
    | false =>
        have same := kept id a isNew found text
        exact AnnotatedNode.notes_of_core core
          (Document.natives?_congr (Document.data?_congr same))
          (by rw [Document.position, same, Document.position])
  rw [Notes, second, first, whole, List.append_assoc]

/-! ## Numbering -/

theorem notesAt_identify (s : Pass) (id : AnnotatedId) : (s.identify id).notesAt = s.notesAt := by
  have documents : (s.identify id).document.natives? = s.document.natives? ∧
      (s.identify id).document.position = s.document.position := by
    rcases document_identify_or s id with same | ⟨node, value, written⟩
    · rw [same]
      exact ⟨rfl, rfl⟩
    · rw [written]
      exact ⟨Document.natives?_mapAttributes fun _ => nativesOf_insert (by decide) _,
        funext fun n => Document.position_mapAttributes _ _ _ _⟩
  funext n
  have blind := apply_get?_identify
    (·.elim [] (AnnotatedNode.notes s.document s.file.path)) (fun _ _ _ => rfl) s id n
  unfold notesAt
  rw [← blind, path_of_basis (keeps_identify s id).basis]
  congr 1
  funext a
  rw [AnnotatedNode.notes, documents.1, documents.2, AnnotatedNode.notes]

theorem Notes.identify (notes : Notes s t) (id : AnnotatedId) : Notes s (t.identify id) := by
  rw [Notes, natives, reports_identify, notesFrom, notesAt_identify, size_identify]
  exact notes

/-! ## Elements -/

theorem ReadAs.keeps {reads : Bool} (read : ReadAs node s t reads) :
    t.document.natives? = s.document.natives? ∧ t.document.position = s.document.position ∧
      t.file.path = s.file.path := by
  cases read with
  | unread begun => rw [begun.document, begun.path]; exact ⟨rfl, rfl, rfl⟩
  | @read start begun ends =>
      have edits : Edits s.annotations.nodes.size node start
          (start.bindAttributes s.annotations.nodes.size node) := Edits.refl.bindAttributes
      have unstripped : start.isStripped s.annotations.nodes.size "class" = false := by
        rw [Bool.eq_false_iff]
        exact fun stripped => absurd (begun.steering "class" stripped) (by decide)
      rw [ends.document, ends.path, path_of_edits edits, begun.path,
        document_bindAttributes unstripped, begun.document]
      exact ⟨Document.natives?_mapAttributes nativesOf_attributesRead,
        funext fun n => Document.position_mapAttributes _ _ _ _, rfl⟩

/-- Of an element that is read the handlers of the browser are reported. -/
theorem ReadAs.natives {reads : Bool} (read : ReadAs node s t reads)
    (data : s.document.data? node = some (.element tag attributes)) :
    t.natives = s.natives ++ if reads then
      nativeNotes s.file.path (s.document.position node) (nativesOf attributes) else [] := by
  cases read with
  | unread begun => rw [begun.natives, if_neg Bool.false_ne_true, List.append_nil]
  | @read start begun ends =>
      have present : start.document.attributes? node = some attributes := by
        rw [begun.document, Document.attributes?, data]
      rw [ends.natives, natives_bindAttributes (.of_steering begun.steering) present, begun.natives,
        begun.path, begun.document, if_pos rfl, nativeNotes_nativesOf]

theorem notesAt_of_leaf {a : AnnotatedNode} {directive : Option Directive} {builds : Bool}
    (found : t.annotations.get? id = some a) (leaf : a.IsLeaf parent node directive builds)
    (handlers : t.document.natives? node = some (tag, nativesOf attributes)) :
    t.notesAt id = if readsAttributes tag directive then
      nativeNotes t.file.path (t.document.position node) (nativesOf attributes) else [] := by
  rw [notesAt_eq found, AnnotatedNode.notes, leaf.source, handlers, leaf.isText, leaf.directive?]
  rfl

theorem Introduces.notes (introduces : Introduces parent node tag s t)
    (data : s.document.data? node = some (.element tag attributes)) : Notes s t := by
  have element : s.document.tag? node = some tag := Document.tag?_eq_some.2 ⟨_, data⟩
  cases introduces with
  | whole enters read =>
      obtain ⟨a, here, leaf⟩ := enters.tree.here
      obtain ⟨handlers, position, path⟩ := read.keeps
      have noted := notesAt_of_leaf here leaf
        ((congrFun handlers node).trans (Document.natives?_eq data))
      rw [Notes, notesFrom, enters.size, Nat.add_sub_cancel_left, List.range'_one,
        List.flatMap_singleton, noted, read.natives data, position, path]
  | @split host condition hosts begun content read =>
      have last : (host.mapDocument fun _ => (splitContent s.document node).2).annotations.nodes.size =
          s.annotations.nodes.size + 1 := by
        rw [annotations_mapDocument]
        exact hosts.size
      rw [fst_splitContent element] at content read
      have data' : (host.mapDocument fun _ => (splitContent s.document node).2).document.data?
          s.document.size = some (.element tag (withoutDirectives attributes)) :=
        data?_splitContent_made data
      obtain ⟨handlers, position, path⟩ := read.keeps
      obtain ⟨b, here, leaf⟩ := content.tree.here
      have noted := notesAt_of_leaf here leaf
        ((congrFun handlers _).trans (Document.natives?_eq data'))
      obtain ⟨h, hosted, hostLeaf⟩ := hosts.tree.here
      obtain ⟨h', hosted', core⟩ := content.exists_core hosted
      have directive : h'.directive? = some (.conditional condition) :=
        (AnnotatedNode.directive?_of_core core).trans hostLeaf.directive?
      have silent : t.notesAt s.annotations.nodes.size = [] := by
        rw [notesAt_eq hosted', AnnotatedNode.notes_of_unread fun tag => by rw [directive]; rfl]
      have size : t.annotations.nodes.size - s.annotations.nodes.size = 2 := by
        rw [content.size, last, Nat.add_assoc, Nat.add_sub_cancel_left]
      have two : List.range' s.annotations.nodes.size 2 =
          [s.annotations.nodes.size, s.annotations.nodes.size + 1] := rfl
      rw [last] at noted
      rw [Notes, notesFrom, size, two, List.flatMap_cons, List.flatMap_singleton, silent,
        List.nil_append, noted, read.natives data', position, path, natives_mapDocument, begun.natives]
      rfl

theorem notes_enter (valid : ∀ q ∈ around.parent, q < s.annotations.nodes.size)
    (data : s.document.data? node = some (.element tag attributes))
    (found : s.enter around node tag = (t, some entry)) : Notes s t := by
  obtain ⟨reports, natives, introduces⟩ := introduces_of_enter valid found
  have notes := introduces.notes data
  rwa [Notes, natives] at notes

theorem natives_of_left (left : (s.enter around node tag).2 = none) :
    (s.enter around node tag).1.natives = s.natives := by
  unfold enter at left ⊢
  split at left
  · next script =>
    rw [if_pos script]
  · next other =>
    rw [if_neg other]
    dsimp only at left ⊢
    split at left
    · exact natives_foldl_report node (fun _ member => Plan.isNative_of_read member) s
    all_goals cases left

/-! ## Walks -/

theorem stepwise_notes : Stepwise Notes where
  refl s := .of_same rfl rfl
  text {s around} node contents valid := by
    have natives : (s.visitText around node contents).natives = s.natives :=
      congrArg Diagnostics.natives (reports_visitText s around node contents)
    exact .of_texts natives fun id a isNew found =>
      ((shows_visitText s around node contents valid).new id a isNew found).isText
  left {s around node tag} made := by
    obtain ⟨reports, same⟩ := enter_eq_none (Prod.ext rfl made :
      s.enter around node tag = ((s.enter around node tag).1, none))
    refine .of_same (natives_of_left made) ?_
    rw [same]
    rfl
  enter := notes_enter
  identify id notes := notes.identify id
  trans first second size grows basis kept := first.trans second size grows (path_of_basis basis) kept

/-- A walk reports the handlers of the browser on the elements that it annotates. -/
theorem notes_visitForest {f : Forest} (walkable : Walkable around.parent f s) :
    Notes s (s.visitForest f around) :=
  stepwise_notes.visitForest walkable

end Pass

/-! ## What events run -/

namespace Bearer
variable {e : Bearer} {name value : String}

/-- What an attribute contributes to the handlers of its element. -/
inductive Contributes (e : Bearer) (name value : String) : List Binding.Handler → Prop
  | code (handler : Text.startsWith name "on-" = true) :
      Contributes e name value
        [{ event := Text.camelCased name, action := .inline (Text.trimmed value) }]
  | property {property event : String} (other : Text.startsWith name "on" = false)
      (installs : e.InstallsProperty name property event)
      (events : event = changeEvent ∨ event = inputEvent) :
      Contributes e name value [{ event, action := .assignProperty (Text.trimmed value) property }]
  | choice {static : String} (other : Text.startsWith name "on" = false)
      (installs : e.InstallsChoice name static) :
      Contributes e name value
        [{ event := changeEvent, action := .assignLiteral (Text.trimmed value) static }]
  | nothing (silent : Text.startsWith name "on-" = false) (uninstalled : e.native? name = none) :
      Contributes e name value []

theorem installsChoice_of_takesChecked {property : String}
    (chosen : e.twoWay? name = some (property, .radioValue)) (first : e.takesChecked name = true) :
    ∃ static, e.InstallsChoice name static := by
  have taken := first
  rw [takesChecked] at taken
  cases found : e.attributes.entries.find? fun entry => e.asksChecked entry.1 entry.2 with
  | none =>
      rw [found] at taken
      cases taken
  | some entry =>
      rw [found, Option.any_some, beq_iff_eq] at taken
      have asks : e.asksChecked entry.1 entry.2 = true := by simpa using List.find?_some found
      rw [taken, (of_radioValue entry.2 chosen).2.2.1, OrderedMap.contains,
        Option.isSome_iff_exists] at asks
      obtain ⟨static, held⟩ := asks
      exact ⟨static, ⟨property, chosen⟩, first, held⟩

/-- Every attribute contributes what it lets run. -/
theorem contributes_runs (e : Bearer) (name value : String) :
    e.Contributes name value (e.runs name value) := by
  cases handler : Text.startsWith name "on-" with
  | true =>
      rw [runs, handler, if_pos rfl]
      exact .code handler
  | false =>
      cases native : e.native? name with
      | none =>
          rw [runs_eq_nil handler native]
          exact .nothing handler native
      | some key =>
          have other : Text.startsWith name "on" = false := by
            cases twoWay : Text.after? "bind-" name with
            | none =>
                rw [native?_eq_none (twoWay?_eq_none twoWay)] at native
                cases native
            | some hyphenated => exact (of_after twoWay).2.1
          unfold native? at native
          split at native
          · next property event chosen =>
            rw [(of_native value chosen).2.2.2]
            obtain ⟨hyphenated, -, same⟩ := Option.map_eq_some_iff.1 chosen
            exact .property other (.inl chosen) (TwoWay.event_of_native (Prod.mk.inj same).2)
          · next property chosen =>
            obtain ⟨first, -⟩ := Option.ite_none_right_eq_some.1 native
            rw [(of_radioChecked value chosen).2.2.2, if_pos first]
            exact .property other (.inr ⟨chosen, rfl, first⟩) (.inl rfl)
          · next property chosen =>
            obtain ⟨first, -⟩ := Option.ite_none_right_eq_some.1 native
            obtain ⟨static, installs⟩ := installsChoice_of_takesChecked chosen first
            rw [installs.runs value]
            exact .choice other installs
          · cases native

/-- A literal is assigned where a choice is installed, and nowhere else. -/
theorem installsChoice_of_assigns {event target literal : String}
    (assigns : { event, action := .assignLiteral target literal } ∈ e.runs name value) :
    event = changeEvent ∧ target = Text.trimmed value ∧ e.InstallsChoice name literal := by
  have contributes := e.contributes_runs name value
  generalize e.runs name value = handlers at *
  cases contributes with
  | code | property => simp at assigns
  | nothing => cases assigns
  | choice _ installs =>
      obtain ⟨rfl, rfl, rfl⟩ : event = changeEvent ∧ target = Text.trimmed value ∧ literal = _ := by
        simpa using assigns
      exact ⟨rfl, rfl, installs⟩

/-- Of the attributes in `on`, entering an element strips those in `on-`. -/
theorem strips_of_event (member : (name, value) ∈ e.attributes.entries)
    (event : Text.startsWith name "on" = true) (repeats : Bool) :
    e.strips repeats name = Text.startsWith name "on-" := by
  have apart (other : String) (directive : other ∈ directiveNames) : (name == other) = false := by
    rw [beq_eq_false_iff_ne]
    rintro rfl
    exact nomatch event.symm.trans (silent_of_directive name directive)
  rw [strips, apart "iterate" (by decide), apart "template" (by decide),
    apart "indentation" (by decide)]
  simp only [Bool.false_and, Bool.or_false, Bool.and_false, Bool.false_or]
  cases handler : Text.startsWith name "on-" with
  | true =>
      refine List.any_eq_true.2 ⟨_, member, ?_⟩
      rw [takes, takesOff, handler, beq_self_eq_true]
      rfl
  | false =>
      have native : isNativeName name = true := by rw [isNativeName, event, handler]; rfl
      rw [List.any_eq_false]
      intro entry _
      rw [takes_of_isNativeName native]
      exact Bool.false_ne_true

end Bearer

/-! ## Annotations -/

/-- The handlers of the annotation are what the attributes of `e` contribute, in their order, and of
the attributes in `on` it is stripped of those in `on-`. -/
structure AnnotatedNode.Handles (e : Bearer) (a : AnnotatedNode) : Prop where
  handled : ∀ event, a.handlersOf event =
    (e.attributes.entries.flatMap fun entry => e.runs entry.1 entry.2).filter (·.event == event)
  contributes : ∀ entry ∈ e.attributes.entries,
    e.Contributes entry.1 entry.2 (e.runs entry.1 entry.2)
  stripped : ∀ entry ∈ e.attributes.entries, Text.startsWith entry.1 "on" = true →
    a.stripped.contains entry.1 = Text.startsWith entry.1 "on-"

theorem AnnotatedNode.IsRead.handles {e : Bearer} {a : AnnotatedNode} (read : a.IsRead e) :
    a.Handles e where
  handled := read.handled
  contributes entry _ := e.contributes_runs entry.1 entry.2
  stripped entry member event := by
    rw [read.stripped, Bearer.strips_of_event member event]

/-- What became of the handlers on the element of an annotation, and which of them were reported to be
left to the browser. Texts, hosts of conditions and templates that are repeated have none. -/
inductive SourceFile.Handles (before : Document) (file : SourceFile) (a : AnnotatedNode) :
    Diagnostics → Prop
  | text (isText : a.isText = true) : Handles before file a []
  | unread {tag : String} {attributes : Attributes}
      (given : file.Gives before a.source tag attributes)
      (unread : Pass.readsAttributes tag a.directive? = false) : Handles before file a []
  | read {tag : String} {attributes : Attributes}
      (given : file.Gives before a.source tag attributes)
      (reads : Pass.readsAttributes tag a.directive? = true)
      (handles : a.Handles ⟨tag, attributes, a.component?.isSome⟩) :
      Handles before file a
        (nativeNotes file.path (file.document.position a.source) attributes.entries)

/-! ## Files -/

variable {s : Pass}

theorem nativesOf_classesRead (attributes : Attributes) :
    nativesOf (Pass.classesRead attributes) = nativesOf attributes := by
  unfold Pass.classesRead
  split
  · exact nativesOf_setClasses _
  · rfl

theorem nativesOf_identified (t : AnnotatedTree) (id : AnnotatedId) (a : AnnotatedNode)
    (attributes : Attributes) : nativesOf (t.identified id a attributes) = nativesOf attributes := by
  unfold AnnotatedTree.identified
  split
  · split
    · exact nativesOf_insert (by decide) _
    · rfl
  · rfl

/-- A pass reports the handlers of the browser in the order of the annotations. -/
theorem natives_annotateFile (keepBlanks : Bool) (fresh : s.annotations = {})
    (wellFormed : s.document.WellFormed) :
    (annotateFile keepBlanks s).natives = s.natives ++
      (List.range (annotateFile keepBlanks s).annotations.nodes.size).flatMap
        (annotateFile keepBlanks s).notesAt := by
  have notes : Pass.Notes s (s.visitForest s.document.bodyForest { keepBlanks }) :=
    Pass.notes_visitForest (walkable_bodyForest fresh wellFormed)
  rw [← annotateFile_eq, Pass.Notes, Pass.notesFrom, fresh] at notes
  rw [notes, List.range_eq_range']
  rfl

theorem handles_annotateFile (keepBlanks : Bool) (fresh : s.annotations = {})
    (wellFormed : s.document.WellFormed) (distinct : s.document.NamesAttributesOnce)
    {id : AnnotatedId} {a : AnnotatedNode}
    (found : (annotateFile keepBlanks s).annotations.get? id = some a) :
    (annotateFile keepBlanks s).file.Handles s.document a ((annotateFile keepBlanks s).notesAt id) := by
  rw [Pass.notesAt_eq found]
  cases text : a.isText with
  | true =>
      rw [AnnotatedNode.notes_of_isText text]
      exact .text text
  | false =>
      obtain ⟨tag, attributes, given, tagged, read⟩ :=
        read_annotateFile keepBlanks fresh wellFormed distinct found text
      generalize annotateFile keepBlanks s = t at *
      obtain ⟨left, data⟩ := Document.tag?_eq_some.1 tagged
      rw [AnnotatedNode.notes, Document.natives?_eq data, text]
      dsimp only
      cases reads : Pass.readsAttributes tag a.directive? with
      | false => exact .unread given reads
      | true =>
          obtain ⟨-, isRead, data'⟩ := read reads
          obtain ⟨-, rfl⟩ := NodeData.element.inj (Option.some.inj (data.symm.trans data'))
          have noted := nativeNotes_nativesOf t.file.path (t.document.position a.source) attributes
          rw [nativesOf_identified, nativesOf_classesRead, noted]
          exact .read given reads isRead.handles

end ComponentMarkup
