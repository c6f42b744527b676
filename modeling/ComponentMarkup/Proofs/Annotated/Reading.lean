import ComponentMarkup.Proofs.Annotated.Visit
import ComponentMarkup.Proofs.Document.Carried

/-!
What entering an element reads off it and writes back: how the text below it treats blanks, and the
classes that are left of a bound class list.
-/

namespace ComponentMarkup

/-- Whether text below the node keeps its blanks: an `indentation` decides unless there is none. -/
def Document.keepsBlanks (d : Document) (node : NodeId) (inherited : Bool) : Bool :=
  match d.attribute? node "indentation" with
  | none => inherited
  | some value => value != "remove"

/-- The attributes that a bound class list leaves, which are those with its static words. -/
def Pass.setClasses (value : String) (attributes : Attributes) : Attributes :=
  let segments := Binding.scan value
  if segments.bound.isEmpty then attributes
  else if (Pass.staticClasses segments).isEmpty then attributes.erase "class"
  else attributes.insert "class" (" ".intercalate (Pass.staticClasses segments))

/-- The attributes of an element when they have all been read. -/
def Pass.attributesRead (attributes : Attributes) : Attributes :=
  attributes.entries.foldl
    (fun left entry => if entry.1 = "class" then Pass.setClasses entry.2 left else left) attributes

theorem Pass.find?_setClasses_of_ne {name : String} (other : name ≠ "class") (value : String)
    (attributes : Attributes) :
    (Pass.setClasses value attributes).find? name = attributes.find? name := by
  unfold Pass.setClasses
  dsimp only
  split
  · rfl
  · split
    · exact OrderedMap.find?_erase_of_ne _ (Ne.symm other)
    · exact OrderedMap.find?_insert_of_ne _ _ (Ne.symm other)

/-- What setting the classes leaves is left when all attributes have been read. -/
theorem Pass.apply_attributesRead {α : Type} (g : Attributes → α)
    (blind : ∀ value attributes, g (Pass.setClasses value attributes) = g attributes)
    (attributes : Attributes) : g (Pass.attributesRead attributes) = g attributes := by
  have fold (entries : List (String × String)) (left : Attributes) :
      g (entries.foldl (fun left entry => if entry.1 = "class" then Pass.setClasses entry.2 left
        else left) left) = g left := by
    induction entries generalizing left with
    | nil => rfl
    | cons entry rest ih =>
        rw [List.foldl_cons, ih]
        split
        · exact blind entry.2 left
        · rfl
  exact fold attributes.entries attributes

theorem Pass.find?_attributesRead_of_ne {name : String} (other : name ≠ "class")
    (attributes : Attributes) :
    (Pass.attributesRead attributes).find? name = attributes.find? name :=
  Pass.apply_attributesRead (OrderedMap.find? · name) (Pass.find?_setClasses_of_ne other) attributes

namespace Document
variable {d d' : Document} {node n : NodeId}

theorem keepsBlanks_congr (same : d'.attribute? node "indentation" = d.attribute? node "indentation")
    (inherited : Bool) : d'.keepsBlanks node inherited = d.keepsBlanks node inherited := by
  rw [keepsBlanks, keepsBlanks, same]

theorem mapAttributes_congr {f g : Attributes → Attributes}
    (same : ∀ attributes ∈ d.attributes? node, f attributes = g attributes) :
    d.mapAttributes node f = d.mapAttributes node g := by
  refine congrArg Document.mk (Array.ext_getElem? fun n => ?_)
  change (d.mapAttributes node f).node? n = (d.mapAttributes node g).node? n
  rw [mapAttributes, mapAttributes, node?_update, node?_update]
  split
  · next here =>
    subst here
    cases found : d.node? node with
    | none => rfl
    | some old =>
        obtain ⟨parent, children, data, position⟩ := old
        cases data with
        | element tag attributes =>
            have held : d.attributes? node = some attributes := by
              rw [attributes?, data?, found]
              rfl
            simp only [Option.map_some, same attributes held]
        | _ => rfl
  · rfl

end Document

theorem TwoWay.lowered_ne_class_of_known {property : String} (known : property ∈ knownProperties) :
    Text.lowered property ≠ "class" := by
  revert property
  decide

namespace Pass
variable {s t : Pass} {id : AnnotatedId} {node : NodeId} {tag : String}

/-! ## Class lists -/

/-- No attribute keeps a class list from being read. -/
theorem isStripped_class_bindAttribute (name value : String) :
    (bindAttribute id node s name value).isStripped id "class" = s.isStripped id "class" := by
  by_cases isClass : name = "class"
  · subst isClass
    have directive : directiveNames.contains "class" = false := by decide
    have event : Text.startsWith "class" "on" = false := by decide
    have twoWay : Text.after? "bind-" "class" = none := by decide
    unfold bindAttribute
    rw [directive, event, twoWay]
    split
    · rfl
    · change (s.bindClass id node value).isStripped id "class" = s.isStripped id "class"
      unfold bindClass
      dsimp only
      split
      · rfl
      · rw [isStripped_bind, isStripped_mapDocument]
  · exact s.isStripped_bindAttribute_of_ne id node isClass (by decide) value

@[simp] theorem document_strip (name : String) : (s.strip id name).document = s.document := rfl

@[simp] theorem document_bind (name : String) (binding : Binding.Attribute) :
    (s.bind id name binding).document = s.document := rfl

@[simp] theorem document_handle (event : String) (action : Binding.Action) :
    (s.handle id event action).document = s.document := rfl

@[simp] theorem document_install (property expr event : String) (action : Binding.Action) :
    (s.install id node property expr event action).document = s.document := by
  rw [install, document_handle, document_bind, shadow]
  split
  · rw [document_strip, document_report]
  · rfl

theorem document_bindTwoWay (name property value : String) :
    (s.bindTwoWay id node name property value).document = s.document := by
  unfold bindTwoWay
  dsimp only
  split
  · rw [document_strip, document_install]
  · split
    · rfl
    · rw [document_strip, document_install]
  · split
    · rfl
    · split
      · rfl
      · rw [document_strip, document_install]
  · rw [document_strip, document_bind]
  · rfl

theorem document_bindClass (value : String) :
    (s.bindClass id node value).document = s.document.mapAttributes node (setClasses value) := by
  unfold bindClass
  dsimp only
  split
  · next unbound =>
    have same : setClasses value = fun attributes => attributes := by
      funext attributes
      exact if_pos unbound
    rw [same, Document.mapAttributes_id]
  · next bound =>
    have same : setClasses value = fun attributes =>
        if (staticClasses (Binding.scan value)).isEmpty then attributes.erase "class"
        else attributes.insert "class" (" ".intercalate (staticClasses (Binding.scan value))) := by
      funext attributes
      exact if_neg bound
    rw [same]
    change (if _ then _ else _ : Document) = _
    split <;> rfl

theorem document_bindAttribute (unstripped : s.isStripped id "class" = false)
    (name value : String) : (bindAttribute id node s name value).document =
      if name = "class" then s.document.mapAttributes node (setClasses value) else s.document := by
  have plain : directiveNames.contains "class" = false := by decide
  have event : Text.startsWith "class" "on" = false := by decide
  have twoWay : Text.after? "bind-" "class" = none := by decide
  by_cases isClass : name = "class"
  · subst isClass
    have read : (s.bindClass id node value).document = s.document.mapAttributes node (setClasses value) :=
      document_bindClass value
    rw [if_pos rfl, ← read]
    unfold bindAttribute
    rw [plain, unstripped, event, twoWay]
    rfl
  · rw [if_neg isClass]
    unfold bindAttribute
    split
    · rfl
    · split
      · unfold bindEvent
        split <;> rfl
      · split
        · exact document_bindTwoWay _ _ _
        · split
          · unfold bindStyle
            dsimp only
            split <;> rfl
          · unfold bindGeneric
            dsimp only
            split
            · split <;> rfl
            · rfl

/-- Of the document, reading the attributes of an element changes its class list. -/
theorem document_bindAttributes (unstripped : s.isStripped id "class" = false) :
    (s.bindAttributes id node).document = s.document.mapAttributes node attributesRead := by
  have fold (entries : List (String × String)) (s : Pass)
      (unstripped : s.isStripped id "class" = false) :
      (entries.foldl (fun s entry => bindAttribute id node s entry.1 entry.2) s).document =
        s.document.mapAttributes node fun attributes => entries.foldl
          (fun left entry => if entry.1 = "class" then setClasses entry.2 left else left)
            attributes := by
    induction entries generalizing s with
    | nil => exact (s.document.mapAttributes_id node).symm
    | cons entry rest ih =>
        obtain ⟨name, value⟩ := entry
        rw [List.foldl_cons, ih _ ((isStripped_class_bindAttribute name value).trans unstripped),
          document_bindAttribute unstripped]
        by_cases isClass : name = "class"
        · simp only [isClass, if_true, List.foldl_cons, Document.mapAttributes_mapAttributes]
          rfl
        · simp only [isClass, if_false, List.foldl_cons]
  unfold bindAttributes
  split
  · next none =>
    refine ((Document.mapAttributes_congr fun attributes held => ?_).trans
      (s.document.mapAttributes_id node)).symm
    rw [none] at held
    cases held
  · next attributes found =>
    rw [fold _ _ unstripped]
    refine Document.mapAttributes_congr fun attributes' held => ?_
    obtain rfl := Option.some.inj (found.symm.trans held)
    rfl

/-! ## Blanks -/

theorem snd_readIndentation (s : Pass) (id : AnnotatedId) (node : NodeId) (inherited : Bool) :
    (s.readIndentation id node inherited).2 = s.document.keepsBlanks node inherited := by
  unfold readIndentation Document.keepsBlanks
  cases s.document.attribute? node "indentation" with
  | none => rfl
  | some value =>
      dsimp only
      split
      · next remove =>
        rw [remove]
        rfl
      · next other =>
        have kept : (value != "remove") = true := by simpa using other
        rw [kept]
        split <;> rfl

theorem keepsBlanks_mapAttributes (d : Document) {f : Attributes → Attributes}
    (others : Document.KeepsOthers "class" f) (n : NodeId) (inherited : Bool) :
    (d.mapAttributes node f).keepsBlanks n inherited = d.keepsBlanks n inherited :=
  Document.keepsBlanks_congr
    (d.attribute?_mapAttributes node n f fun attributes => others attributes _ (by decide)) inherited

/-! ## Entering -/

section Annotate
variable {parent : Option AnnotatedId} (valid : ∀ q ∈ parent, q < s.annotations.nodes.size)
include valid

theorem isStripped_annotate (node : NodeId) (kind : AnnotatedKind) (name : String) :
    (s.annotate node parent kind).2.isStripped s.annotations.nodes.size name = false := by
  rw [isStripped, annotations_annotate, s.annotations.get?_add_self node parent kind valid]
  rfl

end Annotate

section Plain
variable {around : Surroundings} (valid : ∀ q ∈ around.parent, q < s.annotations.nodes.size)
include valid

/-- A plain element has its class list read and its `indentation` followed. -/
theorem enterPlain_reads (node : NodeId) (tag : String) :
    (s.enterPlain around node tag).1.document = s.document.mapAttributes node attributesRead ∧
      (s.enterPlain around node tag).2.inner.keepBlanks =
        s.document.keepsBlanks node around.keepBlanks := by
  unfold enterPlain
  rw [annotate_eq]
  dsimp only
  have unstripped := isStripped_annotate valid node (.element {}) "class"
  have document : (s.annotate node around.parent (.element {})).2.document = s.document := rfl
  generalize (s.annotate node around.parent (.element {})).2 = made at *
  generalize marked_eq : (if tag = "body" || made.isTemplateOf around.owner node then
    made.markRoot s.annotations.nodes.size else made) = marked
  have marks : marked.document = s.document ∧
      marked.isStripped s.annotations.nodes.size "class" = false := by
    subst marked_eq
    split
    · exact ⟨document, (made.isStripped_markRoot _ _ _).trans unstripped⟩
    · exact ⟨document, unstripped⟩
  have bound : (marked.bindComponent s.annotations.nodes.size node tag around.owner).isStripped
      s.annotations.nodes.size "class" = false :=
    (isStripped_bindComponent _ _ _ _).trans marks.2
  have sameDocument : (marked.bindComponent s.annotations.nodes.size node tag around.owner).document =
      s.document := (document_bindComponent _ _ _).trans marks.1
  generalize marked.bindComponent s.annotations.nodes.size node tag around.owner = component at *
  obtain ⟨f, others, written⟩ := (Edits.refl.bindAttributes : Edits s.annotations.nodes.size node
    component _).document
  refine ⟨?_, ?_⟩
  · rw [← sameDocument, ← document_bindAttributes bound]
    split
    · exact document_readIndentation _ _
    · exact document_readIndentation _ _
  · rw [snd_readIndentation, written, keepsBlanks_mapAttributes _ others, sameDocument]

end Plain

theorem annotateStructural_eq (s : Pass) (around : Surroundings) (node : NodeId)
    (directive : Directive) : s.annotateStructural around node directive =
      (s.annotations.nodes.size,
        (s.annotate node around.parent (.structural directive {} none)).2.update
          s.annotations.nodes.size fun a => { a with buildsChildren := true }) := by
  rw [annotateStructural, annotate_eq]

theorem isStripped_class_stripPresent {names : List String} (other : "class" ∉ names) :
    (s.stripPresent id node names).isStripped id "class" = s.isStripped id "class" := by
  unfold stripPresent
  induction names generalizing s with
  | nil => rfl
  | cons name names ih =>
      rw [List.foldl_cons, ih (List.not_mem_of_not_mem_cons other)]
      split
      · exact isStripped_strip_of_ne _ _ fun same => other (same ▸ List.mem_cons_self)
      · rfl

/-- So has the host of an iteration, unless it is a template. -/
theorem enterIteration_reads {around : Surroundings}
    (valid : ∀ q ∈ around.parent, q < s.annotations.nodes.size) (node : NodeId)
    (tag variableName items : String) :
    (s.enterIteration around node tag variableName items).1.document =
        s.document.mapAttributes node
          (if readsAttributes tag (some (.iteration variableName items)) then attributesRead
            else fun attributes => attributes) ∧
      (s.enterIteration around node tag variableName items).2.inner.keepBlanks =
        s.document.keepsBlanks node around.keepBlanks := by
  unfold enterIteration
  rw [annotateStructural_eq]
  dsimp only
  have unstripped : ((s.annotate node around.parent
      (.structural (.iteration variableName items) {} none)).2.update s.annotations.nodes.size
        fun a => { a with buildsChildren := true }).isStripped s.annotations.nodes.size "class" =
      false := by
    rw [isStripped_update, isStripped_annotate valid]
    exact fun _ => rfl
  have document : ((s.annotate node around.parent
      (.structural (.iteration variableName items) {} none)).2.update s.annotations.nodes.size
        fun a => { a with buildsChildren := true }).document = s.document := rfl
  generalize (s.annotate node around.parent
    (.structural (.iteration variableName items) {} none)).2.update s.annotations.nodes.size
      (fun a => { a with buildsChildren := true }) = start at *
  have iterate : (start.strip s.annotations.nodes.size "iterate").isStripped
      s.annotations.nodes.size "class" = false :=
    (isStripped_strip_of_ne _ _ (by decide)).trans unstripped
  by_cases template : tag = "template"
  · have unread : readsAttributes tag (some (.iteration variableName items)) = false := by
      simp [readsAttributes, template]
    rw [unread, if_neg Bool.false_ne_true, if_pos template, document_readIndentation,
      snd_readIndentation, document_strip, document, Document.mapAttributes_id]
    exact ⟨rfl, rfl⟩
  · have reads : readsAttributes tag (some (.iteration variableName items)) = true := by
      simpa [readsAttributes] using template
    rw [reads, if_pos rfl, if_neg template]
    have bound : (((start.strip s.annotations.nodes.size "iterate").stripPresent
        s.annotations.nodes.size node ["template"]).bindComponent s.annotations.nodes.size node tag
          around.owner).isStripped s.annotations.nodes.size "class" = false := by
      rw [isStripped_bindComponent, isStripped_class_stripPresent (by decide), iterate]
    have sameDocument : (((start.strip s.annotations.nodes.size "iterate").stripPresent
        s.annotations.nodes.size node ["template"]).bindComponent s.annotations.nodes.size node tag
          around.owner).document = s.document := by
      rw [document_bindComponent, document_stripPresent, document_strip, document]
    generalize ((start.strip s.annotations.nodes.size "iterate").stripPresent
      s.annotations.nodes.size node ["template"]).bindComponent s.annotations.nodes.size node tag
        around.owner = component at *
    obtain ⟨f, others, written⟩ := (Edits.refl.bindAttributes : Edits s.annotations.nodes.size node
      component _).document
    refine ⟨?_, ?_⟩
    · rw [document_readIndentation, document_bindAttributes bound, sameDocument]
    · rw [snd_readIndentation, written, keepsBlanks_mapAttributes _ others, sameDocument]

/-- The host of a condition when its own attributes have been read. -/
def hosted (s : Pass) (around : Surroundings) (node : NodeId) (condition : String) : Pass :=
  ((((s.annotate node around.parent (.structural (.conditional condition) {} none)).2.update
    s.annotations.nodes.size fun a => { a with buildsChildren := true }).stripPresent
      s.annotations.nodes.size node ["if", "instantiate", "template"]).readIndentation
        s.annotations.nodes.size node around.keepBlanks).1

section Hosted
variable (s : Pass) (around : Surroundings) (node : NodeId) (condition : String)

theorem hosted_edits : Edits s.annotations.nodes.size node
    ((s.annotate node around.parent (.structural (.conditional condition) {} none)).2.update
      s.annotations.nodes.size fun a => { a with buildsChildren := true })
    (s.hosted around node condition) :=
  (Edits.refl.stripPresent _).readIndentation _

@[simp] theorem document_hosted : (s.hosted around node condition).document = s.document := by
  rw [hosted, document_readIndentation, document_stripPresent]
  rfl

theorem size_hosted :
    (s.hosted around node condition).annotations.nodes.size = s.annotations.nodes.size + 1 := by
  rw [(s.hosted_edits around node condition).size, annotations_update, AnnotatedTree.size_update,
    annotations_annotate, AnnotatedTree.size_add]

/-- A conditional host is a template, or it is split and the element below it entered. -/
theorem enterConditional_eq (tag : String) : s.enterConditional around node tag condition =
    let inner : Surroundings :=
      { around with
        parent := some s.annotations.nodes.size
        keepBlanks := s.document.keepsBlanks node around.keepBlanks }
    if tag = "template" then
      (s.hosted around node condition, { opened := [s.annotations.nodes.size], inner })
    else
      let (content, entry) :=
        ((s.hosted around node condition).mapDocument fun _ =>
          (splitContent s.document node).2).enterPlain inner (splitContent s.document node).1 tag
      (content.update s.annotations.nodes.size (·.withContent entry.opened.head?),
        { entry with opened := entry.opened ++ [s.annotations.nodes.size] }) := by
  have document := s.document_hosted around node condition
  have mode : (((((s.annotate node around.parent (.structural (.conditional condition) {} none)).2.update
      s.annotations.nodes.size fun a => { a with buildsChildren := true }).stripPresent
        s.annotations.nodes.size node ["if", "instantiate", "template"]).readIndentation
          s.annotations.nodes.size node around.keepBlanks)).2 =
      s.document.keepsBlanks node around.keepBlanks := by
    rw [snd_readIndentation, document_stripPresent]
    rfl
  unfold enterConditional
  rw [annotateStructural_eq]
  unfold hosted at *
  dsimp only at *
  rw [mode, document]
  rfl

theorem enterConditional_of_template {tag : String} (template : tag = "template") :
    (s.enterConditional around node tag condition).1 = s.hosted around node condition := by
  rw [enterConditional_eq, if_pos template]

/-- A host that is no template is divided, and what is split off it is entered below it. -/
theorem enterConditional_of_split {tag : String} (notTemplate : tag ≠ "template") :
    ∃ (divided : Pass) (inner : Surroundings) (content : Option AnnotatedId),
      divided.annotations = (s.hosted around node condition).annotations ∧
      divided.document = (splitContent s.document node).2 ∧
      (∀ q ∈ inner.parent, q < divided.annotations.nodes.size) ∧
      (s.enterConditional around node tag condition).1 =
        (divided.enterPlain inner (splitContent s.document node).1 tag).1.update
          s.annotations.nodes.size (·.withContent content) := by
  obtain ⟨inner, content, parent, divides⟩ : ∃ (inner : Surroundings) (content : Option AnnotatedId),
      inner.parent = some s.annotations.nodes.size ∧
      (s.enterConditional around node tag condition).1 =
        (((s.hosted around node condition).mapDocument fun _ =>
          (splitContent s.document node).2).enterPlain inner (splitContent s.document node).1
            tag).1.update s.annotations.nodes.size (·.withContent content) := by
    rw [enterConditional_eq, if_neg notTemplate]
    exact ⟨_, _, rfl, rfl⟩
  have annotations := annotations_mapDocument (s.hosted around node condition) fun _ =>
    (splitContent s.document node).2
  have document : ((s.hosted around node condition).mapDocument fun _ =>
      (splitContent s.document node).2).document = (splitContent s.document node).2 := rfl
  generalize ((s.hosted around node condition).mapDocument fun _ =>
    (splitContent s.document node).2) = divided at *
  refine ⟨divided, inner, content, annotations, document, fun q isHost => ?_, divides⟩
  rw [parent] at isHost
  obtain rfl := Option.some.inj isHost
  rw [annotations, size_hosted]
  exact Nat.lt_succ_self _

end Hosted

/-- Whether entering an element splits it: a template is the host and the content in one. -/
def splits (tag : String) : Option Directive → Bool
  | some (.conditional _) => tag != "template"
  | _ => false

/-- What entering the element `node` reads off it and writes back. -/
structure Reads (node : NodeId) (tag : String) (inherited : Bool) (s t : Pass) (entry : Entry) :
    Prop where
  keepBlanks : entry.inner.keepBlanks = s.document.keepsBlanks node inherited
  whole : entry.opened = [s.annotations.nodes.size] →
    ∃ a, t.annotations.get? s.annotations.nodes.size = some a ∧ splits tag a.directive? = false ∧
      t.document = s.document.mapAttributes node
        (if readsAttributes tag a.directive? then attributesRead else fun attributes => attributes)
  split : entry.opened = [s.annotations.nodes.size + 1, s.annotations.nodes.size] →
    tag ≠ "template" ∧
      t.document = (splitContent s.document node).2.mapAttributes s.document.size attributesRead

theorem Reads.of_whole {parent : Option AnnotatedId} {directive : Option Directive}
    {inherited : Bool} {entry : Entry} (enters : EntersAs parent node tag directive s t)
    (unsplit : splits tag directive = false) (opened : entry.opened = [s.annotations.nodes.size])
    (document : t.document = s.document.mapAttributes node
      (if readsAttributes tag directive then attributesRead else fun attributes => attributes))
    (keepBlanks : entry.inner.keepBlanks = s.document.keepsBlanks node inherited) :
    Reads node tag inherited s t entry where
  keepBlanks := keepBlanks
  whole _ := by
    obtain ⟨a, here, leaf⟩ := enters.tree.here
    exact ⟨a, here, by rw [leaf.directive?, unsplit], by rw [leaf.directive?, document]⟩
  split double := by
    have lengths := congrArg List.length (opened.symm.trans double)
    simp at lengths

/-- The element split off has no `indentation` of its own. -/
theorem keepsBlanks_splitContent {d : Document} (element : d.tag? node = some tag)
    (inherited : Bool) : (splitContent d node).2.keepsBlanks d.size inherited = inherited := by
  have directive : "indentation" ∈ directiveNames := by decide
  have none : (splitContent d node).2.attribute? d.size "indentation" = none := by
    rw [Document.attribute?, attributes?_splitContent_new element]
    cases d.attributes? node with
    | none => rfl
    | some attributes => exact find?_withoutDirectives_of_mem attributes directive
  rw [Document.keepsBlanks, none]

theorem reads_enterConditional {around : Surroundings}
    (valid : ∀ q ∈ around.parent, q < s.annotations.nodes.size) (condition : String)
    (element : s.document.tag? node = some tag) :
    Reads node tag around.keepBlanks s (s.enterConditional around node tag condition).1
      (s.enterConditional around node tag condition).2 := by
  obtain ⟨host, enters, unwritten, rest⟩ := entersAs_enterConditional node tag valid condition
  have entered := s.enterConditional_eq around node condition tag
  by_cases template : tag = "template"
  · rw [if_pos template] at rest
    obtain ⟨same, opened, -⟩ := rest
    refine .of_whole (same ▸ enters) ?_ opened ?_ ?_
    · rw [template]
      rfl
    · rw [same, unwritten]
      exact (s.document.mapAttributes_id node).symm
    · rw [entered]
      simp only [template, if_true]
  · rw [if_neg template] at rest
    obtain ⟨-, opened, -⟩ := rest
    have valid' : ∀ q ∈ some s.annotations.nodes.size,
        q < ((s.hosted around node condition).mapDocument fun _ =>
          (splitContent s.document node).2).annotations.nodes.size := by
      intro q isHost
      rw [← Option.some.inj isHost, annotations_mapDocument, size_hosted]
      exact Nat.lt_succ_self _
    obtain ⟨document, mode⟩ := @enterPlain_reads _
      { around with
        parent := some s.annotations.nodes.size
        keepBlanks := s.document.keepsBlanks node around.keepBlanks }
      valid' (splitContent s.document node).1 tag
    rw [entered] at opened ⊢
    simp only [template, if_false] at opened ⊢
    refine ⟨?_, fun single => ?_, fun _ => ?_⟩
    · refine mode.trans ?_
      rw [fst_splitContent element]
      exact keepsBlanks_splitContent element _
    · have lengths := congrArg List.length (opened.symm.trans single)
      simp at lengths
    · refine ⟨template, ?_⟩
      rw [document_update, document, fst_splitContent element]
      rfl

theorem reads_enter {around : Surroundings} {entry : Entry}
    (valid : ∀ q ∈ around.parent, q < s.annotations.nodes.size)
    (element : s.document.tag? node = some tag)
    (found : s.enter around node tag = (t, some entry)) :
    Reads node tag around.keepBlanks s t entry := by
  unfold enter at found
  split at found
  · cases found
  · obtain ⟨reports, same⟩ := foldl_report s node (Plan.read s.document node tag).1
    dsimp only at found
    rw [same] at found
    have valid' : ∀ q ∈ around.parent,
        q < ({ s with reports } : Pass).annotations.nodes.size := valid
    suffices reads : Reads node tag around.keepBlanks { s with reports } t entry from
      ⟨reads.keepBlanks, reads.whole, reads.split⟩
    have element' : ({ s with reports } : Pass).document.tag? node = some tag := element
    generalize ({ s with reports } : Pass) = s at *
    split at found
    · cases found
    · obtain ⟨rfl, isEntry⟩ := Prod.mk.inj found
      obtain rfl := Option.some.inj isEntry
      obtain ⟨enters, opened, -⟩ := entersAs_enterPlain node tag valid'
      obtain ⟨document, mode⟩ := enterPlain_reads valid' node tag
      exact .of_whole enters rfl opened document mode
    · obtain ⟨rfl, isEntry⟩ := Prod.mk.inj found
      obtain rfl := Option.some.inj isEntry
      exact reads_enterConditional valid' _ element'
    · next variableName items _ =>
      obtain ⟨rfl, isEntry⟩ := Prod.mk.inj found
      obtain rfl := Option.some.inj isEntry
      obtain ⟨enters, opened, -⟩ := entersAs_enterIteration node tag valid' variableName items
      obtain ⟨document, mode⟩ := enterIteration_reads valid' node tag variableName items
      exact .of_whole enters rfl opened document mode

/-! ## Plans -/

section Plans
variable (around : Surroundings) (notScript : tag ≠ "script")
include notScript

theorem enter_of_plain (plan : Plan.read s.document node tag = ([], .plain)) :
    s.enter around node tag =
      ((s.enterPlain around node tag).1, some (s.enterPlain around node tag).2) := by
  unfold enter
  rw [if_neg notScript, plan]
  dsimp only [List.foldl_nil]

theorem enter_of_condition {condition : String}
    (plan : Plan.read s.document node tag = ([], .conditional condition)) :
    s.enter around node tag = ((s.enterConditional around node tag condition).1,
      some (s.enterConditional around node tag condition).2) := by
  unfold enter
  rw [if_neg notScript, plan]
  dsimp only [List.foldl_nil]

end Plans

end Pass
end ComponentMarkup
