import ComponentMarkup.Proofs.Annotated.Conserved
import ComponentMarkup.Proofs.Annotated.Entering

/-!
Directives in the start tags of elements that carry them. The host of a condition shows none of them.
That of an iteration shows its `instantiate`, and a template that is repeated its `template` as well.
-/

namespace ComponentMarkup

/-- Whether the start tag of an element with the directive still has an attribute of the name, which
is that of a directive too. -/
def Directive.leaves (directive : Directive) (tag name : String) : Bool :=
  match directive with
  | .conditional _ => false
  | .iteration .. => name == "instantiate" || name == "template" && tag == "template"

/-- The annotation of an element with these attributes is stripped of those of them that are named
as directives, but for what its own directive leaves. -/
def AnnotatedNode.Clears (tag : String) (attributes : Attributes) (a : AnnotatedNode) : Prop :=
  ∀ directive ∈ a.directive?, ∀ name, directiveNames.contains name = true →
    attributes.contains name = true → a.stripped.contains name = !directive.leaves tag name

theorem AnnotatedNode.Clears.of_reading {tag : String} {attributes : Attributes}
    {a a' : AnnotatedNode} (clears : a.Clears tag attributes) (reading : a'.reading = a.reading) :
    a'.Clears tag attributes := by
  obtain ⟨directive, -, stripped⟩ : a'.directive? = a.directive? ∧ a'.bindings? = a.bindings? ∧
      a'.stripped = a.stripped := by
    simpa only [AnnotatedNode.reading, Prod.mk.injEq] using reading
  unfold Clears
  rwa [directive, stripped]

theorem AnnotatedNode.Clears.of_plain {tag : String} {attributes : Attributes} {a : AnnotatedNode}
    (plain : a.directive? = none) : a.Clears tag attributes := by
  intro directive isDirective
  rw [plain] at isDirective
  cases isDirective

/-- The names of directives one by one. -/
theorem directiveNames_cases {name : String} (directive : directiveNames.contains name = true) :
    name = "if" ∨ name = "iterate" ∨ name = "instantiate" ∨ name = "template" ∨
      name = "indentation" := by
  simpa [directiveNames] using directive

theorem ne_of_directive {name other : String} (directive : directiveNames.contains name = true)
    (plain : directiveNames.contains other = false) : other ≠ name := by
  rintro rfl
  exact nomatch plain.symm.trans directive

/-! ## Plans -/

namespace Plan
variable {d : Document} {node : NodeId} {tag condition variableName items : String}

theorem ofDirectives_conditional {isTemplate : Bool} {condition? iterate : Option String}
    (planned : (ofDirectives d node isTemplate condition? iterate).2 = .conditional condition) :
    iterate = none := by
  unfold ofDirectives at planned
  grind

theorem ofDirectives_iteration {isTemplate : Bool} {condition? iterate : Option String}
    (planned : (ofDirectives d node isTemplate condition? iterate).2 =
      .iteration variableName items) : condition? = none := by
  unfold ofDirectives at planned
  grind

theorem if_eq_none_of_conditionOf (unconditional : (conditionOf d node).1 = none) :
    d.attribute? node "if" = none := by
  unfold conditionOf at unconditional
  grind

/-- An element that has a condition is not repeated. -/
theorem iterate_eq_none_of_read (planned : (read d node tag).2 = .conditional condition) :
    d.attribute? node "iterate" = none := by
  unfold read at planned
  split at planned
  · cases planned
  · dsimp only at planned
    split at planned
    · cases planned
    · exact ofDirectives_conditional planned

/-- An element that is repeated has no condition. -/
theorem if_eq_none_of_read (planned : (read d node tag).2 = .iteration variableName items) :
    d.attribute? node "if" = none := by
  unfold read at planned
  split at planned
  · cases planned
  · dsimp only at planned
    split at planned
    · cases planned
    · exact if_eq_none_of_conditionOf (ofDirectives_iteration planned)

end Plan

/-! ## Entering -/

namespace Pass
variable {s t : Pass} {id : AnnotatedId} {node : NodeId} {tag name : String} {attributes : Attributes}
  {around : Surroundings} {entry : Entry}

/-- Reading attributes strips no directive. -/
theorem isStripped_bindAttributes_of_directive (directive : directiveNames.contains name = true) :
    (s.bindAttributes id node).isStripped id name = s.isStripped id name := by
  have unknown : ∀ property ∈ knownProperties, Text.lowered property ≠ name := by
    have plain : ∀ property ∈ knownProperties,
        directiveNames.contains (Text.lowered property) = false := by decide
    exact fun property known => ne_of_directive directive (plain property known)
  unfold bindAttributes
  cases s.document.attributes? node with
  | none => rfl
  | some attributes =>
      dsimp only
      generalize attributes.entries = entries
      induction entries generalizing s with
      | nil => rfl
      | cons entry entries ih =>
          obtain ⟨other, value⟩ := entry
          rw [List.foldl_cons, ih]
          cases steers : directiveNames.contains other with
          | false =>
              exact s.isStripped_bindAttribute_of_ne id node (ne_of_directive directive steers)
                unknown value
          | true =>
              unfold bindAttribute
              rw [steers, Bool.true_or, if_pos rfl]

theorem hasAttribute_of_data (data : s.document.data? node = some (.element tag attributes))
    (name : String) : s.document.hasAttribute node name = attributes.contains name := by
  rw [Document.hasAttribute, Document.attribute?, Document.attributes?, data, Option.bind_some,
    OrderedMap.contains]

section Entering
variable (valid : ∀ q ∈ around.parent, q < s.annotations.nodes.size)
  (data : s.document.data? node = some (.element tag attributes))
include valid data

/-- The host of a condition is stripped of all the directives it has. -/
theorem clears_hosted {condition : String} (once : attributes.contains "iterate" = false)
    {a : AnnotatedNode}
    (found : (s.hosted around node condition).annotations.get? s.annotations.nodes.size = some a) :
    a.Clears tag attributes := by
  have directive := (entersAs_hosted valid node tag condition).directive?_eq found
  obtain ⟨bare, unstripped⟩ := bare_annotateStructural valid node (.conditional condition)
  rw [annotateStructural_eq] at bare unstripped
  dsimp only at bare unstripped
  intro _ isDirective name named has
  obtain rfl := Option.some.inj (directive.symm.trans isDirective)
  have stripped : a.stripped.contains name =
      (s.hosted around node condition).isStripped s.annotations.nodes.size name := by
    rw [isStripped, found]
  have edits := (Edits.refl : Edits s.annotations.nodes.size node _ _).stripPresent
    (t := (s.annotate node around.parent (.structural (.conditional condition) {} none)).2.update
      s.annotations.nodes.size fun a => { a with buildsChildren := true })
    ["if", "instantiate", "template"]
  rw [stripped, hosted, isStripped_readIndentation_eq (bare.holds.edits edits),
    isStripped_stripPresent_eq bare.holds, unstripped, document_stripPresent, document_update,
    document_annotate, hasAttribute_of_data data, has]
  rcases directiveNames_cases named with rfl | rfl | rfl | rfl | rfl
  case inr.inl => exact absurd (once.symm.trans has) Bool.false_ne_true
  all_goals rfl

theorem clears_enterConditional {condition : String} (once : attributes.contains "iterate" = false)
    {a : AnnotatedNode}
    (found : (s.enterConditional around node tag condition).1.annotations.get?
      s.annotations.nodes.size = some a) : a.Clears tag attributes := by
  obtain ⟨h, hosted, -⟩ := (entersAs_hosted valid node tag condition).tree.here
  have own : h.Clears tag attributes := clears_hosted valid data once hosted
  obtain ⟨h', here, core⟩ := exists_core_host node tag hosted
  obtain rfl := Option.some.inj (here.symm.trans found)
  exact own.of_reading (AnnotatedNode.reading_of_core core)

theorem clears_enterIteration {variableName items : String} (free : attributes.contains "if" = false)
    {a : AnnotatedNode}
    (found : (s.enterIteration around node tag variableName items).1.annotations.get?
      s.annotations.nodes.size = some a) : a.Clears tag attributes := by
  have directive := (entersAs_enterIteration node tag valid variableName items).1.directive?_eq found
  obtain ⟨isNew, -, document, -, -⟩ :=
    opened_annotateStructural node valid (.iteration variableName items)
  obtain ⟨bare, unstripped⟩ := bare_annotateStructural valid node (.iteration variableName items)
  have has_eq := hasAttribute_of_data data
  intro _ isDirective name named has
  obtain rfl := Option.some.inj (directive.symm.trans isDirective)
  have stripped : a.stripped.contains name =
      (s.enterIteration around node tag variableName items).1.isStripped s.annotations.nodes.size
        name := by
    rw [isStripped, found]
  rw [stripped]
  clear found stripped
  unfold enterIteration
  generalize s.annotateStructural around node (.iteration variableName items) = structural at *
  obtain ⟨id, start⟩ := structural
  subst isNew
  dsimp only at *
  obtain ⟨b, here, -⟩ := bare.holds
  have iterates : (start.strip s.annotations.nodes.size "iterate").Bare s.annotations.nodes.size :=
    bare.update fun _ => rfl
  have first (other : String) : (start.strip s.annotations.nodes.size "iterate").isStripped
      s.annotations.nodes.size other = ("iterate" == other) := by
    rw [isStripped_strip here, unstripped, Bool.false_or]
  have document' : (start.strip s.annotations.nodes.size "iterate").document = s.document :=
    document
  generalize start.strip s.annotations.nodes.size "iterate" = opened at *
  -- Only a host that is no template is stripped of its `template`, and neither binding it nor reading
  -- its attributes strips it of a directive.
  split
  · next template =>
    rw [isStripped_readIndentation_eq iterates.holds, first, document', has_eq, has, template]
    rcases directiveNames_cases named with rfl | rfl | rfl | rfl | rfl
    case inl => exact absurd (free.symm.trans has) Bool.false_ne_true
    all_goals rfl
  · next notTemplate =>
    have hosted := (iterates.stripPresent node "template").bindComponent node tag around.owner
    have second : ((opened.stripPresent s.annotations.nodes.size node ["template"]).bindComponent
        s.annotations.nodes.size node tag around.owner).isStripped s.annotations.nodes.size name =
          ("iterate" == name || name == "template") := by
      rw [isStripped_bindComponent, isStripped_stripPresent_eq iterates.holds, first, document',
        has_eq, has, List.contains_cons, List.contains_nil, Bool.or_false, Bool.and_true]
    have document'' : ((opened.stripPresent s.annotations.nodes.size node ["template"]).bindComponent
        s.annotations.nodes.size node tag around.owner).document = s.document := by
      rw [document_bindComponent, document_stripPresent, document']
    generalize (opened.stripPresent s.annotations.nodes.size node ["template"]).bindComponent
      s.annotations.nodes.size node tag around.owner = host at *
    have edits : Edits s.annotations.nodes.size node host
        (host.bindAttributes s.annotations.nodes.size node) := Edits.refl.bindAttributes
    obtain ⟨f, others, written⟩ := edits.document
    have keeps : (host.bindAttributes s.annotations.nodes.size node).document.hasAttribute node name =
        true := by
      have other : name ≠ "class" := Ne.symm (ne_of_directive named (by decide))
      rw [Document.hasAttribute, written, document'',
        Document.attribute?_mapAttributes _ _ _ _ fun attributes => others attributes name other]
      exact (has_eq name).trans has
    rw [isStripped_readIndentation_eq (hosted.holds.edits edits),
      isStripped_bindAttributes_of_directive named, second, keeps, Bool.and_true, Directive.leaves,
      beq_eq_false_iff_ne.2 notTemplate]
    rcases directiveNames_cases named with rfl | rfl | rfl | rfl | rfl
    case inl => exact absurd (free.symm.trans has) Bool.false_ne_true
    all_goals rfl

/-- Entering an element with a directive strips it of the directives, but for what its own leaves. -/
theorem clears_enter (found : s.enter around node tag = (t, some entry)) :
    (∀ a, t.annotations.get? s.annotations.nodes.size = some a → a.Clears tag attributes) ∧
      ∀ b, t.annotations.get? (s.annotations.nodes.size + 1) = some b →
        b.Clears tag (withoutDirectives attributes) := by
  constructor
  · intro a here
    unfold enter at found
    split at found
    · cases found
    · obtain ⟨reports, same⟩ := foldl_report s node (Plan.read s.document node tag).1
      dsimp only at found
      rw [same] at found
      have has_eq := hasAttribute_of_data data
      have valid' : ∀ q ∈ around.parent,
          q < ({ s with reports } : Pass).annotations.nodes.size := valid
      have data' : ({ s with reports } : Pass).document.data? node = some (.element tag attributes) :=
        data
      have size : s.annotations.nodes.size = ({ s with reports } : Pass).annotations.nodes.size := rfl
      rw [size] at here
      generalize ({ s with reports } : Pass) = reported at *
      split at found
      · cases found
      · obtain ⟨rfl, -⟩ := Prod.mk.inj found
        exact .of_plain ((entersAs_enterPlain node tag valid').1.directive?_eq here)
      · next condition planned =>
        obtain ⟨rfl, -⟩ := Prod.mk.inj found
        refine clears_enterConditional valid' data' ?_ here
        rw [← has_eq, Document.hasAttribute, Plan.iterate_eq_none_of_read planned]
        rfl
      · next variableName items planned =>
        obtain ⟨rfl, -⟩ := Prod.mk.inj found
        refine clears_enterIteration valid' data' ?_ here
        rw [← has_eq, Document.hasAttribute, Plan.if_eq_none_of_read planned]
        rfl
  · intro b here
    obtain ⟨reports, -, introduces⟩ := introduces_of_enter valid found
    have size : s.annotations.nodes.size = ({ s with reports } : Pass).annotations.nodes.size := rfl
    rw [size] at here
    cases introduces with
    | whole enters =>
        have inside := AnnotatedTree.lt_size_of_get? here
        rw [enters.size] at inside
        exact absurd inside (Nat.lt_irrefl _)
    | @split host condition hosts begun content read =>
        refine .of_plain (content.directive?_eq ?_)
        rw [annotations_mapDocument, hosts.size]
        exact here

end Entering
end Pass

/-! ## Attributes of directives -/

section Contains
variable {name : String} (directive : directiveNames.contains name = true)
include directive

/-- A split leaves the old element all its directives. -/
theorem contains_directivesOf {d : Document} {node : NodeId} {attributes : Attributes}
    (held : d.attributes? node = some attributes) :
    (Pass.directivesOf d node).contains name = attributes.contains name := by
  have fold (entries : List (String × String)) (kept : Attributes) :
      (entries.foldl (fun kept entry => kept.insert entry.1 entry.2) kept).contains name =
        (kept.contains name || entries.any fun entry => entry.1 == name) := by
    induction entries generalizing kept with
    | nil => rw [List.foldl_nil, List.any_nil, Bool.or_false]
    | cons entry entries ih =>
        rw [List.foldl_cons, ih, List.any_cons, ← Bool.or_assoc, OrderedMap.contains,
          OrderedMap.find?_insert, OrderedMap.contains]
        cases entry.1 == name with
        | true => rw [if_pos rfl, Bool.or_true]; rfl
        | false => rw [if_neg Bool.false_ne_true, Bool.or_false]
  have present : (attributes.entries.any fun entry =>
      directiveNames.contains entry.1 && entry.1 == name) =
        attributes.entries.any fun entry => entry.1 == name := by
    congr 1
    funext entry
    cases same : entry.1 == name with
    | false => rw [Bool.and_false]
    | true =>
        rw [eq_of_beq same, directive]
        rfl
  rw [Pass.directivesOf, Pass.heldDirectives, held, fold, List.any_filter, present,
    OrderedMap.contains_eq_any attributes]
  rfl

/-- A pass adds no directive to an element and takes none away that has one itself. -/
theorem contains_remaining {d : Document} {a : AnnotatedNode} {tag : String} {attributes : Attributes}
    (held : d.attributes? a.source = some attributes) (t : AnnotatedTree) (id : AnnotatedId) :
    (t.identified id a (if Pass.splits tag a.directive? then Pass.directivesOf d a.source
      else if Pass.readsAttributes tag a.directive? then Pass.attributesRead attributes
      else attributes)).contains name = attributes.contains name := by
  rw [OrderedMap.contains, t.find?_identified_of_ne (ne_of_directive directive (by decide)).symm,
    ← OrderedMap.contains]
  split
  · exact contains_directivesOf directive held
  · split
    · rw [OrderedMap.contains,
        Pass.find?_attributesRead_of_ne (ne_of_directive directive (by decide)).symm,
        OrderedMap.contains]
    · rfl

end Contains

theorem Attributes.exists_mem_filter_iff (attributes : Attributes) (keeps : String → Bool)
    (name : String) : (∃ value, (name, value) ∈ attributes.entries.filter fun entry => keeps entry.1) ↔
      attributes.contains name = true ∧ keeps name = true := by
  rw [OrderedMap.contains_eq_any, List.any_eq_true]
  constructor
  · rintro ⟨value, member⟩
    obtain ⟨listed, kept⟩ := List.mem_filter.1 member
    exact ⟨⟨_, listed, beq_self_eq_true name⟩, kept⟩
  · rintro ⟨⟨entry, listed, isName⟩, kept⟩
    obtain rfl := eq_of_beq isName
    exact ⟨entry.2, List.mem_filter.2 ⟨listed, kept⟩⟩

/-! ## Files -/

/-- In the static markup an element with a directive, unless a void element stands above it, has of
the attributes that are named as directives those that it came with and its own directive leaves. -/
structure SourceFile.ShowsDirectives (before : Document) (file : SourceFile) (a : AnnotatedNode)
    (directive : Directive) (tag : String) (attributes : Attributes) : Prop where
  data : before.data? a.source = some (.element tag attributes)
  shown : (∃ tag' kept, .start a.source tag' kept ∈ file.staticPieces) ↔ file.IsOpen a.source
  left : ∀ tag' kept, .start a.source tag' kept ∈ file.staticPieces → tag' = tag ∧
    ∀ name, directiveNames.contains name = true →
      ((∃ value, (name, value) ∈ kept) ↔
        attributes.contains name = true ∧ directive.leaves tag name = true)

theorem showsDirectives_annotateFile {s : Pass} (keepBlanks : Bool) (fresh : s.annotations = {})
    (wellFormed : s.document.WellFormed) {id : AnnotatedId} {a : AnnotatedNode}
    {directive : Directive}
    (found : (annotateFile keepBlanks s).annotations.get? id = some a)
    (isDirective : a.directive? = some directive) :
    ∃ tag attributes, (annotateFile keepBlanks s).file.ShowsDirectives s.document a directive tag
      attributes := by
  have element : a.isText = false := by
    cases a using AnnotatedNode.byKind with
    | text => cases isDirective
    | _ => rfl
  have bears : Pass.Bears (fun tag attributes a => a.Clears tag attributes) s.document.bodyForest s
      (annotateFile keepBlanks s) :=
    (visits_annotateFile keepBlanks s).bears (fun clears reading => clears.of_reading reading)
      (fun valid data found => Pass.clears_enter valid data found)
      (walkable_bodyForest fresh wellFormed)
  obtain ⟨tag, attributes, given, own, left⟩ :=
    remains_annotateFile keepBlanks fresh wellFormed found element
  have start := start_annotateFile keepBlanks fresh wellFormed found element left
  generalize annotateFile keepBlanks s = t at *
  have isNew : s.annotations.nodes.size ≤ id := by
    rw [fresh]
    exact Nat.zero_le id
  obtain ⟨_, _, given', clears⟩ := bears id a isNew found element
  obtain ⟨rfl, rfl⟩ := given'.unique given
  have data := own (by rw [isDirective]; rfl)
  refine ⟨tag, attributes, data, ⟨?_, fun isOpen => ⟨_, _, (start _ _).2 ⟨rfl, rfl, isOpen⟩⟩⟩,
    fun tag' kept shown => ?_⟩
  · rintro ⟨tag', kept, shown⟩
    exact ((start tag' kept).1 shown).2.2
  · obtain ⟨rfl, rfl, -⟩ := (start tag' kept).1 shown
    refine ⟨rfl, fun name named => ?_⟩
    have held : s.document.attributes? a.source = some attributes := by
      rw [Document.attributes?, data]
    rw [Attributes.exists_mem_filter_iff _ fun name => !a.stripped.contains name,
      contains_remaining named held]
    refine and_congr_right fun has => ?_
    rw [clears directive isDirective name named has, Bool.not_not]

end ComponentMarkup
