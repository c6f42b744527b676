import ComponentMarkup.Proofs.Annotated.Given
import ComponentMarkup.Proofs.Annotated.Located
import ComponentMarkup.Proofs.Annotated.Shown

/-!
Every element of an annotated file has in its start tag what it was given, but for what reading its
attributes took off.
-/

namespace ComponentMarkup

/-! ## Elements after a walk -/

namespace Pass
variable {d e : Document} {u : Pass} {place : Place} {f g F : Forest} {node : NodeId}
  {tag tag' : String} {attributes attributes' : Attributes}

theorem Given.unique (given : Given f d e node tag attributes)
    (given' : Given g d e node tag' attributes') : tag' = tag ∧ attributes' = attributes := by
  have outside {n : NodeId} {data : NodeData} (isNew : d.size ≤ n) (found : d.data? n = some data) :
      False := by
    rw [Document.data?, d.node?_eq_none isNew] at found
    cases found
  cases given with
  | own _ data =>
      cases given' with
      | own _ data' =>
          rw [data] at data'
          cases data'
          exact ⟨rfl, rfl⟩
      | copied isNew => exact (outside isNew data).elim
  | copied isNew _ under data =>
      cases given' with
      | own _ data' => exact (outside isNew data').elim
      | copied _ _ under' data' =>
          rw [under] at under'
          cases under'
          rw [data] at data'
          cases data'
          exact ⟨rfl, rfl⟩

theorem Given.distinct (given : Given f d e node tag attributes) (once : d.NamesAttributesOnce) :
    OrderedMap.Distinct attributes.entries := by
  cases given with
  | own _ data => exact once node attributes (by rw [Document.attributes?, data])
  | @copied host _ _ _ _ _ data =>
      rw [withoutDirectives_eq]
      exact List.Pairwise.filter _ (once host _ (by rw [Document.attributes?, data]))

theorem splits_of_reads {directive : Option Directive} (reads : readsAttributes tag directive = true) :
    splits tag directive = false := by
  cases directive with
  | none => rfl
  | some directive =>
      cases directive with
      | conditional => cases reads
      | iteration => rfl

/-- After the walk the element of an annotation has of what it was given what its directive leaves
it, and its identifier. An element with a directive is none that was split off. -/
theorem Mirrors.remains (mirrors : Mirrors d u place f F)
    (builds : ∀ id a, u.annotations.get? id = some a → a.directive?.isSome = true →
      a.buildsChildren = true) :
    ∀ id ∈ F.preorder, ∀ a, u.annotations.get? id = some a → a.isText = false →
      ∃ tag attributes, Given f d u.document a.source tag attributes ∧
        (a.directive?.isSome = true → d.data? a.source = some (.element tag attributes)) ∧
        u.document.data? a.source = some (.element tag (u.annotations.identified id a
          (if splits tag a.directive? then directivesOf d a.source
          else if readsAttributes tag a.directive? then attributesRead attributes
          else attributes))) := by
  have part {f g : Forest} (inside : ∀ n ∈ f.preorder, n ∈ g.preorder) {node : NodeId} {tag : String}
      {attributes : Attributes} (given : Given f d u.document node tag attributes) :
      Given g d u.document node tag attributes :=
    given.transfer (fun _ _ => rfl) (Nat.le_refl _) (fun _ => rfl) inside
  induction mirrors with
  | nil => exact fun id impossible => nomatch impossible
  | passed => exact fun id impossible => nomatch impossible
  | append _ _ ihFirst ihLater =>
      intro id member a found element
      rw [Forest.preorder_append, List.mem_append] at member
      rcases member with member | member
      · obtain ⟨tag, attributes, given, rest⟩ := ihFirst id member a found element
        refine ⟨tag, attributes, part (fun n inside => ?_) given, rest⟩
        rw [Forest.preorder_append]
        exact List.mem_append_left _ inside
      · obtain ⟨tag, attributes, given, rest⟩ := ihLater id member a found element
        refine ⟨tag, attributes, part (fun n inside => ?_) given, rest⟩
        rw [Forest.preorder_append]
        exact List.mem_append_right _ inside
  | text under found isText row same =>
      intro id member a here element
      rw [Forest.preorder_leaves] at member
      obtain ⟨b, here', kind⟩ := row.isText member
      obtain rfl := Option.some.inj (here.symm.trans here')
      exact nomatch element.symm.trans kind
  | @whole place node below F old tag attributes id a found data stands unsplit after _ ih =>
      intro n member b here element
      rw [Forest.mem_preorder_tree] at member
      rcases member with rfl | member
      · obtain rfl := Option.some.inj (stands.found.symm.trans here)
        have held : d.data? node = some (.element tag attributes) :=
          (Document.data?_eq found).trans (congrArg some data)
        rw [stands.source]
        refine ⟨tag, attributes, .own List.mem_cons_self held, fun _ => held, ?_⟩
        rw [Document.data?_eq after, unsplit, if_neg Bool.false_ne_true]
      · obtain ⟨tag, attributes, given, rest⟩ := ih n member b here element
        exact ⟨tag, attributes, part (fun n inside => Forest.mem_preorder_tree.2 (.inr inside)) given,
          rest⟩
  | @split place host new below F old tag attributes id inner a b found data stands splits content
      plain isNew after made _ ih =>
      have held : d.data? host = some (.element tag attributes) :=
        (Document.data?_eq found).trans (congrArg some data)
      intro n member c here element
      rw [Forest.mem_preorder_tree, Forest.mem_preorder_tree] at member
      rcases member with rfl | rfl | member
      · obtain rfl := Option.some.inj (stands.found.symm.trans here)
        rw [stands.source]
        refine ⟨tag, attributes, .own List.mem_cons_self held, fun _ => held, ?_⟩
        rw [Document.data?_eq after, splits, if_pos rfl]
      · obtain rfl := Option.some.inj (content.found.symm.trans here)
        have hosted : a.directive?.isSome = true := by
          cases directive : a.directive? with
          | none =>
              rw [directive] at splits
              cases splits
          | some directive => rfl
        have built : u.annotations.isBuilt n = true := by
          rw [AnnotatedTree.isBuilt, AnnotatedTree.parent?_eq content.found, content.parent]
          exact (AnnotatedTree.buildsChildren_eq stands.found).trans (builds id a stands.found hosted)
        have unwritten (left : Attributes) : u.annotations.identified n b left = left := by
          rw [AnnotatedTree.identified, built, Bool.not_true, Bool.and_false]
          cases b.identifier <;> rfl
        rw [content.source]
        refine ⟨tag, _, .copied isNew List.mem_cons_self (Document.parent?_eq made) held,
          fun directive => ?_, ?_⟩
        · rw [plain] at directive
          cases directive
        · rw [unwritten, Document.data?_eq made, plain]
          rfl
      · obtain ⟨tag, attributes, given, rest⟩ := ih n member c here element
        exact ⟨tag, attributes, part (fun n inside => Forest.mem_preorder_tree.2 (.inr inside)) given,
          rest⟩

end Pass

/-! ## Files -/

namespace SourceFile

/-- What an annotated element was given before the pass: its own attributes, or when it was split
off, those of the element above it but for the directives. -/
inductive Gives (before : Document) (file : SourceFile) (node : NodeId) :
    String → Attributes → Prop
  | own {tag : String} {attributes : Attributes}
      (data : before.data? node = some (.element tag attributes)) :
      Gives before file node tag attributes
  | copied {host : NodeId} {tag : String} {attributes : Attributes} (isNew : before.size ≤ node)
      (under : file.document.parent? node = some host)
      (data : before.data? host = some (.element tag attributes)) :
      Gives before file node tag
        ⟨attributes.entries.filter fun entry => !directiveNames.contains entry.1⟩

/-- Of what the element `e` was given, the static markup has what nothing took off, unless a void
element stands above it. What is left there with a binding is a directive or is named as events or
two-way attributes are. Its events run their code and what is natively installed, in the order of
the attributes. -/
structure Conserves (file : SourceFile) (id : AnnotatedId) (a : AnnotatedNode) (e : Bearer) :
    Prop where
  start : ∀ tag kept, .start a.source tag kept ∈ file.staticPieces ↔
    tag = e.tag ∧ kept = file.annotations.startTag id a e ∧ file.IsOpen a.source
  apart : ∀ entry ∈ file.annotations.startTag id a e, Binding.hasBinding entry.2 = true →
    directiveNames.contains entry.1 = true ∨ Text.startsWith entry.1 "on" = true ∨
      Text.startsWith entry.1 "bind-" = true
  handled : ∀ event, a.handlersOf event =
    (e.attributes.entries.flatMap fun entry => e.runs entry.1 entry.2).filter (·.event == event)

end SourceFile

variable {s : Pass}

theorem AnnotatedNode.Sheds.of_reading {tag : String} {attributes : Attributes}
    {a a' : AnnotatedNode} (sheds : a.Sheds tag attributes) (reading : a'.reading = a.reading) :
    a'.Sheds tag attributes := by
  obtain ⟨directive, bindings, stripped⟩ : a'.directive? = a.directive? ∧
      a'.bindings? = a.bindings? ∧ a'.stripped = a.stripped := by
    simpa only [AnnotatedNode.reading, Prod.mk.injEq] using reading
  have handlers (event : String) : a'.handlersOf event = a.handlersOf event := by
    rw [handlersOf, handlersOf, bindings]
  intro distinct reads
  rw [directive] at reads
  obtain ⟨strips, handled⟩ := sheds distinct reads
  rw [component?, bindings]
  refine ⟨fun name => ?_, fun event => ?_⟩
  · rw [stripped, directive]
    exact strips name
  · rw [handlers]
    exact handled event

/-- A start tag in the static markup has what its annotation is not stripped of. -/
theorem start_annotateFile (keepBlanks : Bool) (fresh : s.annotations = {})
    (wellFormed : s.document.WellFormed) {id : AnnotatedId} {a : AnnotatedNode}
    (found : (annotateFile keepBlanks s).annotations.get? id = some a) (element : a.isText = false)
    {tag : String} {attributes : Attributes}
    (data : (annotateFile keepBlanks s).document.data? a.source = some (.element tag attributes))
    (tag' : String) (kept : List (String × String)) :
    .start a.source tag' kept ∈ (annotateFile keepBlanks s).file.staticPieces ↔
      tag' = tag ∧ (kept = attributes.entries.filter fun entry => !a.stripped.contains entry.1) ∧
        (annotateFile keepBlanks s).file.IsOpen a.source := by
  obtain ⟨nodup, reached, strips⟩ := placed_annotateFile keepBlanks fresh wellFormed found element
  have start : .start a.source tag' kept ∈ (annotateFile keepBlanks s).file.staticPieces ↔
      tag' = tag ∧ (kept = attributes.entries.filter fun entry =>
        !(annotateFile keepBlanks s).annotations.strips a.source entry.1) ∧
          (annotateFile keepBlanks s).file.IsOpen a.source :=
    Document.start_mem_pieces_iff nodup reached data
  simpa only [strips] using start

theorem Pass.Given.gives {f : Forest} {t : Pass} {node : NodeId} {tag : String} {attributes : Attributes}
    (given : Pass.Given f s.document t.document node tag attributes) :
    t.file.Gives s.document node tag attributes := by
  cases given with
  | own _ data => exact .own data
  | copied isNew _ under data =>
      rw [Pass.withoutDirectives_eq]
      exact .copied isNew under data

/-- After a pass the element of an annotation has what its directive leaves it. -/
theorem remains_annotateFile (keepBlanks : Bool) (fresh : s.annotations = {})
    (wellFormed : s.document.WellFormed) {id : AnnotatedId} {a : AnnotatedNode}
    (found : (annotateFile keepBlanks s).annotations.get? id = some a) (element : a.isText = false) :
    ∃ tag attributes, Pass.Given s.document.bodyForest s.document (annotateFile keepBlanks s).document
        a.source tag attributes ∧
      (a.directive?.isSome = true → s.document.data? a.source = some (.element tag attributes)) ∧
      (annotateFile keepBlanks s).document.data? a.source = some (.element tag
        ((annotateFile keepBlanks s).annotations.identified id a
          (if Pass.splits tag a.directive? then Pass.directivesOf s.document a.source
          else if Pass.readsAttributes tag a.directive? then Pass.attributesRead attributes
          else attributes))) := by
  have builds (n : AnnotatedId) (b : AnnotatedNode)
      (here : (annotateFile keepBlanks s).annotations.get? n = some b)
      (directive : b.directive?.isSome = true) : b.buildsChildren = true :=
    (closedForm_annotateFile keepBlanks fresh wellFormed here).buildsChildren.2
      (.inl (b.isStructural_eq.trans directive))
  obtain ⟨F, grown, mirrors⟩ := mirrors_annotateFile keepBlanks fresh wellFormed
  have tree := grown.tree
  rw [fresh] at tree
  generalize annotateFile keepBlanks s = t at *
  have member : id ∈ F.preorder :=
    tree.mem_preorder.2 ⟨Nat.zero_le id, AnnotatedTree.lt_size_of_get? found⟩
  exact mirrors.remains builds id member a found element

/-- After a pass an annotation is as reading what its element was given leaves it, and so is the
element. -/
theorem read_annotateFile (keepBlanks : Bool) (fresh : s.annotations = {})
    (wellFormed : s.document.WellFormed) (distinct : s.document.NamesAttributesOnce)
    {id : AnnotatedId} {a : AnnotatedNode}
    (found : (annotateFile keepBlanks s).annotations.get? id = some a) (element : a.isText = false) :
    ∃ tag attributes, (annotateFile keepBlanks s).file.Gives s.document a.source tag attributes ∧
      (annotateFile keepBlanks s).document.tag? a.source = some tag ∧
      (Pass.readsAttributes tag a.directive? = true →
        OrderedMap.Distinct attributes.entries ∧ a.IsRead ⟨tag, attributes, a.component?.isSome⟩ ∧
        (annotateFile keepBlanks s).document.data? a.source = some (.element tag
          ((annotateFile keepBlanks s).annotations.identified id a
            (Pass.classesRead attributes)))) := by
  have bears : Pass.Bears (fun tag attributes a => a.Sheds tag attributes) s.document.bodyForest s
      (annotateFile keepBlanks s) :=
    (visits_annotateFile keepBlanks s).bears (fun sheds reading => sheds.of_reading reading)
      (fun valid data found => Pass.sheds_enter valid data found)
      (walkable_bodyForest fresh wellFormed)
  obtain ⟨tag, attributes, given, -, held⟩ :=
    remains_annotateFile keepBlanks fresh wellFormed found element
  generalize annotateFile keepBlanks s = t at *
  have isNew : s.annotations.nodes.size ≤ id := by
    rw [fresh]
    exact Nat.zero_le id
  obtain ⟨_, _, given', sheds⟩ := bears id a isNew found element
  obtain ⟨rfl, rfl⟩ := given'.unique given
  have once := given.distinct distinct
  refine ⟨tag, attributes, given.gives, Document.tag?_eq_some.2 ⟨_, held⟩, fun reads =>
    ⟨once, sheds once reads, ?_⟩⟩
  rw [held, Pass.splits_of_reads reads, if_neg Bool.false_ne_true, reads, if_pos rfl,
    Pass.attributesRead_of_distinct once]

theorem conserves_annotateFile (keepBlanks : Bool) (fresh : s.annotations = {})
    (wellFormed : s.document.WellFormed) (distinct : s.document.NamesAttributesOnce)
    {id : AnnotatedId} {a : AnnotatedNode}
    (found : (annotateFile keepBlanks s).annotations.get? id = some a) (element : a.isText = false) :
    ∃ tag attributes,
      (annotateFile keepBlanks s).file.Gives s.document a.source tag attributes ∧
      (Pass.readsAttributes tag a.directive? = true →
        (annotateFile keepBlanks s).file.Conserves id a ⟨tag, attributes, a.component?.isSome⟩) := by
  obtain ⟨tag, attributes, gives, -, read⟩ :=
    read_annotateFile keepBlanks fresh wellFormed distinct found element
  have start (attributes : Attributes)
      (data : (annotateFile keepBlanks s).document.data? a.source = some (.element tag attributes)) :=
    start_annotateFile keepBlanks fresh wellFormed found element data
  have labelled := (labelled_annotateFile keepBlanks fresh found).2
  generalize annotateFile keepBlanks s = t at *
  refine ⟨tag, attributes, gives, fun reads => ?_⟩
  obtain ⟨once, isRead, data⟩ := read reads
  refine ⟨fun tag' kept => ?_, fun entry member bound => ?_, isRead.handled⟩
  · have tagged : ((t.annotations.identified id a (Pass.classesRead attributes)).entries.filter
        fun entry => !a.stripped.contains entry.1) =
          t.annotations.startTag id a ⟨tag, attributes, a.component?.isSome⟩ := by
      simp only [isRead.stripped]
      exact AnnotatedTree.startTag_eq _ _ _ once
    have shown := start _ data tag' kept
    rwa [tagged] at shown
  · exact t.annotations.apart_of_startTag id (labelled.isGenerated_iff element).2 member bound

end ComponentMarkup
