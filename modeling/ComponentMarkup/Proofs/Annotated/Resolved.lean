import ComponentMarkup.Proofs.Annotated.Alike
import ComponentMarkup.Proofs.Annotated.Charged
import ComponentMarkup.Proofs.Annotated.Conserved
import ComponentMarkup.Proofs.Annotated.Entering
import ComponentMarkup.Proofs.Annotated.Stepwise

/-!
How elements find their components. An element whose attributes are read looks in the scope for the
component of its tag, then for the one that its `is` names. It is bound to what it finds, unless that
is flagged; when it finds none, a warning is reported if the last name it tried is a custom one.
-/

namespace ComponentMarkup
namespace Pass
variable {s t u : Pass} {id : AnnotatedId} {node : NodeId} {tag : String} {attributes : Attributes}
  {around : Surroundings} {parent : Option AnnotatedId} {entry : Entry} {F : Forest}

/-- The component of the scope that an element means. -/
def meant (s : Pass) (node : NodeId) (tag : String) : Option ComponentId :=
  s.file.scope.find? (s.componentName node tag)

/-- The warning that no component has the name under which an element looks for one. -/
def unknownAt (s : Pass) (node : NodeId) (tag : String) : Diagnostic :=
  ⟨.unknownElement (s.componentName node tag), s.file.path, s.document.position node⟩

/-! ## Passes that see an element alike -/

/-- Nothing by which the element at `node` finds its component differs between `s` and `t`. -/
structure Regards (node : NodeId) (s t : Pass) : Prop where
  basis : t.basis = s.basis
  is : t.document.attribute? node "is" = s.document.attribute? node "is"
  position : t.document.position node = s.document.position node

namespace Regards

theorem of_document (basis : t.basis = s.basis) (same : t.document = s.document) (node : NodeId) :
    Regards node s t := ⟨basis, by rw [same], by rw [same]⟩

theorem of_mapAttributes {other : NodeId} {name : String} {f : Attributes → Attributes}
    (basis : t.basis = s.basis) (others : Document.KeepsOthers name f) (apart : "is" ≠ name)
    (written : t.document = s.document.mapAttributes other f) (node : NodeId) : Regards node s t where
  basis := basis
  is := by
    rw [written]
    exact Document.attribute?_mapAttributes _ _ _ _ fun attributes => others attributes _ apart
  position := by rw [written, Document.position_mapAttributes]

theorem of_enters {directive : Option Directive} (enters : EntersAs parent node tag directive s t)
    (basis : t.basis = s.basis) (n : NodeId) : Regards n s t := by
  obtain ⟨f, others, written⟩ := enters.document
  exact .of_mapAttributes basis others (by decide) written n

theorem identify (s : Pass) (id : AnnotatedId) (node : NodeId) : Regards node s (s.identify id) := by
  have basis := (keeps_identify s id).basis
  rcases document_identify_or s id with same | ⟨other, value, written⟩
  · exact .of_document basis same node
  · exact .of_mapAttributes basis (fun attributes other apart =>
      OrderedMap.find?_insert_of_ne _ _ (Ne.symm apart)) (by decide) written node

variable (regards : Regards node s t) (tag : String)
include regards

theorem scope : t.file.scope = s.file.scope :=
  congrArg (fun basis => basis.file.scope) regards.basis

theorem componentName : t.componentName node tag = s.componentName node tag := by
  rw [Pass.componentName, regards.scope, regards.is, Pass.componentName]

theorem meant : t.meant node tag = s.meant node tag := by
  rw [Pass.meant, regards.scope, regards.componentName, Pass.meant]

theorem unknownAt : t.unknownAt node tag = s.unknownAt node tag := by
  rw [Pass.unknownAt, regards.componentName, path_of_basis regards.basis, regards.position,
    Pass.unknownAt]

end Regards

/-! ## Looking for a component -/

/-- From `s` to `t` the annotation `id` has been bound to what the element at `node` means, or it has
been reported that there is nothing of that name. -/
structure Seeks (id : AnnotatedId) (node : NodeId) (tag : String) (s t : Pass) : Prop where
  bound : t.component? id = s.basis.bound (s.meant node tag)
  told : s.meant node tag = none → Tag.isCustom (s.componentName node tag) = true →
    s.unknownAt node tag ∈ t.reports

namespace Seeks

theorem before (regards : Regards node s t) (seeks : Seeks id node tag t u) :
    Seeks id node tag s u where
  bound := by rw [seeks.bound, regards.meant, regards.basis]
  told absent custom := by
    have told := seeks.told
    rw [regards.meant, regards.componentName, regards.unknownAt] at told
    exact told absent custom

theorem after (seeks : Seeks id node tag s t) (quiet : Quiet t u)
    (reports : ∀ r ∈ t.reports, r ∈ u.reports) : Seeks id node tag s u where
  bound := by rw [quiet.bound, seeks.bound]
  told absent custom := reports _ (seeks.told absent custom)

end Seeks

theorem seeks_bindComponent {a : AnnotatedNode} (found : s.annotations.get? id = some a)
    (element : a.isText = false) (unbound : a.component? = none) (node : NodeId) (tag : String)
    (owner : Option ComponentId) : Seeks id node tag s (s.bindComponent id node tag owner) := by
  have none : s.component? id = none := by rw [component?, found, Option.bind_some, unbound]
  unfold bindComponent
  dsimp only
  split
  · next component named =>
    have meant : s.meant node tag = some component := named
    split
    · next flagged =>
      refine ⟨?_, fun absent => absurd (meant.symm.trans absent) (Option.some_ne_none _)⟩
      have isFlagged : s.basis.flagged component = true := flagged
      rw [none, meant, Basis.bound_some, if_pos isFlagged]
    · next unflagged =>
      refine ⟨?_, fun absent => absurd (meant.symm.trans absent) (Option.some_ne_none _)⟩
      have isUnflagged : ¬s.basis.flagged component = true := unflagged
      rw [component?_use, meant, Basis.bound_some, if_neg isUnflagged, component?, mapBindings,
        annotations_update, AnnotatedTree.get?_update_self _ _ found, Option.bind_some]
      cases a using AnnotatedNode.byKind with
      | text a binding => cases element
      | _ => rfl
  · next unnamed =>
    have meant : s.meant node tag = Option.none := unnamed
    have unbound' : Option.none = s.basis.bound (s.meant node tag) := by rw [meant]; rfl
    split
    · exact ⟨none.trans unbound', fun _ _ => List.mem_append_right _ List.mem_cons_self⟩
    · next standard => exact ⟨none.trans unbound', fun _ custom => absurd custom standard⟩

theorem Binds.seeks {owner : Option ComponentId} (binds : Binds parent owner node tag s t) :
    Seeks s.annotations.nodes.size node tag s t := by
  cases binds with
  | intro opened element quiet basis document later reports =>
      obtain ⟨a, found, holds⟩ := opened.here
      have unbound := quiet.unbound (Nat.le_refl _) found
      have seeks := seeks_bindComponent found (element a holds) unbound node tag owner
      exact (seeks.before (.of_document basis document node)).after later reports

/-! ## Elements that have been entered -/

/-- The annotation has what its element means when its attributes are read, and else it is unbound. -/
structure Heeds (t : Pass) (a : AnnotatedNode) (tag : String) : Prop where
  bound : a.component? =
    if readsAttributes tag a.directive? then t.basis.bound (t.meant a.source tag) else none
  told : readsAttributes tag a.directive? = true → t.meant a.source tag = none →
    Tag.isCustom (t.componentName a.source tag) = true → t.unknownAt a.source tag ∈ t.reports

namespace Heeds
variable {a a' : AnnotatedNode}

theorem of_unread (unread : readsAttributes tag a.directive? = false) (unbound : a.component? = none) :
    t.Heeds a tag := by
  refine ⟨?_, fun reads => nomatch unread.symm.trans reads⟩
  rw [unread, unbound, if_neg Bool.false_ne_true]

theorem of_seeks (seeks : Seeks id a.source tag s t) (regards : Regards a.source s t)
    (found : t.annotations.get? id = some a) (reads : readsAttributes tag a.directive? = true) :
    t.Heeds a tag := by
  have bound := seeks.bound
  have told := seeks.told
  rw [component?, found, Option.bind_some] at bound
  rw [← regards.meant, ← regards.componentName, ← regards.unknownAt] at told
  refine ⟨?_, fun _ => told⟩
  rw [bound, reads, if_pos rfl, regards.meant, regards.basis]

theorem reads {c : ComponentId} (heeds : t.Heeds a tag) (bound : a.component? = some c) :
    readsAttributes tag a.directive? = true := by
  by_contra unread
  rw [heeds.bound, if_neg unread] at bound
  cases bound

/-- What comes later leaves the annotation as it is and takes no report back. -/
theorem later (heeds : t.Heeds a tag) (source : a'.source = a.source)
    (directive : a'.directive? = a.directive?) (component : a'.component? = a.component?)
    (regards : Regards a.source t u) (reports : ∀ r ∈ t.reports, r ∈ u.reports) :
    u.Heeds a' tag where
  bound := by
    rw [component, heeds.bound, source, directive, regards.meant, regards.basis]
  told := by
    rw [source, directive, regards.meant, regards.componentName, regards.unknownAt]
    exact fun reads absent custom => reports _ (heeds.told reads absent custom)

end Heeds

/-- From `s` to `t` nothing reported was taken back, and every element that was annotated has what it
means. -/
structure Heeded (s t : Pass) : Prop where
  reports : ∀ r ∈ s.reports, r ∈ t.reports
  new : ∀ id a tag, s.annotations.nodes.size ≤ id → t.annotations.get? id = some a →
    a.isText = false → t.document.tag? a.source = some tag → t.Heeds a tag

theorem Heeded.of_same (reports : ∀ r ∈ s.reports, r ∈ t.reports)
    (size : t.annotations.nodes.size = s.annotations.nodes.size) : Heeded s t where
  reports := reports
  new _ _ _ isNew found :=
    absurd (AnnotatedTree.lt_size_of_get? found) (Nat.not_lt_of_ge (size ▸ isNew))

theorem Heeded.trans (first : Heeded s t) (second : Heeded t u)
    (grows : t.annotations.Grows parent F u.annotations) (basis : u.basis = t.basis)
    (kept : KeepsSources s t u) : Heeded s u where
  reports r member := second.reports r (first.reports r member)
  new id a' tag isNew found' element tagged := by
    by_cases old : id < t.annotations.nodes.size
    · obtain ⟨a, found⟩ := AnnotatedTree.get?_isSome old
      obtain ⟨b, there, core⟩ := grows.core found
      obtain rfl := Option.some.inj (there.symm.trans found')
      have source := AnnotatedNode.source_of_core core
      have isElement : a.isText = false := (AnnotatedNode.isText_of_core core).symm.trans element
      have same := kept id a isNew found isElement
      have data := Document.data?_congr same
      rw [source, Document.tag?_congr data] at tagged
      refine (first.new id a tag isNew found isElement tagged).later source
        (AnnotatedNode.directive?_of_core core) (AnnotatedNode.component?_of_core core)
        ⟨basis, Document.attribute?_congr data "is", ?_⟩ second.reports
      rw [Document.position, same, Document.position]
    · exact second.new id a' tag (Nat.le_of_not_lt old) found' element tagged

theorem Heeded.identify (heeded : Heeded s t) (id : AnnotatedId) : Heeded s (t.identify id) where
  reports := by
    rw [reports_identify]
    exact heeded.reports
  new n b tag isNew found element tagged := by
    obtain ⟨a, query, identifier, found', rfl, -⟩ := get?_of_identify found
    have regards := Regards.identify t id a.source
    have tagged' : t.document.tag? a.source = some tag := by
      rcases document_identify_or t id with same | ⟨node, value, written⟩
      · rwa [same] at tagged
      · rw [written] at tagged
        exact (Document.tag?_mapAttributes ..).symm.trans tagged
    refine (heeded.new n a tag isNew found' element tagged').later rfl rfl rfl regards ?_
    rw [reports_identify]
    exact fun _ member => member

/-! ## Entering an element -/

theorem EntersAs.heeds {directive : Option Directive} (enters : EntersAs parent node tag directive s t)
    (element : s.document.tag? node = some tag) (basis : t.basis = s.basis)
    (reads : readsAttributes tag directive = true)
    (seeks : Seeks s.annotations.nodes.size node tag s t) {a : AnnotatedNode} {tag' : String}
    (found : t.annotations.get? s.annotations.nodes.size = some a)
    (tagged : t.document.tag? a.source = some tag') : t.Heeds a tag' := by
  obtain ⟨b, here, leaf⟩ := enters.tree.here
  obtain rfl := Option.some.inj (found.symm.trans here)
  obtain ⟨f, -, written⟩ := enters.document
  rw [leaf.source, written, Document.tag?_mapAttributes, element] at tagged
  obtain rfl := Option.some.inj tagged
  refine .of_seeks ?_ (.of_enters enters basis a.source) found (by rw [leaf.directive?, reads])
  rw [leaf.source]
  exact seeks

section Entering
variable (valid : ∀ q ∈ around.parent, q < s.annotations.nodes.size)
  (element : s.document.tag? node = some tag)
include valid element

/-- An element without a directive is heeded, also when its host is then linked to it. -/
theorem heeds_enterPlain {host : AnnotatedId} (older : host < s.annotations.nodes.size)
    (content : Option AnnotatedId) {a : AnnotatedNode} {tag' : String}
    (found : ((s.enterPlain around node tag).1.update host (·.withContent content)).annotations.get?
      s.annotations.nodes.size = some a)
    (tagged : ((s.enterPlain around node tag).1.update host
      (·.withContent content)).document.tag? a.source = some tag') :
    ((s.enterPlain around node tag).1.update host (·.withContent content)).Heeds a tag' := by
  have enters := (entersAs_enterPlain node tag valid).1.link older content
  have basis := (makes_enterPlain s around node tag).basis
  have seeks := (binds_enterPlain node tag valid).seeks
  generalize (s.enterPlain around node tag).1 = t at *
  have blind (a : AnnotatedNode) : (a.withContent content).component? = a.component? := by
    cases a using AnnotatedNode.byKind <;> rfl
  exact enters.heeds element basis rfl (seeks.after (.update t host blind) fun _ member => member)
    found tagged

theorem heeds_enterConditional {condition : String} {a : AnnotatedNode} {tag' : String}
    (isNew : s.annotations.nodes.size ≤ id)
    (found : (s.enterConditional around node tag condition).1.annotations.get? id = some a)
    (tagged : (s.enterConditional around node tag condition).1.document.tag? a.source = some tag') :
    (s.enterConditional around node tag condition).1.Heeds a tag' := by
  have size := s.size_hosted around node condition
  rcases Nat.eq_or_lt_of_le isNew with rfl | later
  -- The host of a condition is not read, whether it is split or not.
  · obtain ⟨h, hosted, leaf⟩ := (entersAs_hosted valid node tag condition).tree.here
    have unbound := (quiet_hosted s around node condition).unbound (Nat.le_refl _) hosted
    obtain ⟨h', here, core⟩ := exists_core_host node tag hosted
    obtain rfl := Option.some.inj (here.symm.trans found)
    refine .of_unread ?_ ((AnnotatedNode.component?_of_core core).trans unbound)
    rw [AnnotatedNode.directive?_of_core core, leaf.directive?]
    rfl
  · have inside := AnnotatedTree.lt_size_of_get? found
    have notTemplate : tag ≠ "template" := by
      intro template
      rw [enterConditional_of_template s around node condition template, size] at inside
      exact Nat.not_le_of_gt inside later
    obtain ⟨divided, inner, content, annotations, document, valid', divides⟩ :=
      enterConditional_of_split s around node condition notTemplate
    have element' : divided.document.tag? (splitContent s.document node).1 = some tag := by
      obtain ⟨attributes, data⟩ := Document.tag?_eq_some.1 element
      rw [document, fst_splitContent element]
      exact Document.tag?_eq_some.2 ⟨_, data?_splitContent_made data⟩
    rw [divides] at found tagged inside ⊢
    rw [← annotations] at size
    have older : s.annotations.nodes.size < divided.annotations.nodes.size := by
      rw [size]
      exact Nat.lt_succ_self _
    have grown := (entersAs_enterPlain (splitContent s.document node).1 tag valid').1.size
    rw [annotations_update, AnnotatedTree.size_update, grown] at inside
    obtain rfl : id = divided.annotations.nodes.size :=
      Nat.le_antisymm (Nat.le_of_lt_succ inside) (size ▸ later)
    exact heeds_enterPlain valid' element' older content found tagged

theorem heeded_enter (found : s.enter around node tag = (t, some entry)) : Heeded s t := by
  refine ⟨(linked_enter valid found).reports, fun id a tag' isNew here _ tagged => ?_⟩
  unfold enter at found
  split at found
  · cases found
  · obtain ⟨reports, same⟩ := foldl_report s node (Plan.read s.document node tag).1
    dsimp only at found
    rw [same] at found
    have valid' : ∀ q ∈ around.parent, q < ({ s with reports } : Pass).annotations.nodes.size := valid
    have element' : ({ s with reports } : Pass).document.tag? node = some tag := element
    have isNew' : ({ s with reports } : Pass).annotations.nodes.size ≤ id := isNew
    generalize ({ s with reports } : Pass) = reported at *
    have whole {u : Pass} (size : u.annotations.nodes.size = reported.annotations.nodes.size + 1)
        (here : u.annotations.get? id = some a) : id = reported.annotations.nodes.size := by
      have inside := AnnotatedTree.lt_size_of_get? here
      rw [size] at inside
      exact Nat.le_antisymm (Nat.le_of_lt_succ inside) isNew'
    split at found
    · cases found
    · obtain ⟨rfl, -⟩ := Prod.mk.inj found
      have enters := (entersAs_enterPlain node tag valid').1
      obtain rfl := whole enters.size here
      exact enters.heeds element' (makes_enterPlain _ _ _ _).basis rfl
        (binds_enterPlain node tag valid').seeks here tagged
    · next condition _ =>
      obtain ⟨rfl, -⟩ := Prod.mk.inj found
      exact heeds_enterConditional valid' element' isNew' here tagged
    · next variableName items _ =>
      obtain ⟨rfl, -⟩ := Prod.mk.inj found
      have enters := (entersAs_enterIteration node tag valid' variableName items).1
      obtain rfl := whole enters.size here
      by_cases template : tag = "template"
      · subst template
        obtain ⟨b, here', leaf⟩ := enters.tree.here
        obtain rfl := Option.some.inj (here.symm.trans here')
        obtain ⟨f, -, written⟩ := enters.document
        rw [leaf.source, written, Document.tag?_mapAttributes, element'] at tagged
        obtain rfl := Option.some.inj tagged
        refine .of_unread (by rw [leaf.directive?]; rfl) ?_
        exact (quiet_enterIteration_template _ _ _ _ _).unbound isNew' here
      · exact enters.heeds element' (makes_enterIteration _ _ _ _ _ _).basis (bne_iff_ne.2 template)
          (binds_enterIteration node tag valid' template variableName items).seeks here tagged

end Entering

theorem stepwise_heeded : Stepwise Heeded where
  refl s := .of_same (fun _ member => member) rfl
  text {s around} node contents valid := by
    refine ⟨fun r member => by rwa [reports_visitText], fun id a _ isNew found element => ?_⟩
    have text := ((shows_visitText s around node contents valid).new id a isNew found).isText
    exact nomatch text.symm.trans element
  left {s around node tag} made := by
    have left : s.enter around node tag = ((s.enter around node tag).1, none) := Prod.ext rfl made
    rcases left_of_enter left with ⟨-, same⟩ | ⟨-, same⟩
    · rw [same]
      exact .of_same (fun _ member => member) rfl
    · rw [same]
      exact .of_same (fun _ member => List.mem_append_left _ member) rfl
  enter valid data found := heeded_enter valid (Document.tag?_eq_some.2 ⟨_, data⟩) found
  identify id heeded := heeded.identify id
  trans first second _ grows basis kept := first.trans second grows basis kept

end Pass

/-! ## Files -/

/-- The component that an element means, with the name under which it is in scope: its tag, or when
that is not in scope, what its `is` names. -/
inductive SourceFile.Means (file : SourceFile) (tag : String) (attributes : Attributes) :
    String → ComponentId → Prop
  | tag {c : ComponentId} (found : file.scope.find? tag = some c) : Means file tag attributes tag c
  | is {value : String} {c : ComponentId} (absent : file.scope.find? tag = none)
      (given : attributes.find? "is" = some value)
      (found : file.scope.find? (Text.lowered (Text.trimmed value)) = some c) :
      Means file tag attributes (Text.lowered (Text.trimmed value)) c

/-- The last name that an element tries when nothing it may mean is in scope. -/
inductive SourceFile.Misses (file : SourceFile) (tag : String) (attributes : Attributes) :
    String → Prop
  | tag (absent : file.scope.find? tag = none) (plain : attributes.find? "is" = none) :
      Misses file tag attributes tag
  | is {value : String} (absent : file.scope.find? tag = none)
      (given : attributes.find? "is" = some value)
      (missing : file.scope.find? (Text.lowered (Text.trimmed value)) = none) :
      Misses file tag attributes (Text.lowered (Text.trimmed value))

namespace Pass
variable {s : Pass} {node : NodeId} {tag : String} {attributes : Attributes}

theorem means_or_misses (is : s.document.attribute? node "is" = attributes.find? "is") (tag : String) :
    (∃ c, s.meant node tag = some c ∧ s.file.Means tag attributes (s.componentName node tag) c) ∨
      s.meant node tag = none ∧ s.file.Misses tag attributes (s.componentName node tag) := by
  unfold meant componentName
  rw [is, OrderedMap.contains]
  cases own : s.file.scope.find? tag with
  | some c =>
      rw [Option.isSome_some, if_pos rfl, own]
      exact .inl ⟨c, rfl, .tag own⟩
  | none =>
      rw [Option.isSome_none, if_neg Bool.false_ne_true]
      cases given : attributes.find? "is" with
      | none =>
          dsimp only
          exact .inr ⟨own, .tag own given⟩
      | some value =>
          dsimp only
          cases found : s.file.scope.find? (Text.lowered (Text.trimmed value)) with
          | none => exact .inr ⟨rfl, .is own given found⟩
          | some c => exact .inl ⟨c, rfl, .is own given found⟩

end Pass

variable {s : Pass}

/-- After a pass every element that was annotated has what it means, going by what it was given. -/
theorem heeds_annotateFile (keepBlanks : Bool) (fresh : s.annotations = {})
    (wellFormed : s.document.WellFormed) {id : AnnotatedId} {a : AnnotatedNode}
    (found : (annotateFile keepBlanks s).annotations.get? id = some a) (element : a.isText = false) :
    ∃ tag attributes, (annotateFile keepBlanks s).file.Gives s.document a.source tag attributes ∧
      (annotateFile keepBlanks s).Heeds a tag ∧
      (Pass.readsAttributes tag a.directive? = true →
        (annotateFile keepBlanks s).document.attribute? a.source "is" = attributes.find? "is") := by
  have heeded : Pass.Heeded s (s.visitForest s.document.bodyForest { keepBlanks }) :=
    Pass.stepwise_heeded.visitForest (walkable_bodyForest fresh wellFormed)
  rw [← annotateFile_eq] at heeded
  obtain ⟨tag, attributes, given, -, data⟩ :=
    remains_annotateFile keepBlanks fresh wellFormed found element
  generalize annotateFile keepBlanks s = t at *
  have isNew : s.annotations.nodes.size ≤ id := by
    rw [fresh]
    exact Nat.zero_le id
  refine ⟨tag, attributes, given.gives,
    heeded.new id a tag isNew found element (Document.tag?_eq_some.2 ⟨_, data⟩), fun reads => ?_⟩
  rw [Document.attribute?, Document.attributes?, data]
  dsimp only
  rw [Option.bind_some, AnnotatedTree.find?_identified_of_ne (by decide), Pass.splits_of_reads reads,
    if_neg Bool.false_ne_true, reads, if_pos rfl, Pass.find?_attributesRead_of_ne (by decide)]

end ComponentMarkup
