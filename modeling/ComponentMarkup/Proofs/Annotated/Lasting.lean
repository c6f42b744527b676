import ComponentMarkup.Proofs.Annotated.Growth
import ComponentMarkup.Proofs.Annotated.Marks
import ComponentMarkup.Proofs.Annotated.Reading

/-!
What a walk leaves as it was: the annotations made before it, but for those on the line that it
hangs below, and the problems reported before it.
-/

namespace ComponentMarkup

namespace AnnotatedNode

/-- The annotation of the element that was split off the source. -/
def content? (a : AnnotatedNode) : Option AnnotatedId :=
  match a.kind with
  | .structural _ _ content => content
  | _ => none

variable {a a' : AnnotatedNode}

theorem content?_of_outline (same : a'.outline = a.outline) : a'.content? = a.content? := by
  have blind (b : AnnotatedNode) : b.outline.content? = b.content? := by
    cases b using byKind <;> rfl
  rw [← blind a', same, blind]

theorem content?_mapBindings (f : Bindings → Bindings) (a : AnnotatedNode) :
    (a.mapBindings f).content? = a.content? := by
  cases a using byKind <;> rfl

/-- A core lacks the link to the element that was split off, the children and the flags. -/
theorem eq_of_core_of_content? (core : a'.core = a.core) (content : a'.content? = a.content?)
    (children : a'.children = a.children) (binding : a'.hasDataBinding = a.hasDataBinding)
    (builds : a'.buildsChildren = a.buildsChildren) (query : a'.hasQuery = a.hasQuery) : a' = a := by
  have kind := withoutContent_of_core core
  have source := source_of_core core
  have parent := parent_of_core core
  have identifier := identifier_of_core core
  have root := isRoot_of_core core
  have stripped := stripped_of_core core
  have same : a'.kind = a.kind := by
    cases a using byKind <;> cases a' using byKind <;>
      simp_all [AnnotatedKind.withoutContent, content?]
  cases a
  cases a'
  simp_all

end AnnotatedNode

namespace AnnotatedTree

def content? (t : AnnotatedTree) (id : AnnotatedId) : Option AnnotatedId :=
  (t.get? id).bind AnnotatedNode.content?

variable {t u : AnnotatedTree} {id n : AnnotatedId} {parent : Option AnnotatedId} {F : Forest}

theorem content?_eq {a : AnnotatedNode} (found : t.get? id = some a) :
    t.content? id = a.content? := by
  rw [content?, found, Option.bind_some]

theorem content?_congr (same : u.get? n = t.get? n) : u.content? n = t.content? n := by
  rw [content?, content?, same]

theorem content?_update {f : AnnotatedNode → AnnotatedNode}
    (same : ∀ a, (f a).content? = a.content?) : (t.update id f).content? n = t.content? n := by
  rw [content?, content?, get?_update]
  split
  · cases t.get? n with
    | none => rfl
    | some a => exact same a
  · rfl

theorem content?_add (source : NodeId) (kind : AnnotatedKind) (old : n < t.nodes.size) :
    (t.add source parent kind).2.content? n = t.content? n := by
  have mapped := t.map_add AnnotatedNode.content? (fun _ _ => rfl) source parent kind n
  rw [if_neg (Nat.ne_of_lt old)] at mapped
  have joined (found : Option AnnotatedNode) :
      found.bind AnnotatedNode.content? = (found.map AnnotatedNode.content?).join := by
    cases found <;> rfl
  rw [content?, content?, joined, joined, mapped]

theorem not_mem_line {bound : Nat} (valid : ∀ q ∈ parent, q < bound) (isNew : bound ≤ id) :
    id ∉ t.line parent := by
  cases parent with
  | none => exact List.not_mem_nil
  | some q =>
      have below : q < id := Nat.lt_of_lt_of_le (valid q rfl) isNew
      rw [line, List.mem_cons, not_or]
      exact ⟨Nat.ne_of_gt below, fun member => Nat.lt_asymm below (lt_of_mem_ancestors member)⟩

/-- What grows below a line leaves an annotation off the line as it was, down to the link to the
element that was split off. -/
theorem Grows.get?_off (grows : Grows parent F t u) (content : u.content? id = t.content? id)
    (inside : id < t.nodes.size) (off : id ∉ t.line parent) : u.get? id = t.get? id := by
  obtain ⟨a, found⟩ := get?_isSome inside
  obtain ⟨a', found', extended, query⟩ := grows.old id a found
  have other : parent ≠ some id := by
    rintro rfl
    exact off List.mem_cons_self
  rw [if_neg other] at extended
  rw [content?_eq found', content?_eq found] at content
  rw [found, found']
  refine congrArg some (AnnotatedNode.eq_of_core_of_content? extended.core content ?_ ?_ ?_
    (query off))
  · rw [extended.children, List.append_nil]
  · rw [extended.hasDataBinding, List.any_nil, Bool.or_false]
  · rw [extended.buildsChildren, List.any_nil, Bool.or_false]

end AnnotatedTree

namespace Pass
variable {s t u : Pass} {id n : AnnotatedId} {node : NodeId} {tag : String}

/-! ## Steps at one annotation -/

/-- From `s` to `t` only the annotation `id` changes, and not its link to the element that was split
off; what was reported stays reported. -/
structure Focused (id : AnnotatedId) (s t : Pass) : Prop where
  elsewhere : ∀ n, n ≠ id → t.annotations.get? n = s.annotations.get? n
  content : t.annotations.content? id = s.annotations.content? id
  reports : ∀ r ∈ s.reports, r ∈ t.reports

namespace Focused

theorem refl (id : AnnotatedId) (s : Pass) : Focused id s s :=
  ⟨fun _ _ => rfl, rfl, fun _ member => member⟩

theorem trans (first : Focused id s t) (second : Focused id t u) : Focused id s u where
  elsewhere n other := (second.elsewhere n other).trans (first.elsewhere n other)
  content := second.content.trans first.content
  reports r member := second.reports r (first.reports r member)

theorem update {f : AnnotatedNode → AnnotatedNode} (s : Pass) (id : AnnotatedId)
    (same : ∀ a, (f a).content? = a.content?) : Focused id s (s.update id f) where
  elsewhere _ other := s.annotations.get?_update_of_ne f other
  content := AnnotatedTree.content?_update same
  reports _ member := member

theorem report (id : AnnotatedId) (s : Pass) (problem : Problem) (node : NodeId) :
    Focused id s (s.report problem node) where
  elsewhere _ _ := rfl
  content := rfl
  reports _ member := List.mem_append_left _ member

theorem content?_old (focused : Focused id s t) (n : AnnotatedId) :
    t.annotations.content? n = s.annotations.content? n := by
  by_cases same : n = id
  · rw [same, focused.content]
  · exact AnnotatedTree.content?_congr (focused.elsewhere n same)

end Focused

theorem Edits.focused (edits : Edits id node s t) : Focused id s t := by
  induction edits with
  | refl => exact .refl id s
  | report _ problem ih => exact ih.trans (.report id _ problem node)
  | strip _ name ih => exact ih.trans (.update _ id fun _ => rfl)
  | bind _ name binding ih =>
      exact ih.trans (.update _ id fun a =>
        AnnotatedNode.content?_of_outline ((AnnotatedNode.Revision.bind name binding).outline a))
  | handle _ event action ih =>
      exact ih.trans (.update _ id fun a => AnnotatedNode.content?_mapBindings _ a)
  | setClass _ value ih => exact ⟨ih.elsewhere, ih.content, ih.reports⟩
  | dropClass _ ih => exact ⟨ih.elsewhere, ih.content, ih.reports⟩

theorem focused_bindComponent (s : Pass) (id : AnnotatedId) (node : NodeId) (tag : String)
    (owner : Option ComponentId) : Focused id s (s.bindComponent id node tag owner) := by
  unfold bindComponent
  dsimp only
  split
  · split
    · exact .refl id s
    · next component _ _ =>
      have bound := Focused.update s id
        (AnnotatedNode.content?_mapBindings fun b => { b with component := some component })
      cases owner <;> exact ⟨bound.elsewhere, bound.content, bound.reports⟩
  · split
    · exact .report id s _ node
    · exact .refl id s

theorem focused_takeOverChildren (s : Pass) (id : AnnotatedId) :
    Focused id s (s.takeOverChildren id) :=
  .update s id fun _ => rfl

/-! ## Entering -/

theorem content?_annotate_old (s : Pass) (node : NodeId) (parent : Option AnnotatedId)
    (kind : AnnotatedKind) (old : n < s.annotations.nodes.size) :
    (s.annotate node parent kind).2.annotations.content? n = s.annotations.content? n := by
  rw [annotations_annotate]
  exact AnnotatedTree.content?_add node kind old

theorem content?_annotate_new {parent : Option AnnotatedId}
    (valid : ∀ q ∈ parent, q < s.annotations.nodes.size) (node : NodeId) (kind : AnnotatedKind) :
    (s.annotate node parent kind).2.annotations.content? s.annotations.nodes.size =
      AnnotatedNode.content? { source := node, parent, kind } := by
  rw [annotations_annotate]
  exact AnnotatedTree.content?_eq (s.annotations.get?_add_self node parent kind valid)

theorem focused_enterPlain (s : Pass) (around : Surroundings) (node : NodeId) (tag : String) :
    Focused s.annotations.nodes.size (s.annotate node around.parent (.element {})).2
      (s.enterPlain around node tag).1 := by
  unfold enterPlain
  rw [annotate_eq]
  dsimp only
  generalize (s.annotate node around.parent (.element {})).2 = made
  generalize marked_eq : (if tag = "body" || made.isTemplateOf around.owner node then
    made.markRoot s.annotations.nodes.size else made) = marked
  have marks : Focused s.annotations.nodes.size made marked := by
    subst marked_eq
    split
    · exact .update made _ fun _ => rfl
    · exact .refl _ made
  have bound := marks.trans (marked.focused_bindComponent s.annotations.nodes.size node tag
    around.owner)
  have read := bound.trans ((Edits.refl.bindAttributes : Edits s.annotations.nodes.size node
    (marked.bindComponent s.annotations.nodes.size node tag around.owner) _).readIndentation
      around.keepBlanks).focused
  split
  · exact read.trans (focused_takeOverChildren _ _)
  · exact read

theorem focused_enterIteration (s : Pass) (around : Surroundings) (node : NodeId)
    (tag variableName items : String) : Focused s.annotations.nodes.size
      (s.annotate node around.parent (.structural (.iteration variableName items) {} none)).2
      (s.enterIteration around node tag variableName items).1 := by
  unfold enterIteration
  rw [annotateStructural_eq]
  dsimp only
  generalize (s.annotate node around.parent (.structural (.iteration variableName items) {} none)).2 =
    made
  have builds : Focused s.annotations.nodes.size made
      (made.update s.annotations.nodes.size fun a => { a with buildsChildren := true }) :=
    .update made _ fun _ => rfl
  generalize made.update s.annotations.nodes.size (fun a => { a with buildsChildren := true }) =
    start at *
  have stripped := builds.trans
    ((Edits.refl : Edits s.annotations.nodes.size node start _).strip "iterate").focused
  generalize hosted_eq : (if tag = "template" then start.strip s.annotations.nodes.size "iterate"
    else _) = hosted
  have hosts : Focused s.annotations.nodes.size made hosted := by
    subst hosted_eq
    split
    · exact stripped
    · exact ((stripped.trans ((Edits.refl : Edits s.annotations.nodes.size node _ _).stripPresent
        ["template"]).focused).trans (focused_bindComponent _ _ node tag around.owner)).trans
          (Edits.refl.bindAttributes : Edits s.annotations.nodes.size node _ _).focused
  exact hosts.trans ((Edits.refl : Edits s.annotations.nodes.size node hosted _).readIndentation
    around.keepBlanks).focused

/-- What entering an element leaves of the links to elements that were split off, and of what was
reported. -/
structure Linked (opened : List AnnotatedId) (s t : Pass) : Prop where
  old : ∀ n < s.annotations.nodes.size, t.annotations.content? n = s.annotations.content? n
  reports : ∀ r ∈ s.reports, r ∈ t.reports
  whole : opened = [s.annotations.nodes.size] →
    t.annotations.content? s.annotations.nodes.size = none
  split : opened = [s.annotations.nodes.size + 1, s.annotations.nodes.size] →
    t.annotations.content? s.annotations.nodes.size = some (s.annotations.nodes.size + 1) ∧
      t.annotations.content? (s.annotations.nodes.size + 1) = none

theorem Linked.of_focused {parent : Option AnnotatedId} {kind : AnnotatedKind}
    {opened : List AnnotatedId} (valid : ∀ q ∈ parent, q < s.annotations.nodes.size)
    (unlinked : AnnotatedNode.content? { source := node, parent, kind } = none)
    (single : opened = [s.annotations.nodes.size])
    (focused : Focused s.annotations.nodes.size (s.annotate node parent kind).2 t) :
    Linked opened s t where
  old n old := (focused.content?_old n).trans (s.content?_annotate_old node parent kind old)
  reports := focused.reports
  whole _ := (focused.content?_old _).trans ((content?_annotate_new valid node kind).trans unlinked)
  split double := by
    have lengths := congrArg List.length (single.symm.trans double)
    simp at lengths

theorem isStructural_of_edits {a : AnnotatedNode} (edits : Edits id node s t)
    (found : s.annotations.get? id = some a) (structural : a.isStructural = true) :
    ∃ b, t.annotations.get? id = some b ∧ b.isStructural = true := by
  obtain ⟨g, f, reports, revision, -, rfl⟩ := edits.exists_update
  refine ⟨g a, s.annotations.get?_update_self g found, ?_⟩
  rw [AnnotatedNode.isStructural_eq, revision.directive?, ← AnnotatedNode.isStructural_eq,
    structural]

theorem content?_withContent {a : AnnotatedNode} (found : s.annotations.get? id = some a)
    (structural : a.isStructural = true) (content : Option AnnotatedId) :
    (s.update id (·.withContent content)).annotations.content? id = content := by
  rw [annotations_update, AnnotatedTree.content?_eq (AnnotatedTree.get?_update_self _ _ found)]
  cases a using AnnotatedNode.byKind with
  | structural a directive bindings content => rfl
  | element a bindings => cases structural
  | text a binding => cases structural

theorem linked_enterConditional {around : Surroundings} (node : NodeId) (tag : String)
    (valid : ∀ q ∈ around.parent, q < s.annotations.nodes.size) (condition : String) :
    Linked (s.enterConditional around node tag condition).2.opened s
      (s.enterConditional around node tag condition).1 := by
  have entered := s.enterConditional_eq around node condition tag
  have edits := s.hosted_edits around node condition
  have size := s.size_hosted around node condition
  generalize s.hosted around node condition = host at *
  have starts : Focused s.annotations.nodes.size
      (s.annotate node around.parent (.structural (.conditional condition) {} none)).2
      ((s.annotate node around.parent (.structural (.conditional condition) {} none)).2.update
        s.annotations.nodes.size fun a => { a with buildsChildren := true }) :=
    .update _ _ fun _ => rfl
  have made := starts.trans edits.focused
  have single := s.annotations.get?_add_self node around.parent
    (.structural (.conditional condition) {} none) valid
  obtain ⟨a, found, structural⟩ :=
    isStructural_of_edits edits (AnnotatedTree.get?_update_self _ _ single) rfl
  rw [entered]
  dsimp only
  split
  · exact .of_focused valid rfl rfl made
  -- The host was made before the element below it, and is linked to it when that has been entered.
  · have linked : Linked [s.annotations.nodes.size] s host := .of_focused valid rfl rfl made
    generalize splitContent s.document node = divided
    have size' : (host.mapDocument fun _ => divided.2).annotations.nodes.size =
        s.annotations.nodes.size + 1 := size
    have valid' : ∀ q ∈ some s.annotations.nodes.size,
        q < (host.mapDocument fun _ => divided.2).annotations.nodes.size := by
      intro q isHost
      rw [← Option.some.inj isHost, size']
      exact Nat.lt_succ_self _
    have plain := focused_enterPlain (host.mapDocument fun _ => divided.2)
      { around with
        parent := some s.annotations.nodes.size
        keepBlanks := s.document.keepsBlanks node around.keepBlanks } divided.1 tag
    have opened := (@entersAs_enterPlain _
      { around with
        parent := some s.annotations.nodes.size
        keepBlanks := s.document.keepsBlanks node around.keepBlanks } divided.1 tag valid').2.1
    generalize (host.mapDocument fun _ => divided.2).enterPlain _ divided.1 tag = content at *
    obtain ⟨content, entry⟩ := content
    dsimp only at *
    rw [opened, size']
    rw [size'] at plain
    have below : Linked [s.annotations.nodes.size + 1] (host.mapDocument fun _ => divided.2) content :=
      .of_focused valid' rfl (by rw [size']) (size'.symm ▸ plain)
    have older := Nat.lt_succ_self s.annotations.nodes.size
    have stays : ∃ b, content.annotations.get? s.annotations.nodes.size = some b ∧
        b.isStructural = true := by
      have kept := plain.elsewhere _ (Nat.ne_of_lt older)
      rw [annotations_annotate, annotations_mapDocument,
        AnnotatedTree.get?_add_of_lt _ _ _ _ found, if_pos rfl] at kept
      exact ⟨_, kept, structural⟩
    obtain ⟨b, foundHost, structural'⟩ := stays
    have elsewhere (n : AnnotatedId) (other : n ≠ s.annotations.nodes.size) :
        (content.update s.annotations.nodes.size
          (·.withContent [s.annotations.nodes.size + 1].head?)).annotations.content? n =
          content.annotations.content? n :=
      AnnotatedTree.content?_congr (AnnotatedTree.get?_update_of_ne _ _ other)
    refine ⟨fun n old => ?_, fun r member => ?_, fun impossible => ?_, fun _ => ⟨?_, ?_⟩⟩
    · rw [elsewhere n (Nat.ne_of_lt old), below.old n (size' ▸ Nat.lt_succ_of_lt old)]
      exact linked.old n old
    · exact below.reports r (linked.reports r member)
    · have lengths := congrArg List.length impossible
      simp at lengths
    · exact content?_withContent foundHost structural' _
    · have unlinked := below.whole (by rw [size'])
      rw [size'] at unlinked
      rw [elsewhere _ (Nat.ne_of_gt older), unlinked]

/-- The problems found on an element, as they are reported. -/
def problemsAt (s : Pass) (node : NodeId) (tag : String) : Diagnostics :=
  (Plan.read s.document node tag).1.map fun problem =>
    ⟨problem, s.file.path, s.document.position node⟩

theorem foldl_report_eq (s : Pass) (node : NodeId) (problems : List Problem) :
    problems.foldl (fun s problem => s.report problem node) s =
      { s with
        reports := s.reports ++
          problems.map fun problem => ⟨problem, s.file.path, s.document.position node⟩ } := by
  induction problems generalizing s with
  | nil => rw [List.foldl_nil, List.map_nil, List.append_nil]
  | cons problem problems ih =>
      rw [List.foldl_cons, ih, report]
      simp only [List.map_cons, List.append_assoc, List.singleton_append]
      rfl

theorem Linked.of_reports {opened : List AnnotatedId} {more : Diagnostics}
    (linked : Linked opened { s with reports := s.reports ++ more } t) : Linked opened s t :=
  ⟨linked.old, fun r member => linked.reports r (List.mem_append_left _ member), linked.whole,
    linked.split⟩

theorem linked_enter {around : Surroundings} {entry : Entry}
    (valid : ∀ q ∈ around.parent, q < s.annotations.nodes.size)
    (found : s.enter around node tag = (t, some entry)) : Linked entry.opened s t := by
  unfold enter at found
  split at found
  · cases found
  · dsimp only at found
    rw [foldl_report_eq] at found
    suffices linked : Linked entry.opened { s with reports := s.reports ++ s.problemsAt node tag } t
      from linked.of_reports
    rw [← problemsAt] at found
    generalize reported_eq : ({ s with reports := s.reports ++ s.problemsAt node tag } : Pass) =
      reported at *
    have valid' : ∀ q ∈ around.parent, q < reported.annotations.nodes.size := by
      subst reported_eq
      exact valid
    split at found
    · cases found
    · obtain ⟨rfl, isEntry⟩ := Prod.mk.inj found
      obtain rfl := Option.some.inj isEntry
      refine .of_focused valid' rfl ?_ (focused_enterPlain _ _ _ _)
      exact (entersAs_enterPlain node tag valid').2.1
    · obtain ⟨rfl, isEntry⟩ := Prod.mk.inj found
      obtain rfl := Option.some.inj isEntry
      exact linked_enterConditional node tag valid' _
    · obtain ⟨rfl, isEntry⟩ := Prod.mk.inj found
      obtain rfl := Option.some.inj isEntry
      refine .of_focused valid' rfl ?_ (focused_enterIteration _ _ _ _ _ _)
      exact (entersAs_enterIteration node tag valid' _ _).2.1

/-! ## Walks -/

theorem content?_identify (s : Pass) (id n : AnnotatedId) :
    (s.identify id).annotations.content? n = s.annotations.content? n :=
  apply_get?_identify (·.bind AnnotatedNode.content?) (fun _ _ _ => rfl) s id n

theorem content?_foldl_identify (s : Pass) (ids : List AnnotatedId) (n : AnnotatedId) :
    (ids.foldl identify s).annotations.content? n = s.annotations.content? n := by
  induction ids generalizing s with
  | nil => rfl
  | cons id ids ih => rw [List.foldl_cons, ih, content?_identify]

theorem content?_visitText (s : Pass) (around : Surroundings) (text : String)
    (old : n < s.annotations.nodes.size) :
    (s.visitText around node text).annotations.content? n = s.annotations.content? n := by
  have kept {parent : AnnotatedId} {s t : Pass} (pieces : Pieces parent s t)
      (old : n < s.annotations.nodes.size) :
      t.annotations.content? n = s.annotations.content? n := by
    induction pieces with
    | refl => rfl
    | @literal t pieces contents position ih =>
        refine (content?_annotate_old _ _ _ _ ?_).trans ih
        exact Nat.lt_of_lt_of_le old pieces.size_le
    | @placeholder t pieces position expr ih =>
        rw [annotations_addPlaceholder, AnnotatedTree.content?_update,
          AnnotatedTree.content?_add _ _ (Nat.lt_of_lt_of_le old pieces.size_le), ih]
        exact fun _ => rfl
  cases under : around.parent with
  | none => rw [visitText_of_none s node under]
  | some parent =>
      cases bound : Binding.hasBinding text with
      | true =>
          obtain ⟨m, position, expr, first, second⟩ := visitText_of_bound s node under bound
          have taken := (s.focused_takeOverChildren parent).content?_old n
          have old' : n < (s.takeOverChildren parent).annotations.nodes.size := by
            rwa [takeOverChildren, annotations_update, AnnotatedTree.size_update]
          have placed : Pieces parent m (m.addPlaceholder parent position expr) :=
            .placeholder .refl position expr
          have early := Nat.lt_of_lt_of_le old' first.size_le
          rw [kept second (Nat.lt_of_lt_of_le early placed.size_le), kept placed early,
            kept first old', taken]
      | false =>
          obtain ⟨m, same, shown⟩ := visitText_of_unbound s node under bound
          have unread : m.annotations = s.annotations := by
            rcases same with rfl | ⟨_, rfl⟩ <;> rfl
          rcases shown with shown | shown
          · rw [shown, unread]
          · rw [shown, content?_annotate_old _ _ _ _ (by rwa [unread]), unread]

theorem Visits.content?_old {f : Forest} {around : Surroundings} (visits : Visits f around s t)
    (valid : ∀ q ∈ around.parent, q < s.annotations.nodes.size)
    (old : n < s.annotations.nodes.size) :
    t.annotations.content? n = s.annotations.content? n := by
  induction visits with
  | nil => rfl
  | passed _ _ ih => exact ih valid old
  | @text node below rest around s t text _ _ ih =>
      have grows := s.size_visitText around node text
      rw [ih (fun q isParent => Nat.lt_of_lt_of_le (valid q isParent) grows)
        (Nat.lt_of_lt_of_le old grows), content?_visitText s around text old]
  | @element node below rest around s t tag attributes entry entered inside data found enters under
      later ihUnder ihLater =>
      have linked := linked_enter valid found
      have size : s.annotations.nodes.size ≤
          (entry.opened.foldl identify inside).annotations.nodes.size := by
        rw [size_foldl_identify]
        exact Nat.le_trans (Nat.le_of_lt enters.size.1) under.size_le
      rw [ihLater (fun q isParent => Nat.lt_of_lt_of_le (valid q isParent) size)
        (Nat.lt_of_lt_of_le old size), content?_foldl_identify,
        ihUnder enters.size.2 (Nat.lt_trans old enters.size.1), linked.old n old]

/-- A walk leaves the annotations off the line it hangs below as they were. -/
theorem Visits.get?_off {f : Forest} {around : Surroundings} (visits : Visits f around s t)
    (valid : ∀ q ∈ around.parent, q < s.annotations.nodes.size)
    (old : n < s.annotations.nodes.size) (off : n ∉ s.annotations.line around.parent) :
    t.annotations.get? n = s.annotations.get? n := by
  obtain ⟨F, grown, -⟩ := visits.grown valid
  exact grown.tree.get?_off (visits.content?_old valid old) old off

theorem get?_identify_of_lt (s : Pass) {id : AnnotatedId} (later : id < n) :
    (s.identify id).annotations.get? n = s.annotations.get? n := by
  cases found : s.annotations.get? id with
  | none =>
      have same : s.identify id = s := by rw [identify, found]
      rw [same]
  | some a =>
      rcases identify_cases found with ⟨-, same⟩ | ⟨fresh, needed⟩
      · rw [same]
      · have unmarked : (s.annotations.nearestBuilt? id == some n) = false :=
          beq_eq_false_iff_ne.2 fun marked =>
            Nat.lt_asymm later (AnnotatedTree.lt_of_nearestBuilt? marked)
        rw [get?_identify found fresh needed]
        cases s.annotations.get? n with
        | none => rfl
        | some b => simp only [Option.map_some, unmarked, Bool.or_false, Nat.ne_of_lt later, if_false]

theorem get?_foldl_identify_of_lt (s : Pass) {ids : List AnnotatedId} (later : ∀ id ∈ ids, id < n) :
    (ids.foldl identify s).annotations.get? n = s.annotations.get? n := by
  induction ids generalizing s with
  | nil => rfl
  | cons id ids ih =>
      rw [List.foldl_cons, ih _ fun other member => later other (List.mem_cons_of_mem _ member),
        get?_identify_of_lt s (later id List.mem_cons_self)]

/-! ## Reports -/

theorem reports_identify (s : Pass) (id : AnnotatedId) : (s.identify id).reports = s.reports := by
  have marked : (s.markQuery id).reports = s.reports := by
    rw [markQuery_eq]
    split <;> rfl
  unfold identify
  split
  · rfl
  · split
    · rfl
    · rw [← marked]
      generalize s.markQuery id = marked
      unfold number
      rw [draw]
      dsimp only
      change Pass.reports (if _ then _ else _) = _
      split <;> rfl

theorem reports_foldl_identify (s : Pass) (ids : List AnnotatedId) :
    (ids.foldl identify s).reports = s.reports := by
  induction ids generalizing s with
  | nil => rfl
  | cons id ids ih => rw [List.foldl_cons, ih, reports_identify]

theorem reports_visitText (s : Pass) (around : Surroundings) (node : NodeId) (text : String) :
    (s.visitText around node text).reports = s.reports := by
  have kept {parent : AnnotatedId} {s t : Pass} (pieces : Pieces parent s t) :
      t.reports = s.reports := by
    induction pieces with
    | refl => rfl
    | literal _ _ _ ih => exact ih
    | placeholder _ _ _ ih => exact ih
  cases under : around.parent with
  | none => rw [visitText_of_none s node under]
  | some parent =>
      cases bound : Binding.hasBinding text with
      | true =>
          obtain ⟨m, position, expr, first, second⟩ := visitText_of_bound s node under bound
          have before := kept first
          exact (kept second).trans before
      | false =>
          obtain ⟨m, same, shown⟩ := visitText_of_unbound s node under bound
          have unread : m.reports = s.reports := by
            rcases same with rfl | ⟨_, rfl⟩ <;> rfl
          rcases shown with shown | shown <;> rw [shown] <;> exact unread

/-- What is left out is a script, or what is planned is to drop it. -/
theorem left_of_enter {around : Surroundings} (left : s.enter around node tag = (t, none)) :
    tag = "script" ∧ t = s ∨ (Plan.read s.document node tag).2 = .dropped ∧
      t = { s with reports := s.reports ++ s.problemsAt node tag } := by
  unfold enter at left
  split at left
  · next script => exact .inl ⟨script, (Prod.mk.inj left).1.symm⟩
  · dsimp only at left
    rw [foldl_report_eq] at left
    split at left
    · next dropped => exact .inr ⟨dropped, (Prod.mk.inj left).1.symm⟩
    all_goals cases (Prod.mk.inj left).2

/-- Nothing that was reported is taken back. -/
theorem reports_visitForest {f : Forest} {around : Surroundings}
    (valid : ∀ q ∈ around.parent, q < s.annotations.nodes.size) :
    ∀ r ∈ s.reports, r ∈ (s.visitForest f around).reports := by
  induction f generalizing around s with
  | nil => exact fun r member => member
  | cons node below rest ihBelow ihRest =>
      intro r member
      rw [visitForest]
      split
      · next tag attributes data =>
        split
        · next left =>
          rcases left_of_enter left with ⟨-, rfl⟩ | ⟨-, rfl⟩
          · exact ihRest valid r member
          · exact ihRest (s := { s with reports := s.reports ++ s.problemsAt node tag }) valid r
              (List.mem_append_left _ member)
        · next entered entry found =>
          have enters := entered_of_enter valid found
          have size : s.annotations.nodes.size ≤
              (entry.opened.foldl identify (visitForest below entry.inner entered)).annotations.nodes.size := by
            rw [size_foldl_identify]
            exact Nat.le_trans (Nat.le_of_lt enters.size.1) (visits_visitForest enters.size.2).size_le
          refine ihRest (fun q isParent => Nat.lt_of_lt_of_le (valid q isParent) size) r ?_
          rw [reports_foldl_identify]
          exact ihBelow enters.size.2 r ((linked_enter valid found).reports r member)
      · next text data =>
        refine ihRest (fun q isParent => ?_) r ?_
        · exact Nat.lt_of_lt_of_le (valid q isParent) (s.size_visitText around node text)
        · rwa [reports_visitText]
      · exact ihRest valid r member

end Pass
end ComponentMarkup
