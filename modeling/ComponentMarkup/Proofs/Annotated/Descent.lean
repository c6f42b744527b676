import ComponentMarkup.Proofs.Annotated.File
import ComponentMarkup.Proofs.Annotated.Reading
import ComponentMarkup.Proofs.Annotated.Written
import ComponentMarkup.Proofs.Document.Wrapped

/-!
The pass as a walk that looks for the children of a node when it comes there, in a document that it
has put elements into by then. It ends, and does what the walk of the forest does that the document
had at first.
-/

namespace ComponentMarkup
namespace Pass

/-! ## Descending -/

/-- The condition of an element that is not shown itself, but as a new element below it. -/
def optIn? (d : Document) (node : NodeId) (tag : String) : Option String :=
  if tag = "script" || tag = "template" then none
  else
    match (Plan.read d node tag).2 with
    | .conditional condition => some condition
    | _ => none

/-- Reports what is wrong with the directives of an element. -/
def warned (s : Pass) (node : NodeId) (tag : String) : Pass :=
  (Plan.read s.document node tag).1.foldl (fun s problem => s.report problem node) s

/-- Annotates the host of a condition and puts what it shows on a new element below it. -/
def divide (s : Pass) (around : Surroundings) (node : NodeId) (tag condition : String) :
    NodeId × Pass :=
  let (content, document) := splitContent s.document node
  (content, ((s.warned node tag).hosted around node condition).mapDocument fun _ => document)

/-- What the new element below a host inherits. -/
def underHost (s : Pass) (around : Surroundings) (node : NodeId) : Surroundings :=
  { around with
    parent := some s.annotations.nodes.size
    keepBlanks := s.document.keepsBlanks node around.keepBlanks }

/-- Tells the host of a condition which annotation it shows. -/
def tell (s : Pass) (host : Option AnnotatedId) (content : AnnotatedId) : Pass :=
  match host with
  | some host => s.update host (·.withContent (some content))
  | none => s

/-- Visits a node and the children that it has then, down to a number of levels, and adds the
elements and texts that it comes by to `seen`. The new element below a host is visited like any other;
`host` is there when the node is such an element. -/
def descend : Nat → Option AnnotatedId → Surroundings → Pass × List NodeId → NodeId →
    Option (Pass × List NodeId)
  | 0, _, _, _, _ => none
  | levels + 1, host, around, (s, seen), node =>
      match s.document.data? node with
      | some (.element tag _) =>
          let id := s.annotations.nodes.size
          match optIn? s.document node tag with
          | some condition =>
              let (content, t) := s.divide around node tag condition
              (descend levels (some id) (s.underHost around node) (t.tell host id, seen ++ [node])
                content).map fun (u, seen) => (u.identify id, seen)
          | none =>
              match s.enter around node tag with
              | (t, none) => some (t, seen ++ [node])
              | (t, some entry) =>
                  ((t.document.children node).foldlM (descend levels none entry.inner)
                    (t.tell host id, seen ++ [node])).map
                      fun (u, seen) => (entry.opened.foldl identify u, seen)
      | some (.text contents) => some (s.visitText around node contents, seen ++ [node])
      | _ => some (s, seen)

variable {s t u : Pass} {around : Surroundings} {node : NodeId} {tag condition : String}
  {below f g : Forest} {seen later : List NodeId} {entry : Entry} {bound : NodeId}
  {host : Option AnnotatedId} {levels : Nat} {attributes : Attributes}

/-! ## Elements -/

theorem plan_of_optIn (opts : optIn? s.document node tag = some condition) :
    tag ≠ "script" ∧ tag ≠ "template" ∧
      (Plan.read s.document node tag).2 = .conditional condition := by
  unfold optIn? at opts
  split at opts
  · cases opts
  · next other =>
    simp only [Bool.or_eq_true, decide_eq_true_eq, not_or] at other
    refine ⟨other.1, other.2, ?_⟩
    split at opts
    · next plan =>
      rw [plan, Option.some.inj opts]
    · cases opts

/-- An element that does not opt in gets one annotation. -/
theorem opened_of_not_optIn (valid : ∀ q ∈ around.parent, q < s.annotations.nodes.size)
    (whole : optIn? s.document node tag = none)
    (found : s.enter around node tag = (t, some entry)) :
    entry.opened = [s.annotations.nodes.size] := by
  unfold enter at found
  split at found
  · cases found
  · next notScript =>
    obtain ⟨reports, same⟩ := foldl_report s node (Plan.read s.document node tag).1
    dsimp only at found
    rw [same] at found
    have valid' : ∀ q ∈ around.parent,
        q < ({ s with reports } : Pass).annotations.nodes.size := valid
    split at found
    · cases found
    · obtain rfl := Option.some.inj (Prod.mk.inj found).2
      exact (entersAs_enterPlain node tag valid').2.1
    · next condition plan =>
      obtain rfl := Option.some.inj (Prod.mk.inj found).2
      have template : tag = "template" := by
        by_contra other
        rw [optIn?, if_neg (by simp [notScript, other]), plan] at whole
        cases whole
      rw [enterConditional_eq, if_pos template]
      rfl
    · next variableName items _ =>
      obtain rfl := Option.some.inj (Prod.mk.inj found).2
      exact (entersAs_enterIteration node tag valid' variableName items).2.1

/-- The new element has no directives of its own. -/
theorem plan_splitContent (data : s.document.data? node = some (.element tag attributes))
    (notTemplate : tag ≠ "template") :
    Plan.read (splitContent s.document node).2 s.document.size tag = ([], .plain) := by
  refine Plan.read_of_plain notTemplate fun name directive => ?_
  rw [Document.hasAttribute, Document.attribute?, Document.attributes?,
    data?_splitContent_made data, Option.bind_some,
    find?_withoutDirectives_of_mem attributes directive]
  rfl

theorem warned_eq (s : Pass) (node : NodeId) (tag : String) :
    ∃ reports, s.warned node tag = { s with reports } :=
  foldl_report s node _

@[simp] theorem document_warned : (s.warned node tag).document = s.document := by
  obtain ⟨reports, same⟩ := s.warned_eq node tag
  rw [same]
  rfl

@[simp] theorem annotations_warned : (s.warned node tag).annotations = s.annotations := by
  obtain ⟨reports, same⟩ := s.warned_eq node tag
  rw [same]
  rfl

theorem divide_eq (data : s.document.data? node = some (.element tag attributes)) :
    s.divide around node tag condition = (s.document.size,
      ((s.warned node tag).hosted around node condition).mapDocument fun _ =>
        (splitContent s.document node).2) := by
  have new := fst_splitContent (Document.tag?_eq_some.2 ⟨_, data⟩)
  rw [divide]
  dsimp only
  rw [new]

theorem size_divide (s : Pass) (around : Surroundings) (node : NodeId) (tag condition : String) :
    (s.divide around node tag condition).2.annotations.nodes.size =
    s.annotations.nodes.size + 1 := by
  rw [divide]
  dsimp only
  rw [annotations_mapDocument, size_hosted, annotations_warned]

theorem opened_divide (s : Pass) (around : Surroundings) (node : NodeId) (tag condition : String) :
    ((s.divide around node tag condition).2.enterPlain (s.underHost around node) s.document.size
      tag).2.opened = [s.annotations.nodes.size + 1] := by
  have size := s.size_divide around node tag condition
  have valid : ∀ q ∈ (s.underHost around node).parent,
      q < (s.divide around node tag condition).2.annotations.nodes.size := by
    intro q isHost
    rw [← Option.some.inj isHost, size]
    exact Nat.lt_succ_self _
  rw [(entersAs_enterPlain s.document.size tag valid).2.1, size]

/-- Entering an element that opts in divides it and enters the new element as a plain one. -/
theorem enter_of_optIn (data : s.document.data? node = some (.element tag attributes))
    (opts : optIn? s.document node tag = some condition) : s.enter around node tag =
      let (entered, content) := (s.divide around node tag condition).2.enterPlain
        (s.underHost around node) s.document.size tag
      (entered.update s.annotations.nodes.size (·.withContent content.opened.head?),
        some { content with opened := content.opened ++ [s.annotations.nodes.size] }) := by
  obtain ⟨notScript, notTemplate, plan⟩ := plan_of_optIn opts
  have entering : s.enter around node tag =
      (((s.warned node tag).enterConditional around node tag condition).1,
        some ((s.warned node tag).enterConditional around node tag condition).2) := by
    unfold enter
    rw [if_neg notScript]
    dsimp only
    rw [plan]
    rfl
  rw [entering, enterConditional_eq, divide_eq data, underHost, annotations_warned, document_warned,
    fst_splitContent (Document.tag?_eq_some.2 ⟨_, data⟩)]
  simp only [notTemplate, if_false]

theorem opened_of_optIn (data : s.document.data? node = some (.element tag attributes))
    (opts : optIn? s.document node tag = some condition)
    (found : s.enter around node tag = (t, some entry)) :
    entry.opened = [s.annotations.nodes.size + 1, s.annotations.nodes.size] := by
  rw [enter_of_optIn data opts] at found
  have opened := s.opened_divide around node tag condition
  generalize (s.divide around node tag condition).2.enterPlain _ _ _ = outcome at *
  obtain rfl := Option.some.inj (Prod.mk.inj found).2
  exact congrArg (· ++ [s.annotations.nodes.size]) opened

section Descend
variable (data : s.document.data? node = some (.element tag attributes))
include data

theorem descend_of_left (left : s.enter around node tag = (t, none)) :
    descend (levels + 1) none around (s, seen) node = some (t, seen ++ [node]) := by
  have whole : optIn? s.document node tag = none := by
    by_contra opts
    obtain ⟨condition, opts⟩ := Option.ne_none_iff_exists'.1 opts
    rw [enter_of_optIn data opts] at left
    cases (Prod.mk.inj left).2
  rw [descend, data]
  dsimp only
  rw [whole, left]

theorem descend_of_whole (whole : optIn? s.document node tag = none)
    (found : s.enter around node tag = (t, some entry)) :
    descend (levels + 1) none around (s, seen) node =
      ((t.document.children node).foldlM (descend levels none entry.inner) (t, seen ++ [node])).map
        fun (u, seen) => (entry.opened.foldl identify u, seen) := by
  rw [descend, data]
  dsimp only
  rw [whole, found]
  rfl

/-- Visiting the new element in its turn is entering it as a plain one: its children are visited two
levels below the host. -/
theorem descend_of_optIn (opts : optIn? s.document node tag = some condition)
    (found : s.enter around node tag = (t, some entry)) :
    descend (levels + 2) none around (s, seen) node =
      ((t.document.children s.document.size).foldlM (descend levels none entry.inner)
        (t, seen ++ [node, s.document.size])).map
          fun (u, seen) => (entry.opened.foldl identify u, seen) := by
  obtain ⟨notScript, notTemplate, -⟩ := plan_of_optIn opts
  have plain := plan_splitContent data notTemplate
  have made := data?_splitContent_made data
  have size := s.size_divide around node tag condition
  have opened := s.opened_divide around node tag condition
  have document : (s.divide around node tag condition).2.document =
      (splitContent s.document node).2 := by
    rw [divide_eq data]
    rfl
  have new : (s.divide around node tag condition).1 = s.document.size := by rw [divide_eq data]
  rw [enter_of_optIn data opts] at found
  rw [descend, data]
  dsimp only
  rw [opts]
  dsimp only
  generalize s.divide around node tag condition = outcome at *
  obtain ⟨content, divided⟩ := outcome
  subst new
  dsimp only [tell] at *
  rw [← document] at plain made
  have unsplit : optIn? divided.document s.document.size tag = none := by
    rw [optIn?, plain]
    exact ite_self _
  rw [descend, made]
  dsimp only
  rw [unsplit, enter_of_plain _ notScript plain]
  dsimp only
  generalize divided.enterPlain (s.underHost around node) s.document.size tag = outcome at *
  obtain ⟨rfl, isEntry⟩ := Prod.mk.inj found
  obtain rfl := Option.some.inj isEntry
  rw [opened, size, Option.map_map, List.append_assoc]
  rfl

end Descend

/-! ## What is come by -/

/-- The nodes that a walk of `f` comes by when the document grows from `before` to `after` nodes:
those below `bound`, which were there at first, stand in `f` in the same order. -/
structure Trail (bound : NodeId) (f : Forest) (before after : Nat) (seen : List NodeId) : Prop where
  ordered : (seen.filter (· < bound)).Sublist f.preorder
  origin : ∀ n ∈ seen, n ∈ f.preorder ∨ before ≤ n ∧ n < after
  distinct : seen.Nodup

namespace Trail
variable {before middle after : Nat}

theorem skip : Trail bound f before after [] :=
  ⟨List.nil_sublist _, fun _ impossible => (nomatch impossible), List.nodup_nil⟩

/-- An element or text, the elements that are made for it, and what is below it. -/
theorem enclose (inner : Trail bound below middle after seen)
    (early : ∀ n ∈ (Forest.cons node below .nil).preorder, n < bound)
    (apart : node ∉ below.preorder) (bounded : bound ≤ before) (grows : before ≤ middle)
    (grows' : middle ≤ after) : Trail bound (.cons node below .nil) before after
      (node :: (List.range' before (middle - before) ++ seen)) := by
  have isNew {n : NodeId} (member : n ∈ List.range' before (middle - before)) :
      before ≤ n ∧ n < middle := by
    rw [List.mem_range'_1, Nat.add_sub_cancel' grows] at member
    exact member
  have notEarly {n : NodeId} (late : before ≤ n) : ¬n < bound :=
    Nat.not_lt_of_ge (Nat.le_trans bounded late)
  have node_lt : node < bound := early node List.mem_cons_self
  have below_lt {n : NodeId} (member : n ∈ below.preorder) : n < bound :=
    early n (Forest.mem_preorder_tree.2 (.inr member))
  refine ⟨?_, fun n member => ?_, ?_⟩
  · have none : (List.range' before (middle - before)).filter (· < bound) = [] :=
      List.filter_eq_nil_iff.2 fun n member => by simpa using notEarly (isNew member).1
    rw [List.filter_cons_of_pos (by simpa using node_lt), List.filter_append, none,
      List.nil_append, Forest.preorder, Forest.preorder, List.append_nil]
    exact inner.ordered.cons_cons node
  · rw [Forest.mem_preorder_tree]
    rw [List.mem_cons, List.mem_append] at member
    rcases member with rfl | member | member
    · exact .inl (.inl rfl)
    · exact .inr ⟨(isNew member).1, Nat.lt_of_lt_of_le (isNew member).2 grows'⟩
    · exact (inner.origin n member).imp .inr fun late => ⟨Nat.le_trans grows late.1, late.2⟩
  · rw [List.nodup_cons, List.mem_append, List.nodup_append]
    refine ⟨?_, List.nodup_range', inner.distinct, fun n first m later same => ?_⟩
    · rintro (new | late)
      · exact notEarly (isNew new).1 node_lt
      · exact (inner.origin node late).elim apart fun new =>
          notEarly (Nat.le_trans grows new.1) node_lt
    · subst same
      exact (inner.origin n later).elim (fun old => notEarly (isNew first).1 (below_lt old))
        fun new => Nat.not_lt_of_ge new.1 (isNew first).2

theorem append (first : Trail bound f before middle seen)
    (second : Trail bound g middle after later)
    (early : ∀ n ∈ f.preorder, n < bound) (early' : ∀ n ∈ g.preorder, n < bound)
    (apart : ∀ n ∈ g.preorder, n ∉ f.preorder) (bounded : bound ≤ before) (grows : before ≤ middle)
    (grows' : middle ≤ after) : Trail bound (f.append g) before after (seen ++ later) := by
  refine ⟨?_, fun n member => ?_, List.nodup_append.2 ⟨first.distinct, second.distinct, ?_⟩⟩
  · rw [List.filter_append, Forest.preorder_append]
    exact first.ordered.append second.ordered
  · rw [Forest.preorder_append, List.mem_append]
    rcases List.mem_append.1 member with member | member
    · exact (first.origin n member).imp .inl fun new => ⟨new.1, Nat.lt_of_lt_of_le new.2 grows'⟩
    · exact (second.origin n member).imp .inr fun new => ⟨Nat.le_trans grows new.1, new.2⟩
  · intro n member m member' same
    subst same
    rcases first.origin n member with old | new <;> rcases second.origin n member' with old' | new'
    · exact apart n old' old
    · exact Nat.not_lt_of_ge (Nat.le_trans (Nat.le_trans bounded grows) new'.1) (early n old)
    · exact Nat.not_lt_of_ge (Nat.le_trans bounded new.1) (early' n old')
    · exact Nat.not_lt_of_ge new'.1 new.2

end Trail

theorem size_document_identify (s : Pass) (id : AnnotatedId) :
    (s.identify id).document.size = s.document.size := by
  unfold identify
  split
  · rfl
  · next a found =>
    split
    · rfl
    · rw [document_number, document_markQuery]
      split
      · rfl
      · exact Document.size_mapAttributes _ _ _

theorem size_document_foldl_identify (s : Pass) (ids : List AnnotatedId) :
    (ids.foldl identify s).document.size = s.document.size := by
  induction ids generalizing s with
  | nil => rfl
  | cons id ids ih => rw [List.foldl_cons, ih, size_document_identify]

/-! ## The walk -/

/-- What an element adds to the document when it is entered, and where its children are then. -/
theorem descend_of_entered (walkable : Walkable around.parent (.cons node below .nil) s)
    (data : s.document.data? node = some (.element tag attributes))
    (found : s.enter around node tag = (t, some entry)) (levels : Nat) (seen : List NodeId) :
    s.document.size ≤ t.document.size ∧ ∃ more, levels ≤ more ∧
      descend (levels + 2) none around (s, seen) node =
        (below.tops.foldlM (descend more none entry.inner) (t, seen ++ node ::
          List.range' s.document.size (t.document.size - s.document.size))).map
            fun (u, seen) => (entry.opened.foldl identify u, seen) := by
  have element : s.document.tag? node = some tag := Document.tag?_eq_some.2 ⟨_, data⟩
  have entered := entered_of_enter walkable.valid found
  cases opts : optIn? s.document node tag with
  | none =>
      have opened := opened_of_not_optIn walkable.valid opts found
      rcases entered.cases element walkable.fits with ⟨directive, enters, -, -⟩ | ⟨_, _, _, two, _⟩
      · have opens := enters.opens walkable.fits
        obtain ⟨k, -, document⟩ := enters.document
        have size : t.document.size = s.document.size := by
          rw [document, Document.size_mapAttributes]
        refine ⟨opens.size, levels + 1, Nat.le_succ _, ?_⟩
        rw [descend_of_whole data opts found, opens.children, size, Nat.sub_self]
        rfl
      · exact absurd (congrArg List.length (opened.symm.trans two)) (by simp)
  | some condition =>
      have two := opened_of_optIn data opts found
      rcases entered.cases element walkable.fits with ⟨_, _, opened, _⟩ | ⟨d, _, divided, -, -⟩
      · exact absurd (congrArg List.length (opened.symm.trans two)) (by simp)
      · have opens := divided.content.opens divided.fits
        have size : t.document.size - s.document.size = 1 := by
          rw [divided.document_size, Nat.add_sub_cancel_left]
        refine ⟨divided.document_size ▸ Nat.le_succ _, levels, Nat.le_refl _, ?_⟩
        rw [descend_of_optIn data opts found, opens.children, size]
        rfl

theorem descends_tree
    (inner : ∀ {around : Surroundings} {s : Pass}, Walkable around.parent below s →
      bound ≤ s.document.size → ∃ seen,
        Trail bound below s.document.size (s.visitForest below around).document.size seen ∧
        ∀ levels before, 2 * below.depth ≤ levels →
          below.tops.foldlM (descend levels none around) (s, before) =
            some (s.visitForest below around, before ++ seen))
    (walkable : Walkable around.parent (.cons node below .nil) s)
    (early : ∀ n ∈ (Forest.cons node below .nil).preorder, n < bound)
    (bounded : bound ≤ s.document.size) : ∃ seen,
      Trail bound (.cons node below .nil) s.document.size
        (s.visitForest (.cons node below .nil) around).document.size seen ∧
      ∀ levels before, 2 * (below.depth + 1) ≤ levels →
        descend levels none around (s, before) node =
          some (s.visitForest (.cons node below .nil) around, before ++ seen) := by
  have here := visits_visitForest (f := .cons node below .nil) walkable.valid
  obtain ⟨f', covers⟩ := here.covers walkable.valid walkable.fits
  have grows := covers.reworks.size
  have apart := walkable.fits.not_mem_below
  have single : Trail bound (.cons node below .nil) s.document.size
      (s.visitForest (.cons node below .nil) around).document.size [node] := by
    have only := (Trail.skip : Trail bound below s.document.size _ []).enclose early apart bounded
      (Nat.le_refl _) grows
    rwa [Nat.sub_self] at only
  cases element : s.document.tag? node with
  | none =>
      cases text : s.document.text? node with
      | none =>
          refine ⟨[], .skip, fun levels before enough => ?_⟩
          rw [visitTree_of_other below element text, List.append_nil]
          obtain ⟨levels, rfl⟩ := Nat.exists_eq_succ_of_ne_zero (show levels ≠ 0 by omega)
          rw [descend]
          split
          · next tag attributes data =>
            rw [Document.tag?, data] at element
            cases element
          · next contents data =>
            rw [Document.text?, data] at text
            cases text
          · rfl
      | some contents =>
          refine ⟨[node], single, fun levels before enough => ?_⟩
          have data := Document.text?_eq_some.1 text
          rw [visitTree_of_text below data]
          obtain ⟨levels, rfl⟩ := Nat.exists_eq_succ_of_ne_zero (show levels ≠ 0 by omega)
          rw [descend, data]
  | some tag =>
      obtain ⟨attributes, data⟩ := Document.tag?_eq_some.1 element
      cases made : (s.enter around node tag).2 with
      | none =>
          refine ⟨[node], single, fun levels before enough => ?_⟩
          rw [visitTree_of_left below element made]
          obtain ⟨levels, rfl⟩ := Nat.exists_eq_succ_of_ne_zero (show levels ≠ 0 by omega)
          exact descend_of_left data (Prod.ext rfl made)
      | some entry =>
          have found : s.enter around node tag = ((s.enter around node tag).1, some entry) :=
            Prod.ext rfl made
          have inside := walkable.inside (entered_of_enter walkable.valid found) element
          have enters := descend_of_entered walkable data found
          have larger := (enters 0 []).1
          obtain ⟨seen, trail, walks⟩ := inner inside (Nat.le_trans bounded larger)
          have under := visits_visitForest (f := below) inside.valid
          obtain ⟨below', covers'⟩ := under.covers inside.valid inside.fits
          rw [visitTree_of_entered below element made, size_document_foldl_identify] at *
          refine ⟨_, trail.enclose early apart bounded larger covers'.reworks.size,
            fun levels before enough => ?_⟩
          obtain ⟨levels, rfl⟩ := Nat.exists_eq_add_of_le' (show 2 ≤ levels by omega)
          obtain ⟨-, more, fewer, same⟩ := enters levels before
          rw [same, walks more _ (by omega), List.append_assoc]
          rfl

/-- From the right number of levels on, the walk of the document is the walk of the forest. -/
theorem descends (walkable : Walkable around.parent f s) (early : ∀ n ∈ f.preorder, n < bound)
    (bounded : bound ≤ s.document.size) : ∃ seen,
      Trail bound f s.document.size (s.visitForest f around).document.size seen ∧
      ∀ levels before, 2 * f.depth ≤ levels →
        f.tops.foldlM (descend levels none around) (s, before) =
          some (s.visitForest f around, before ++ seen) := by
  induction f generalizing around s with
  | nil =>
      refine ⟨[], .skip, fun levels before _ => ?_⟩
      rw [List.append_nil]
      rfl
  | cons node below rest ihBelow ihRest =>
      have first_lt : ∀ n ∈ (Forest.cons node below .nil).preorder, n < bound := fun n member =>
        early n (by
          rw [Forest.mem_preorder_tree] at member
          rw [Forest.preorder, List.mem_cons, List.mem_append]
          exact member.imp_right .inl)
      have below_lt : ∀ n ∈ below.preorder, n < bound := fun n member =>
        first_lt n (Forest.mem_preorder_tree.2 (.inr member))
      have rest_lt : ∀ n ∈ rest.preorder, n < bound := fun n member =>
        early n (List.mem_cons_of_mem _ (List.mem_append_right _ member))
      have here := visits_visitForest (f := .cons node below .nil) walkable.first.valid
      obtain ⟨f', covers⟩ := here.covers walkable.valid walkable.fits.first
      obtain ⟨F, grown, -⟩ := here.grown walkable.valid
      have walkable' := walkable.later covers.reworks grown.tree
      have later := visits_visitForest (f := rest) walkable'.valid
      obtain ⟨rest', covers'⟩ := later.covers walkable'.valid walkable'.fits
      obtain ⟨seen, trail, walks⟩ := descends_tree (fun inside => ihBelow inside below_lt)
        walkable.first first_lt bounded
      obtain ⟨seen', trail', walks'⟩ := ihRest walkable' rest_lt
        (Nat.le_trans bounded covers.reworks.size)
      refine ⟨seen ++ seen', ?_, fun levels before enough => ?_⟩
      · rw [visitForest_cons]
        exact trail.append trail' first_lt rest_lt (fun n => walkable.fits.not_mem_first) bounded
          covers.reworks.size covers'.reworks.size
      · rw [Forest.depth] at enough
        rw [visitForest_cons, Forest.tops, List.foldlM_cons, walks levels before (by omega),
          ← List.append_assoc]
        exact walks' levels _ (by omega)

/-- The pass over the body as a descent, with the elements and texts that it comes by. -/
def descendBody (s : Pass) (levels : Nat) (keepBlanks : Bool) : Option (Pass × List NodeId) :=
  match s.document.findElement? "body" with
  | none => some (s, [])
  | some body => descend levels none { keepBlanks } (s, []) body

/-- The pass over a body ends after twice as many levels as the body has, whatever is put into the
document on the way. -/
theorem descendBody_eq (keepBlanks : Bool) (walkable : Walkable none s.document.bodyForest s)
    (wellFormed : s.document.WellFormed) : ∃ seen,
      Trail s.document.size s.document.bodyForest s.document.size
        (annotateFile keepBlanks s).document.size seen ∧
      ∀ levels, 2 * s.document.bodyForest.depth ≤ levels →
        s.descendBody levels keepBlanks = some (annotateFile keepBlanks s, seen) := by
  obtain ⟨seen, trail, walks⟩ :=
    @descends s { keepBlanks } _ _ walkable walkable.fits.inside (Nat.le_refl _)
  rw [← annotateFile_eq] at trail walks
  refine ⟨seen, trail, fun levels enough => ?_⟩
  have walked := walks levels [] enough
  rw [wellFormed.tops_bodyForest, List.nil_append] at walked
  rw [descendBody]
  cases found : s.document.findElement? "body" with
  | none =>
      rw [found] at walked
      exact walked
  | some body =>
      rw [found, Option.toList_some, List.foldlM_cons] at walked
      exact (bind_pure _).symm.trans walked

end Pass
end ComponentMarkup
