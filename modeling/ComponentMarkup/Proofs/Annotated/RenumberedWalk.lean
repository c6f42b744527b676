import ComponentMarkup.Proofs.Annotated.Abreast
import ComponentMarkup.Proofs.Annotated.Parallel
import ComponentMarkup.Proofs.Annotated.Renumbered

/-!
The walk of a pass with other numbers. The plan of an element is the same, since nothing has been
written to it, to what is below it, or to what holds it. Numbers are drawn in the same order, so what
is given out for the one pass is given out for the other under its other number.
-/

namespace ComponentMarkup

namespace Pass
variable {ρ : UInt64 → UInt64} {W : NodeId → Bool} {u : ComponentTable} {s t : Pass}
  {id : AnnotatedId} {node : NodeId} {tag : String} {around : Surroundings}

theorem declared_of_basis (same : t.basis = s.basis) : t.file.declared = s.file.declared :=
  congrArg (fun basis => basis.file.declared) same

theorem hasBoundText_renumber (node : NodeId) :
    (s.renumber ρ W u).hasBoundText node = s.hasBoundText node := by
  simp only [hasBoundText, Document.children_of_skeleton node (skeleton_renumber (s := s)),
    Document.text?_of_skeleton _ (skeleton_renumber (s := s))]

theorem markWhen_renumber (isRoot : Bool) (id : AnnotatedId) :
    (if isRoot then (s.renumber ρ W u).markRoot id else s.renumber ρ W u) =
      (if isRoot then s.markRoot id else s).renumber ρ W u := by
  rw [markRoot_renumber]
  exact (apply_ite (renumber ρ W u) _ _ _).symm

section Off
variable (off : W node = false) (owned : ∀ o ∈ around.owner, o ∈ s.file.declared)
include off owned

theorem enterPlain_renumber : (s.renumber ρ W u).enterPlain around node tag =
    ((s.enterPlain around node tag).1.renumber ρ W u, (s.enterPlain around node tag).2) := by
  have owned' : ∀ o ∈ around.owner, o ∈ (s.annotate node around.parent (.element {})).2.file.declared :=
    owned
  unfold enterPlain
  rw [annotate_renumber]
  dsimp only
  generalize s.annotate node around.parent (.element {}) = started at *
  rw [innerOwner_renumber, isTemplateOf_renumber, markWhen_renumber]
  generalize (tag = "body" || started.2.isTemplateOf around.owner node : Bool) = isRoot
  have marked : ∀ o ∈ around.owner,
      o ∈ (if isRoot then started.2.markRoot started.1 else started.2).file.declared := by
    cases isRoot with
    | true => exact owned'
    | false => exact owned'
  rw [bindComponent_renumber off marked, bindAttributes_renumber off, readIndentation_renumber off]
  dsimp only
  rw [hasBoundText_renumber, takeOverChildren_renumber, apply_ite (renumber ρ W u)]

omit off owned in
theorem annotateStructural_renumber (around : Surroundings) (node : NodeId) (directive : Directive) :
    (s.renumber ρ W u).annotateStructural around node directive =
      ((s.annotateStructural around node directive).1,
        (s.annotateStructural around node directive).2.renumber ρ W u) := by
  unfold annotateStructural
  rw [annotate_renumber]
  dsimp only
  rw [update_renumber (f := fun a => { a with buildsChildren := true }) fun _ => rfl]

theorem enterIteration_renumber (variableName items : String) :
    (s.renumber ρ W u).enterIteration around node tag variableName items =
      ((s.enterIteration around node tag variableName items).1.renumber ρ W u,
        (s.enterIteration around node tag variableName items).2) := by
  have owned' : ∀ o ∈ around.owner,
      o ∈ (s.annotateStructural around node (.iteration variableName items)).2.file.declared := owned
  unfold enterIteration
  rw [annotateStructural_renumber]
  dsimp only
  generalize s.annotateStructural around node (.iteration variableName items) = started at *
  rw [strip_renumber]
  have declared : ∀ o ∈ around.owner, o ∈ (((started.2.strip started.1 "iterate").stripPresent
      started.1 node ["template"]).file.declared) := by
    have edits : Edits started.1 node _ _ :=
      (Edits.refl (s := started.2.strip started.1 "iterate")).stripPresent ["template"]
    rw [declared_of_basis edits.keeps.basis]
    exact owned'
  by_cases template : tag = "template"
  · simp only [if_pos template]
    rw [readIndentation_renumber off]
  · simp only [if_neg template]
    rw [stripPresent_renumber off, bindComponent_renumber off declared, bindAttributes_renumber off,
      readIndentation_renumber off]

theorem enterConditional_renumber (new : W s.document.size = false)
    (element : s.document.tag? node = some tag) (condition : String) :
    (s.renumber ρ W u).enterConditional around node tag condition =
      ((s.enterConditional around node tag condition).1.renumber ρ W u,
        (s.enterConditional around node tag condition).2) := by
  have owned' : ∀ o ∈ around.owner,
      o ∈ (s.annotateStructural around node (.conditional condition)).2.file.declared := owned
  have document : (s.annotateStructural around node (.conditional condition)).2.document =
    s.document := rfl
  unfold enterConditional
  rw [annotateStructural_renumber]
  dsimp only
  generalize s.annotateStructural around node (.conditional condition) = started at *
  obtain ⟨id, start⟩ := started
  dsimp only at owned' document ⊢
  rw [stripPresent_renumber off, readIndentation_renumber off]
  dsimp only
  have edits := (Edits.refl.stripPresent ["if", "instantiate", "template"] :
    Edits id node start _).readIndentation around.keepBlanks
  have same : ((start.stripPresent id node ["if", "instantiate", "template"]).readIndentation id node
      around.keepBlanks).1.document = s.document := by
    rw [document_readIndentation, document_stripPresent, document]
  have declared := declared_of_basis edits.keeps.basis
  rw [← declared] at owned'
  generalize (start.stripPresent id node ["if", "instantiate", "template"]).readIndentation id node
    around.keepBlanks = read at *
  obtain ⟨host, keepBlanks⟩ := read
  dsimp only at owned' same ⊢
  split
  · rfl
  · -- The directives of an element are left on it, and the rest of it goes to a new one.
    rw [document_renumber, same, splitContent_renumber off new element, fst_splitContent element]
    dsimp only
    generalize (splitContent s.document node).2 = document
    have written : (host.renumber ρ W u).mapDocument (fun _ => document.renumber ρ W) =
      (host.mapDocument fun _ => document).renumber ρ W u := rfl
    have owned : ∀ o ∈ around.owner, o ∈ (host.mapDocument fun _ => document).file.declared := owned'
    generalize host.mapDocument (fun _ => document) = v at *
    let inside : Surroundings := { around with parent := some id, keepBlanks }
    have owned : ∀ o ∈ inside.owner, o ∈ v.file.declared := owned
    rw [written, enterPlain_renumber (ρ := ρ) (u := u) new owned]
    dsimp only
    exact congrArg (·, _) (update_renumber (.withContent _) id)

end Off

/-! ## Plans -/

/-- Nothing has been written yet to the nodes of `f`, to what holds them, or to new nodes. -/
structure Spares (W : NodeId → Bool) (holder : Option NodeId) (f : Forest) (s : Pass) : Prop where
  inside : ∀ n, W n = true → n < s.document.size
  above : ∀ q ∈ holder, W q = false
  ahead : ∀ n ∈ f.preorder, W n = false

theorem Spares.new {holder : Option NodeId} {f : Forest} (spares : Spares W holder f s) {n : NodeId}
    (isNew : s.document.size ≤ n) : W n = false :=
  Bool.eq_false_iff.2 fun written => Nat.not_le_of_gt (spares.inside n written) isNew

section Enter
variable {d : Document} {holder : Option NodeId} {below rest : Forest}
  (awaits : Awaits d around.parent holder (.cons node below rest) s)
  (spares : Spares W holder (.cons node below rest) s)
include awaits spares

theorem read_renumber (tag : String) :
    Plan.read (s.document.renumber ρ W) node tag = Plan.read s.document node tag := by
  have off := spares.ahead node List.mem_cons_self
  have skeleton := s.document.skeleton_renumber (ρ := ρ) (W := W)
  have carries := awaits.carries.first
  have ahead : ∀ n ∈ (Forest.cons node below .nil).preorder, W n = false := fun n member =>
    spares.ahead n (Forest.mem_preorder_of_tree member)
  have carries' : d.Carries (s.document.renumber ρ W) holder ((Forest.cons node below .nil).map id) := by
    rw [Forest.map_id]
    exact carries.congr fun n member => Document.node?_renumber_of_off (ahead n member)
  have copied : ∀ n ∈ (Forest.cons node below .nil).preorder,
      Document.Copied s.document (s.document.renumber ρ W) n (id n) := fun n member =>
    ⟨Document.data?_renumber_of_off (ahead n member), Document.position_of_skeleton n skeleton⟩
  have held : holder.bind (s.document.renumber ρ W).data? = holder.bind s.document.data? := by
    cases holder with
    | none => rfl
    | some q => exact Document.data?_renumber_of_off (spares.above q rfl)
  have fits := awaits.walkable.fits
  have fits' : (s.document.renumber ρ W).Fits (.cons (id node) (below.map id) rest) := by
    rw [Forest.map_id]
    exact fits.congr (Nat.le_of_eq Document.size_renumber.symm) fun n _ =>
      Document.children_of_skeleton n skeleton
  refine Plan.read_congr (Document.data?_renumber_of_off off) (Plan.isEmptyBody_congr skeleton)
    (Plan.underDeclaration_congr skeleton) fun _ under => ?_
  exact Plan.wrappedExample_map (ρ := id) fits fits' copied
    (carries.held carries' copied held) under

theorem enter_renumber (owned : ∀ o ∈ around.owner, o ∈ s.file.declared)
    (element : s.document.tag? node = some tag) : (s.renumber ρ W u).enter around node tag =
      ((s.enter around node tag).1.renumber ρ W u, (s.enter around node tag).2) := by
  have off := spares.ahead node List.mem_cons_self
  have new : W s.document.size = false := spares.new (Nat.le_refl _)
  unfold enter
  rw [document_renumber, read_renumber awaits spares]
  split
  · rfl
  · generalize Plan.read s.document node tag = planned
    obtain ⟨problems, plan⟩ := planned
    dsimp only
    rw [foldl_report_renumber]
    obtain ⟨reports, reported⟩ := foldl_report s node problems
    rw [reported]
    have owned' : ∀ o ∈ around.owner, o ∈ ({ s with reports } : Pass).file.declared := owned
    cases plan with
    | dropped => rfl
    | plain => simp only [enterPlain_renumber off owned']
    | conditional condition => simp only [enterConditional_renumber off owned' new element]
    | iteration variableName items => simp only [enterIteration_renumber off owned']

end Enter
end Pass

/-! ## Numbers -/

namespace AnnotatedNode
variable {ρ : UInt64 → UInt64}

theorem renumber_element (a : AnnotatedNode) (n : UInt64) :
    { a.renumber ρ with identifier := some (elementIdentifier (ρ n)) } =
      ({ a with identifier := some (elementIdentifier n) } : AnnotatedNode).renumber ρ := by
  simp only [renumber, Option.map_some, renumberIdentifier_element]

theorem renumber_text (a : AnnotatedNode) (n : UInt64) :
    { a.renumber ρ with identifier := some (textIdentifier (ρ n)) } =
      ({ a with identifier := some (textIdentifier n) } : AnnotatedNode).renumber ρ := by
  simp only [renumber, Option.map_some, renumberIdentifier_text]

end AnnotatedNode

theorem AnnotatedTree.exists_of_element? {t : AnnotatedTree} {id : AnnotatedId} {node : NodeId}
    (source : t.element? id = some node) :
    ∃ a, t.get? id = some a ∧ a.isText = false ∧ a.source = node := by
  obtain ⟨a, found, isSource⟩ := Option.bind_eq_some_iff.1 source
  split at isSource
  · cases isSource
  · next element => exact ⟨a, found, Bool.eq_false_of_not_eq_true element, Option.some.inj isSource⟩

/-- The nodes that are in `W'` and not in `W` stand for numbered elements from `k` on. -/
def AnnotatedTree.Traces (k : AnnotatedId) (W W' : NodeId → Bool) (t : AnnotatedTree) : Prop :=
  ∀ n, W' n = true → W n = true ∨
    ∃ id, k ≤ id ∧ t.element? id = some n ∧ t.isNumbered id = true

namespace AnnotatedTree.Traces
variable {k k' : AnnotatedId} {W W' W₁ : NodeId → Bool} {t u : AnnotatedTree}
  {parent : Option AnnotatedId} {F : Forest}

theorem refl (k : AnnotatedId) (W : NodeId → Bool) (t : AnnotatedTree) : t.Traces k W W :=
  fun _ written => .inl written

theorem trans (first : t.Traces k W W₁) (second : t.Traces k' W₁ W') (later : k ≤ k') :
    t.Traces k W W' := by
  intro n written
  rcases second n written with earlier | ⟨id, isNew, source, numbered⟩
  · exact first n earlier
  · exact .inr ⟨id, later.trans isNew, source, numbered⟩

theorem grows (traces : t.Traces k W W') (grows : t.Grows parent F u) : u.Traces k W W' := by
  intro n written
  refine (traces n written).imp_right fun ⟨id, isNew, source, numbered⟩ => ⟨id, isNew, ?_, ?_⟩
  · rw [grows.element?_old (lt_size_of_element? source), source]
  · rw [grows.isNumbered_old (lt_size_of_element? source), numbered]

end AnnotatedTree.Traces

namespace Pass
variable {ρ : UInt64 → UInt64} {W : NodeId → Bool} {u : ComponentTable} {s t : Pass}
  {id : AnnotatedId} {node : NodeId} {tag : String} {around : Surroundings}

theorem draw_renumber (steps : ∀ c, ρ (c + 1) = ρ c + 1) :
    (s.renumber ρ W u).draw = (ρ s.draw.1, s.draw.2.renumber ρ W u) := by
  unfold draw renumber
  rw [steps]
  rfl

/-! ## Texts -/

theorem Pieces.document_size_le {parent : AnnotatedId} (pieces : Pieces parent s t) :
    s.document.size ≤ t.document.size := by
  induction pieces with
  | refl => exact Nat.le_refl _
  | @literal m _ contents position ih =>
      exact ih.trans (Nat.le_of_lt (m.document.size_add _ _ ▸ Nat.lt_succ_self _))
  | @placeholder m _ position expr ih =>
      exact ih.trans (Nat.le_of_lt (m.document.size_add _ _ ▸ Nat.lt_succ_self _))

section Texts
variable (steps : ∀ c, ρ (c + 1) = ρ c + 1)

theorem addLiteral_renumber (new : W s.document.size = false) (parent : AnnotatedId)
    (keepBlanks : Bool) (position : Position) (text : String) :
    (s.renumber ρ W u).addLiteral parent keepBlanks position text =
      (s.addLiteral parent keepBlanks position text).renumber ρ W u := by
  unfold addLiteral
  dsimp only
  split
  · rfl
  · rw [addText_renumber new, annotate_renumber]

include steps

theorem addPlaceholder_renumber (new : W s.document.size = false) (parent : AnnotatedId)
    (position : Position) (expr : Binding.Expr) :
    (s.renumber ρ W u).addPlaceholder parent position expr =
      (s.addPlaceholder parent position expr).renumber ρ W u := by
  unfold addPlaceholder
  rw [addText_renumber new]
  dsimp only
  rw [annotate_renumber]
  dsimp only
  rw [draw_renumber steps]
  exact update_renumber_of (fun a => a.renumber_text _) _

theorem splitText_renumber (new : ∀ n, s.document.size ≤ n → W n = false) (parent : AnnotatedId)
    (keepBlanks : Bool) (position : Position) (segments : Binding.Segments) :
    (s.renumber ρ W u).splitText parent keepBlanks position segments =
      (s.splitText parent keepBlanks position segments).renumber ρ W u := by
  unfold splitText
  generalize segments.bound = bound
  induction bound generalizing s with
  | nil => exact addLiteral_renumber (new _ (Nat.le_refl _)) parent keepBlanks position _
  | cons segment bound ih =>
      obtain ⟨text, expr⟩ := segment
      have literal : Pieces parent s (s.addLiteral parent keepBlanks position text) :=
        pieces_addLiteral s text
      have placed := literal.placeholder position expr
      rw [List.foldl_cons, List.foldl_cons]
      dsimp only at ih ⊢
      rw [addLiteral_renumber (new _ (Nat.le_refl _)),
        addPlaceholder_renumber steps (new _ literal.document_size_le)]
      exact ih fun n isNew => new n (placed.document_size_le.trans isNew)

omit steps in
theorem showText_renumber (off : W node = false) (parent : AnnotatedId) (keepBlanks : Bool)
    (text : String) : (s.renumber ρ W u).showText node parent keepBlanks text =
      (s.showText node parent keepBlanks text).renumber ρ W u := by
  have written (shown : String) : (s.renumber ρ W u).mapDocument (·.setText node shown) =
      (s.mapDocument (·.setText node shown)).renumber ρ W u :=
    mapDocument_renumber (Document.update_renumber_of_off off _)
  unfold showText
  dsimp only
  rw [written, ← apply_ite (renumber ρ W u)]
  split
  · rfl
  · rw [annotate_renumber]

theorem visitText_renumber (off : W node = false) (new : ∀ n, s.document.size ≤ n → W n = false)
    (around : Surroundings) (text : String) : (s.renumber ρ W u).visitText around node text =
      (s.visitText around node text).renumber ρ W u := by
  unfold visitText
  split
  · rfl
  · next parent _ =>
    dsimp only
    split
    · exact showText_renumber off parent around.keepBlanks text
    · rw [takeOverChildren_renumber, Document.position_of_skeleton node (skeleton_renumber (s := s))]
      exact splitText_renumber (s := s.takeOverChildren parent) steps new parent _ _ _

end Texts

/-! ## Identifiers -/

theorem markQuery_renumber (id : AnnotatedId) :
    (s.renumber ρ W u).markQuery id = (s.markQuery id).renumber ρ W u := by
  unfold markQuery
  rw [annotations_renumber, AnnotatedTree.ancestors_renumber, AnnotatedTree.isBuilt_renumber]
  split
  · next ancestor _ =>
    exact update_renumber (f := fun a => { a with hasQuery := true }) (fun _ => rfl) ancestor
  · rfl

section Steps
variable (steps : ∀ c, ρ (c + 1) = ρ c + 1)
include steps

theorem number_renumber (id : AnnotatedId) (source : NodeId) :
    (s.renumber ρ W u).number id source = (s.number id source).renumber ρ
      (if s.annotations.isBuilt id then W else Function.update W source true) u := by
  unfold number
  rw [draw_renumber steps]
  dsimp only
  rw [annotations_renumber, AnnotatedTree.isBuilt_renumber]
  change Pass.update (if s.annotations.isBuilt id = true then _ else _) id _ =
    (Pass.update (if s.annotations.isBuilt id = true then _ else _) id _).renumber ρ _ u
  cases s.annotations.isBuilt id with
  | true => exact update_renumber_of (fun a => a.renumber_element _) id
  | false =>
      simp only [Bool.false_eq_true, if_false]
      rw [mapDocument_renumber (g := (·.setAttribute source "id" (elementIdentifier s.draw.1)))]
      · exact update_renumber_of (fun a => a.renumber_element _) id
      · rw [← renumberIdentifier_element]
        exact Document.setAttribute_renumber source _

/-- The identifier of an element may be written to its source. -/
theorem identify_renumber (source : s.annotations.element? id = some node) :
    ∃ W', (s.renumber ρ W u).identify id = (s.identify id).renumber ρ W' u ∧
      ∀ n, W' n = true →
        W n = true ∨ n = node ∧ (s.identify id).annotations.isNumbered id = true := by
  obtain ⟨a, found, element, rfl⟩ := AnnotatedTree.exists_of_element? source
  have found' : (s.renumber ρ W u).annotations.get? id = some (a.renumber ρ) := by
    rw [annotations_renumber, AnnotatedTree.get?_renumber, found, Option.map_some]
  rcases identify_cases found with ⟨settled, same⟩ | ⟨fresh, needed⟩
  · refine ⟨W, ?_, fun n written => .inl written⟩
    rw [same]
    refine identify_eq_self found' ?_
    rw [← settled]
    exact congrArg (· || !a.needsIdentifier) (Option.isSome_map ..)
  · refine ⟨if s.annotations.isBuilt id then W else Function.update W a.source true, ?_,
      fun n written => ?_⟩
    · have fresh' : (a.renumber ρ).identifier = none := by rw [AnnotatedNode.renumber, fresh]; rfl
      rw [identify_eq found fresh needed, identify_eq found' fresh' needed, markQuery_renumber,
        ← isBuilt_markQuery]
      exact number_renumber steps id a.source
    · have numbered := (isNumbered_identify found fresh needed element id).2 (.inr rfl)
      split at written
      · exact .inl written
      · rw [Function.update_apply] at written
        split at written
        · next here => exact .inr ⟨here, numbered⟩
        · exact .inl written

omit steps in
theorem traces_identify {k : AnnotatedId} {W' : NodeId → Bool}
    (traces : s.annotations.Traces k W W') (source : s.annotations.element? id = some node) :
    (s.identify id).annotations.Traces k W W' := by
  obtain ⟨a, found, element, -⟩ := AnnotatedTree.exists_of_element? source
  rcases identify_cases found with ⟨-, same⟩ | ⟨fresh, needed⟩
  · rwa [same]
  · intro n written
    refine (traces n written).imp_right fun ⟨other, isNew, elsewhere, numbered⟩ =>
      ⟨other, isNew, (element?_identify s id other).trans elsewhere, ?_⟩
    exact (isNumbered_identify found fresh needed element other).2 (.inl numbered)

theorem foldl_identify_renumber {ids : List AnnotatedId} {k : AnnotatedId} {W₀ : NodeId → Bool}
    (opened : ∀ id ∈ ids, k ≤ id ∧ ∃ n, s.annotations.element? id = some n)
    (traces : s.annotations.Traces k W₀ W) :
    ∃ W', ids.foldl identify (s.renumber ρ W u) = (ids.foldl identify s).renumber ρ W' u ∧
      (ids.foldl identify s).annotations.Traces k W₀ W' := by
  induction ids generalizing s W with
  | nil => exact ⟨W, rfl, traces⟩
  | cons id ids ih =>
      obtain ⟨⟨isNew, node, source⟩, later⟩ := List.forall_mem_cons.1 opened
      obtain ⟨W', same, written⟩ := identify_renumber (W := W) (u := u) steps source
      rw [List.foldl_cons, List.foldl_cons, same]
      refine ih (fun other member => ?_) fun n isWritten => ?_
      · rw [element?_identify]
        exact later other member
      · rcases written n isWritten with earlier | ⟨rfl, numbered⟩
        · exact traces_identify traces source n earlier
        · exact .inr ⟨id, isNew, (element?_identify s id id).trans source, numbered⟩

end Steps

/-! ## Walks -/

theorem Entered.element_opened {parent : Option AnnotatedId} {entry : Entry}
    (entered : Entered parent node tag s t entry) : ∀ id ∈ entry.opened,
      s.annotations.nodes.size ≤ id ∧ ∃ n, t.annotations.element? id = some n := by
  have made {parent : Option AnnotatedId} {node : NodeId} {directive : Option Directive} {s t : Pass}
      (enters : EntersAs parent node tag directive s t) :
      ∃ n, t.annotations.element? s.annotations.nodes.size = some n := by
    obtain ⟨a, here, leaf⟩ := enters.tree.here
    exact ⟨_, AnnotatedTree.element?_eq here leaf.isText⟩
  cases entered with
  | whole enters opened _ =>
      rw [opened]
      intro id member
      rw [List.mem_singleton.1 member]
      exact ⟨Nat.le_refl _, made enters⟩
  | @split host t entry condition enters _ content opened _ =>
      have size : (host.mapDocument fun _ => (splitContent s.document node).2).annotations.nodes.size =
          s.annotations.nodes.size + 1 := by
        rw [annotations_mapDocument]
        exact enters.size
      rw [opened]
      intro id member
      rcases List.mem_cons.1 member with rfl | member
      · rw [← size]
        exact ⟨size ▸ Nat.le_succ _, made content⟩
      · obtain rfl := List.mem_singleton.1 member
        refine ⟨Nat.le_refl _, ?_⟩
        obtain ⟨a, here, leaf⟩ := enters.tree.here
        obtain ⟨a', after, core⟩ := content.exists_core here
        exact ⟨_, AnnotatedTree.element?_eq after
          ((AnnotatedNode.isText_of_core core).trans leaf.isText)⟩

section Walk
variable {d : Document} {holder : Option NodeId} {below rest : Forest} {entry : Entry}

namespace Spares
variable (spares : Spares W holder (.cons node below rest) s)
  (awaits : Awaits d around.parent holder (.cons node below rest) s)
include spares awaits

theorem enter (element : s.document.tag? node = some tag)
    (found : s.enter around node tag = (t, some entry)) :
    Spares W (some (entry.holder s node)) below t where
  inside n written := by
    refine Nat.lt_of_lt_of_le (spares.inside n written) ?_
    have entered := entered_of_enter awaits.walkable.valid found
    rcases entered.cases element awaits.walkable.fits with
      ⟨directive, enters, -, -⟩ | ⟨d', host, divided, -, -⟩
    · exact (enters.opens awaits.walkable.fits.first).size
    · rw [divided.document_size]
      exact Nat.le_succ _
  above q isHolder := by
    obtain rfl := Option.some.inj isHolder
    rw [Entry.holder]
    split
    · exact spares.ahead node List.mem_cons_self
    · exact spares.new (Nat.le_refl _)
  ahead n member := spares.ahead n (List.mem_cons_of_mem _ (List.mem_append_left _ member))

theorem later {W' : NodeId → Bool} (visits : Visits (.cons node below .nil) around s t)
    (traces : t.annotations.Traces s.annotations.nodes.size W W') : Spares W' holder rest t := by
  have walkable := awaits.walkable
  have fits := walkable.fits
  have sourced := visits.sourced walkable.first
  obtain ⟨f', covers⟩ := visits.covers walkable.valid fits.first
  have grows := covers.reworks.size
  have located {n : NodeId} (written : W' n = true) : W n = true ∨
      n ∈ (Forest.cons node below .nil).preorder ∨ s.document.size ≤ n ∧ n < t.document.size := by
    refine (traces n written).imp_right fun ⟨id, isNew, source, _⟩ => ?_
    obtain ⟨a, found, -, rfl⟩ := AnnotatedTree.exists_of_element? source
    exact sourced.located id a isNew found
  refine ⟨fun n written => ?_, fun q isHolder => ?_, fun n member => ?_⟩
  · rcases located written with earlier | walked | isNew
    · exact Nat.lt_of_lt_of_le (spares.inside n earlier) grows
    · exact Nat.lt_of_lt_of_le (fits.first.inside n walked) grows
    · exact isNew.2
  · obtain ⟨inside, outside⟩ := awaits.above q isHolder
    refine Bool.eq_false_iff.2 fun written => ?_
    rcases located written with earlier | walked | isNew
    · rw [spares.above q isHolder] at earlier
      cases earlier
    · exact outside (Forest.mem_preorder_of_tree walked)
    · exact Nat.not_le_of_gt inside isNew.1
  · have whole := List.mem_cons_of_mem node (List.mem_append_right below.preorder member)
    refine Bool.eq_false_iff.2 fun written => ?_
    rcases located written with earlier | walked | isNew
    · rw [spares.ahead n whole] at earlier
      cases earlier
    · exact fits.not_mem_first member walked
    · exact Nat.not_le_of_gt (fits.inside n whole) isNew.1

end Spares

variable (steps : ∀ c, ρ (c + 1) = ρ c + 1)
include steps

theorem visitTree_renumber (awaits : Awaits d around.parent holder (.cons node below rest) s)
    (spares : Spares W holder (.cons node below rest) s)
    (owned : ∀ o ∈ around.owner, o ∈ s.file.declared)
    (ih : ∀ {around : Surroundings} {holder : Option NodeId} {s : Pass} {W : NodeId → Bool},
      Awaits d around.parent holder below s → Spares W holder below s →
      (∀ o ∈ around.owner, o ∈ s.file.declared) →
      ∃ W', (s.renumber ρ W u).visitForest below around =
          (s.visitForest below around).renumber ρ W' u ∧
        (s.visitForest below around).annotations.Traces s.annotations.nodes.size W W') :
    ∃ W', (s.renumber ρ W u).visitForest (.cons node below .nil) around =
        (s.visitForest (.cons node below .nil) around).renumber ρ W' u ∧
      (s.visitForest (.cons node below .nil) around).annotations.Traces
        s.annotations.nodes.size W W' := by
  have off := spares.ahead node List.mem_cons_self
  have data : (s.renumber ρ W u).document.data? node = s.document.data? node :=
    Document.data?_renumber_of_off off
  cases element : s.document.tag? node with
  | none =>
      have element' := (Document.tag?_of_data? data).trans element
      cases text : s.document.text? node with
      | none =>
          refine ⟨W, ?_, .refl _ W _⟩
          rw [visitTree_of_other below element text, visitTree_of_other below element'
            ((Document.text?_of_data? data).trans text)]
      | some contents =>
          have held := Document.text?_eq_some.1 text
          refine ⟨W, ?_, .refl _ W _⟩
          rw [visitTree_of_text below held, visitTree_of_text below (data.trans held)]
          exact visitText_renumber steps off (fun n isNew => spares.new isNew) around contents
  | some tag =>
      have element' := (Document.tag?_of_data? data).trans element
      have enters := enter_renumber (ρ := ρ) (u := u) awaits spares owned element
      cases left : (s.enter around node tag).2 with
      | none =>
          refine ⟨W, ?_, .refl _ W _⟩
          rw [visitTree_of_left below element left,
            visitTree_of_left below element' (by rw [enters]; exact left), enters]
      | some entry =>
          have found : s.enter around node tag = ((s.enter around node tag).1, some entry) :=
            Prod.ext rfl left
          have entered := entered_of_enter awaits.walkable.valid found
          have marked := marked_enter element found
          have inside := awaits.inside element found
          obtain ⟨W₁, same, traces⟩ := ih inside (spares.enter awaits element found) (by
            rw [declared_of_basis marked.basis]
            exact marked.owned owned)
          rw [visitTree_of_entered below element left,
            visitTree_of_entered below element' (by rw [enters]; exact left), enters]
          dsimp only
          rw [same]
          -- Identifiers are written when the walk comes back, to the nodes that were entered.
          have visits : Visits below entry.inner (s.enter around node tag).1 _ :=
            visits_visitForest inside.walkable.valid
          obtain ⟨F, grown, -⟩ := visits.grown inside.walkable.valid
          refine foldl_identify_renumber steps (fun id member => ?_)
            ((AnnotatedTree.Traces.refl _ W _).trans traces (Nat.le_of_lt entered.size.1))
          obtain ⟨isNew, n, source⟩ := entered.element_opened id member
          exact ⟨isNew, n, (grown.tree.element?_old
            (AnnotatedTree.lt_size_of_element? source)).trans source⟩

/-- Everywhere in the tree the pass with other numbers does the same, under its numbers. -/
theorem visitForest_renumber {f : Forest} (awaits : Awaits d around.parent holder f s)
    (spares : Spares W holder f s) (owned : ∀ o ∈ around.owner, o ∈ s.file.declared) :
    ∃ W', (s.renumber ρ W u).visitForest f around = (s.visitForest f around).renumber ρ W' u ∧
      (s.visitForest f around).annotations.Traces s.annotations.nodes.size W W' := by
  -- What is written on the way is not read again: the trees to come are spared by the first one.
  induction f generalizing around holder s W with
  | nil => exact ⟨W, rfl, .refl _ W _⟩
  | cons node below rest ihBelow ihRest =>
      obtain ⟨W₁, first, traces⟩ := visitTree_renumber steps awaits spares owned ihBelow
      have visits : Visits (.cons node below .nil) around s _ :=
        visits_visitForest awaits.walkable.valid
      obtain ⟨later, -⟩ := awaits.later visits
      obtain ⟨W', second, traces'⟩ := ihRest later (spares.later awaits visits traces) (by
        rwa [declared_of_basis visits.basis])
      have visits' : Visits rest around (s.visitForest (.cons node below .nil) around) _ :=
        visits_visitForest later.walkable.valid
      obtain ⟨F, grown, -⟩ := visits'.grown later.walkable.valid
      refine ⟨W', ?_, ?_⟩
      · rw [visitForest_cons, visitForest_cons s, first, second]
      · rw [visitForest_cons]
        exact (traces.grows grown.tree).trans traces' visits.size_le

end Walk
end Pass
end ComponentMarkup
