import ComponentMarkup.Annotated.Identify
import ComponentMarkup.Proofs.Annotated.Growth
import Mathlib.Data.List.Basic

/-!
Generated identifiers and the numbers in them. Read from below, node by node, they are the numbers
that the walk has drawn, in the order in which it drew them.
-/

namespace ComponentMarkup

theorem Text.after?_append (lead rest : String) : after? lead (lead ++ rest) = some rest := by
  have found : afterLead? lead.toList (lead ++ rest).toList = some rest.toList := by
    rw [afterLead?_eq_some, String.toList_append]
  rw [after?, found, Option.map_some, String.ofList_toList]

theorem readNumber?_toString (n : UInt64) : readNumber? (toString n.toNat).toList = some n := by
  have written : (toString n.toNat).toList = Nat.toDigits 10 n.toNat := Nat.toList_repr
  have digits : (Nat.toDigits 10 n.toNat).all Char.isDigit = true :=
    List.all_eq_true.2 fun c member => Nat.isDigit_of_mem_toDigits (by decide) (by decide) member
  have value : (Nat.toDigits 10 n.toNat).foldl (fun n c => n * 10 + (c.toNat - '0'.toNat)) 0 =
      n.toNat := by
    have read := Nat.ofDigitChars_ten_toDigits (n := n.toNat)
    rw [Nat.ofDigitChars_eq_foldl] at read
    simpa only [Nat.mul_comm 10] using read
  have nonempty : (Nat.toDigits 10 n.toNat).isEmpty = false := by
    rw [List.isEmpty_eq_false_iff]
    exact Nat.toDigits_ne_nil
  rw [written]
  cases all : Nat.toDigits 10 n.toNat with
  | nil => exact absurd all Nat.toDigits_ne_nil
  | cons c cs =>
      have digit : c.isDigit = true := by
        rw [all, List.all_cons, Bool.and_eq_true] at digits
        exact digits.1
      have unsigned : c ≠ '+' := by
        rintro rfl
        cases digit
      rw [all] at digits value
      unfold readNumber?
      split
      · next rest same => exact absurd (List.cons.inj same).1 unsigned
      · simp only [List.isEmpty_cons, digits, Bool.not_true, Bool.or_self, Bool.false_eq_true,
          if_false]
        rw [value, if_pos n.toNat_lt, UInt64.ofNat_toNat]

@[simp] theorem identifierNumber?_elementIdentifier (n : UInt64) :
    identifierNumber? (elementIdentifier n) = some n := by
  rw [identifierNumber?, elementIdentifier, Text.after?_append]
  exact readNumber?_toString n

@[simp] theorem identifierNumber?_textIdentifier (n : UInt64) :
    identifierNumber? (textIdentifier n) = some n := by
  have other : Text.after? "__e-" (textIdentifier n) = none := by
    rw [Text.after?, textIdentifier, String.toList_append]
    rfl
  rw [identifierNumber?, other, textIdentifier]
  dsimp only
  rw [Text.after?_append]
  exact readNumber?_toString n

@[simp] theorem identifierNumber?_rootIdentifier : identifierNumber? rootIdentifier = none := by
  decide

/-- The number in the identifier of a node, if it has a numbered one. -/
def AnnotatedTree.number? (t : AnnotatedTree) (id : AnnotatedId) : Option UInt64 :=
  ((t.get? id).bind AnnotatedNode.identifier).bind identifierNumber?

/-- The next numbers of a counter that stands at `c`. -/
def drawnFrom (c : UInt64) (count : Nat) : List UInt64 :=
  (List.range count).map fun i => c + UInt64.ofNat i

theorem drawnFrom_add (c : UInt64) (j k : Nat) :
    drawnFrom c (j + k) = drawnFrom c j ++ drawnFrom (c + UInt64.ofNat j) k := by
  simp only [drawnFrom, List.range_add, List.map_append, List.map_map]
  congr 1
  apply List.map_congr_left
  intro i _
  simp only [Function.comp_apply, UInt64.ofNat_add, UInt64.add_assoc]

namespace AnnotatedTree
variable {t u : AnnotatedTree} {parent : Option AnnotatedId} {F : Forest} {id : AnnotatedId}

theorem number?_eq {a : AnnotatedNode} (found : t.get? id = some a) :
    t.number? id = a.identifier.bind identifierNumber? := by
  rw [number?, found, Option.bind_some]

theorem Grows.number?_old (grows : Grows parent F t u) (inside : id < t.nodes.size) :
    u.number? id = t.number? id := by
  obtain ⟨a, found⟩ := get?_isSome inside
  obtain ⟨a', found', core⟩ := grows.core found
  rw [number?_eq found, number?_eq found', AnnotatedNode.identifier_of_core core]

end AnnotatedTree

namespace Pass

/-- A pass has hung a forest below `parent` and numbered what is in it. -/
structure Grown (parent : Option AnnotatedId) (F : Forest) (s t : Pass) : Prop where
  tree : s.annotations.Grows parent F t.annotations
  labelled : ∀ id ∈ F.preorder, ∀ a, t.annotations.get? id = some a → a.Labelled
  drawn : ∃ count, t.counter = s.counter + UInt64.ofNat count ∧
    F.postorder.filterMap t.annotations.number? = drawnFrom s.counter count

namespace Grown
variable {s t u : Pass} {parent : Option AnnotatedId} {F G : Forest} {id : AnnotatedId}

theorem nil (parent : Option AnnotatedId) (s : Pass) : Grown parent .nil s s where
  tree := .nil parent s.annotations
  labelled := by
    intro id member
    cases member
  drawn := ⟨0, (UInt64.add_zero _).symm, rfl⟩

theorem numbers_old (second : t.annotations.Grows parent G u.annotations)
    (older : ∀ n ∈ F.preorder, n < t.annotations.nodes.size) :
    F.postorder.filterMap u.annotations.number? = F.postorder.filterMap t.annotations.number? := by
  apply List.filterMap_congr
  intro n member
  exact second.number?_old (older n (F.postorder_perm_preorder.mem_iff.1 member))

theorem trans (first : Grown parent F s t) (second : Grown parent G t u)
    (valid : ∀ q ∈ parent, q < s.annotations.nodes.size) : Grown parent (F.append G) s u where
  tree := first.tree.trans second.tree valid
  labelled := by
    intro n member a found
    rw [Forest.preorder_append, List.mem_append] at member
    rcases member with member | member
    · obtain ⟨b, old⟩ := AnnotatedTree.get?_isSome (first.tree.mem_preorder.1 member).2
      obtain ⟨b', found', core⟩ := second.tree.core old
      obtain rfl := Option.some.inj (found.symm.trans found')
      exact (first.labelled n member b old).of_core core
    · exact second.labelled n member a found
  drawn := by
    obtain ⟨j, counted, numbers⟩ := first.drawn
    obtain ⟨k, counted', numbers'⟩ := second.drawn
    refine ⟨j + k, ?_, ?_⟩
    · rw [counted', counted, UInt64.ofNat_add, UInt64.add_assoc]
    · rw [Forest.postorder_append, List.filterMap_append, numbers', drawnFrom_add, ← counted,
        numbers_old second.tree fun n member => (first.tree.mem_preorder.1 member).2, numbers]

/-- A new node without a number, and what grows below it. -/
theorem nest {P : AnnotatedNode → Prop} (opened : s.annotations.Opened parent id P t.annotations)
    (counter : t.counter = s.counter)
    (leaf : ∀ a, P a → a.parent = parent ∧ a.children = [] ∧ a.Labelled ∧ a.isPlaceholder = false ∧
      a.identifier.bind identifierNumber? = none)
    (inside : Grown (some id) F t u) (valid : ∀ q ∈ parent, q < s.annotations.nodes.size) :
    Grown parent (.cons id F .nil) s u := by
  obtain ⟨a, found, holds⟩ := opened.here
  obtain ⟨-, -, labelled, placeholder, unnumbered⟩ := leaf a holds
  obtain ⟨a', found', core⟩ := inside.tree.core found
  refine ⟨?_, ?_, ?_⟩
  · refine inside.tree.nest opened (fun b holds => ⟨(leaf b holds).1, (leaf b holds).2.1⟩) ?_ valid
    intro b holds bound
    rw [(leaf b holds).2.2.2.1] at bound
    cases bound
  · intro n member b foundB
    rw [Forest.preorder, Forest.preorder, List.append_nil, List.mem_cons] at member
    rcases member with rfl | member
    · obtain rfl := Option.some.inj (foundB.symm.trans found')
      exact labelled.of_core core
    · exact inside.labelled n member b foundB
  · obtain ⟨k, counted, numbers⟩ := inside.drawn
    refine ⟨k, counted.trans (by rw [counter]), ?_⟩
    have own : u.annotations.number? id = none := by
      rw [AnnotatedTree.number?_eq found', AnnotatedNode.identifier_of_core core, unnumbered]
    rw [Forest.postorder, Forest.postorder, List.filterMap_append, numbers, counter,
      List.filterMap_cons_none own, List.filterMap_nil, List.append_nil]

/-- The node on top gets the number that comes next, if it gets one. -/
theorem identify (grown : Grown parent (.cons id F .nil) s t)
    (top : ∃ a, t.annotations.get? id = some a ∧ a.parent = parent ∧ a.isText = false)
    (valid : ∀ q ∈ parent, q < s.annotations.nodes.size) :
    Grown parent (.cons id F .nil) s (t.identify id) := by
  obtain ⟨a, found, under, element⟩ := top
  rcases identify_cases found with ⟨-, same⟩ | ⟨fresh, needed⟩
  · rwa [same]
  have get := get?_identify found fresh needed
  refine ⟨grown.tree.identify ((AnnotatedTree.parent?_eq found).trans under) valid, ?_, ?_⟩
  · intro n member b' foundB'
    rw [get] at foundB'
    obtain ⟨b, foundB, rfl⟩ := Option.map_eq_some_iff.1 foundB'
    by_cases same : id = n
    · subst same
      obtain rfl := Option.some.inj (found.symm.trans foundB)
      have root : a.isRoot = false := by
        rw [AnnotatedNode.needsIdentifier_eq, Bool.and_eq_true, Bool.not_eq_true'] at needed
        exact needed.1
      simp only [AnnotatedNode.Labelled, if_pos]
      change if a.isText = true then _ else if a.isRoot = true then _ else _
      rw [element, root]
      exact ⟨_, rfl⟩
    · have labelled := grown.labelled n member b foundB
      simp only [AnnotatedNode.Labelled, if_neg same]
      exact labelled
  · obtain ⟨k, counted, numbers⟩ := grown.drawn
    have apart : id ∉ F.postorder := by
      have distinct : (Forest.cons id F .nil).preorder.Nodup := by
        rw [grown.tree.numbered]
        exact List.nodup_range'
      rw [Forest.preorder, Forest.preorder, List.append_nil, List.nodup_cons] at distinct
      exact fun member => distinct.1 (F.postorder_perm_preorder.mem_iff.1 member)
    have before : t.annotations.number? id = none := by
      rw [AnnotatedTree.number?_eq found, fresh, Option.bind_none]
    have after : (t.identify id).annotations.number? id = some t.counter := by
      rw [AnnotatedTree.number?, get, found]
      simp only [Option.map_some, Option.bind_some, if_pos, identifierNumber?_elementIdentifier]
    have others : F.postorder.filterMap (t.identify id).annotations.number? =
        F.postorder.filterMap t.annotations.number? := by
      apply List.filterMap_congr
      intro n member
      have different : id ≠ n := fun same => apart (same ▸ member)
      simp only [AnnotatedTree.number?, get, if_neg different]
      cases t.annotations.get? n <;> rfl
    rw [Forest.postorder, Forest.postorder, List.filterMap_append,
      List.filterMap_cons_none before, List.filterMap_nil, List.append_nil] at numbers
    refine ⟨k + 1, ?_, ?_⟩
    · rw [identify_eq found fresh needed, counter_number, counter_markQuery, counted,
        UInt64.ofNat_add, UInt64.add_assoc]
      rfl
    · rw [Forest.postorder, Forest.postorder, List.filterMap_append, others, numbers,
        List.filterMap_cons_some after, List.filterMap_nil, drawnFrom_add, ← counted]
      simp [drawnFrom]

/-- A placeholder has a number of its own. Its parent builds its children already. -/
theorem placeholder {p : AnnotatedId} (s : Pass) (position : Position) (expr : Binding.Expr)
    (inside : p < s.annotations.nodes.size)
    (ready : ∀ b, s.annotations.get? p = some b → b.hasDataBinding = true ∧ b.buildsChildren = true) :
    Grown (some p) (.cons s.annotations.nodes.size .nil .nil) s
        (s.addPlaceholder p position expr) ∧
      (s.addPlaceholder p position expr).annotations.isPlaceholder s.annotations.nodes.size =
        true := by
  have valid : ∀ q ∈ some p, q < s.annotations.nodes.size := fun q same =>
    Option.some.inj same ▸ inside
  have opened : s.annotations.Opened (some p) s.annotations.nodes.size
      (fun a => a.parent = some p ∧ a.children = [] ∧ a.Labelled ∧ a.isPlaceholder = true ∧
        a.identifier = some (textIdentifier s.counter))
      (s.addPlaceholder p position expr).annotations := by
    rw [annotations_addPlaceholder]
    refine (AnnotatedTree.Opened.add valid rfl).update _ ?_
    rintro a rfl
    exact ⟨rfl, rfl, ⟨rfl, rfl, _, rfl⟩, rfl, rfl⟩
  obtain ⟨a, found, -, -, labelled, bound, numbered⟩ := opened.here
  refine ⟨⟨?_, ?_, ?_⟩, ?_⟩
  · refine (AnnotatedTree.Grows.nil _ _).nest opened (fun a holds => ⟨holds.1, holds.2.1⟩) ?_ valid
    intro a _ _ q same b
    exact Option.some.inj same ▸ ready b
  · intro n member b foundB
    obtain rfl := List.mem_singleton.1 member
    obtain rfl := Option.some.inj (found.symm.trans foundB)
    exact labelled
  · refine ⟨1, rfl, ?_⟩
    have number : (s.addPlaceholder p position expr).annotations.number?
        s.annotations.nodes.size = some s.counter := by
      rw [AnnotatedTree.number?_eq found, numbered, Option.bind_some,
        identifierNumber?_textIdentifier]
    rw [Forest.postorder, Forest.postorder, List.nil_append, List.filterMap_cons_some number]
    simp [drawnFrom]
  · rw [AnnotatedTree.isPlaceholder_eq found, bound]

theorem literal {p : AnnotatedId} (s : Pass) (node : NodeId)
    (inside : p < s.annotations.nodes.size) :
    Grown (some p) (.cons s.annotations.nodes.size .nil .nil) s
        (s.annotate node (some p) (.text none)).2 ∧
      (s.annotate node (some p) (.text none)).2.annotations.isPlaceholder
        s.annotations.nodes.size = false := by
  have valid : ∀ q ∈ some p, q < s.annotations.nodes.size := fun q same =>
    Option.some.inj same ▸ inside
  have opened : s.annotations.Opened (some p) s.annotations.nodes.size
      (fun a => a.parent = some p ∧ a.children = [] ∧ a.Labelled ∧ a.isPlaceholder = false ∧
        a.identifier.bind identifierNumber? = none)
      (s.annotate node (some p) (.text none)).2.annotations :=
    .add valid ⟨rfl, rfl, ⟨rfl, rfl⟩, rfl, rfl⟩
  obtain ⟨a, found, -, -, -, plain, -⟩ := opened.here
  refine ⟨nest opened rfl (fun a holds => holds) (.nil _ _) valid, ?_⟩
  rw [AnnotatedTree.isPlaceholder_eq found, plain]

theorem congr_left {s' : Pass} (grown : Grown parent F s t)
    (tree : s'.annotations = s.annotations) (counter : s'.counter = s.counter) :
    Grown parent F s' t := by
  obtain ⟨grows, labelled, drawn⟩ := grown
  rw [← tree] at grows
  rw [← counter] at drawn
  exact ⟨grows, labelled, drawn⟩

theorem ready_of_grows {p : AnnotatedId} (grows : s.annotations.Grows parent F t.annotations)
    (inside : p < s.annotations.nodes.size)
    (ready : ∀ b, s.annotations.get? p = some b → b.hasDataBinding = true ∧ b.buildsChildren = true)
    (b : AnnotatedNode) (found : t.annotations.get? p = some b) :
    b.hasDataBinding = true ∧ b.buildsChildren = true := by
  obtain ⟨a, old⟩ := AnnotatedTree.get?_isSome inside
  obtain ⟨a', found', extended, -⟩ := grows.old p a old
  obtain rfl := Option.some.inj (found.symm.trans found')
  rw [extended.hasDataBinding, extended.buildsChildren, (ready a old).1, (ready a old).2]
  exact ⟨rfl, rfl⟩

end Grown

/-! ## Texts -/

theorem grown_of_pieces {s t : Pass} {p : AnnotatedId} (pieces : Pieces p s t)
    (inside : p < s.annotations.nodes.size)
    (ready : ∀ b, s.annotations.get? p = some b →
      b.hasDataBinding = true ∧ b.buildsChildren = true) :
    ∃ F, Grown (some p) F s t := by
  have valid : ∀ q ∈ some p, q < s.annotations.nodes.size := fun q same =>
    Option.some.inj same ▸ inside
  induction pieces with
  | refl => exact ⟨.nil, .nil _ s⟩
  | @literal t pieces contents position ih =>
      obtain ⟨F, grown⟩ := ih
      have new := (Grown.literal (t.addText contents position).2 t.document.size
        (Nat.lt_of_lt_of_le inside pieces.size_le)).1
      exact ⟨_, grown.trans (new.congr_left rfl rfl) valid⟩
  | placeholder pieces position expr ih =>
      obtain ⟨F, grown⟩ := ih
      refine ⟨_, grown.trans (Grown.placeholder _ position expr ?_ ?_).1 valid⟩
      · exact Nat.lt_of_lt_of_le inside pieces.size_le
      · exact Grown.ready_of_grows grown.tree inside ready

/-- Visiting a text below a node adds a placeholder exactly when the text holds a binding. -/
theorem grown_visitText {s : Pass} {around : Surroundings} {p : AnnotatedId}
    (under : around.parent = some p) (inside : p < s.annotations.nodes.size) (node : NodeId)
    (text : String) : ∃ F, Grown (some p) F s (s.visitText around node text) ∧
      F.tops.any (s.visitText around node text).annotations.isPlaceholder =
        Binding.hasBinding text := by
  cases bound : Binding.hasBinding text with
  | false =>
      obtain ⟨m, same, shown⟩ := visitText_of_unbound s node under bound
      have kept : s.annotations = m.annotations ∧ s.counter = m.counter := by
        rcases same with rfl | ⟨_, rfl⟩ <;> exact ⟨rfl, rfl⟩
      rcases shown with shown | shown
      · rw [shown]
        exact ⟨.nil, (Grown.nil _ m).congr_left kept.1 kept.2, rfl⟩
      · rw [shown]
        obtain ⟨grown, plain⟩ := Grown.literal m node (kept.1 ▸ inside)
        refine ⟨_, grown.congr_left kept.1 kept.2, ?_⟩
        rw [Forest.tops, Forest.tops, List.any_cons, plain]
        rfl
  | true =>
      obtain ⟨m, position, expr, before, after⟩ := visitText_of_bound s node under bound
      generalize s.visitText around node text = shown at after ⊢
      have ready : ∀ b, (s.takeOverChildren p).annotations.get? p = some b →
          b.hasDataBinding = true ∧ b.buildsChildren = true := by
        intro b found
        obtain ⟨a, old⟩ := AnnotatedTree.get?_isSome inside
        rw [takeOverChildren, annotations_update, AnnotatedTree.get?_update_self _ _ old] at found
        obtain rfl := Option.some.inj found
        exact ⟨rfl, rfl⟩
      have size : (s.takeOverChildren p).annotations.nodes.size = s.annotations.nodes.size :=
        s.annotations.size_update p _
      have inside' : p < (s.takeOverChildren p).annotations.nodes.size := size ▸ inside
      have valid : ∀ q ∈ some p, q < (s.takeOverChildren p).annotations.nodes.size :=
        fun q same => Option.some.inj same ▸ inside'
      obtain ⟨F, grownBefore⟩ := grown_of_pieces before inside' ready
      have ready' := Grown.ready_of_grows grownBefore.tree inside' ready
      have inside'' := Nat.lt_of_lt_of_le inside' before.size_le
      obtain ⟨grownHere, isPlaceholder⟩ := Grown.placeholder m position expr inside'' ready'
      obtain ⟨G, grownAfter⟩ := grown_of_pieces after
        (Nat.lt_of_lt_of_le inside'' grownHere.tree.size)
        (Grown.ready_of_grows grownHere.tree inside'' ready')
      have whole := (grownBefore.trans grownHere valid).trans grownAfter valid
      have here : m.annotations.nodes.size ∈
          ((F.append (.cons m.annotations.nodes.size .nil .nil)).append G).tops := by
        simp [Forest.tops]
      have any : ((F.append (.cons m.annotations.nodes.size .nil .nil)).append G).tops.any
          shown.annotations.isPlaceholder = true := by
        rw [List.any_eq_true]
        refine ⟨_, here, ?_⟩
        rw [grownAfter.tree.isPlaceholder_old (grownHere.tree.lt_of_mem_tops List.mem_cons_self),
          isPlaceholder]
      exact ⟨_, ⟨whole.tree.of_takeOver any, whole.labelled, whole.drawn⟩, any⟩

/-! ## Elements -/

variable {s t u : Pass} {parent : Option AnnotatedId} {node : NodeId} {tag : String}

theorem EntersAs.grown {directive : Option Directive} {F : Forest}
    (enters : EntersAs parent node tag directive s t)
    (inside : Grown (some s.annotations.nodes.size) F t u)
    (valid : ∀ q ∈ parent, q < s.annotations.nodes.size) :
    Grown parent (.cons s.annotations.nodes.size F .nil) s u ∧
      ∃ a, u.annotations.get? s.annotations.nodes.size = some a ∧ a.parent = parent ∧
        a.isText = false := by
  refine ⟨.nest enters.tree enters.counter (fun a leaf => ?_) inside valid, ?_⟩
  · have plain : a.isPlaceholder = false := AnnotatedNode.isPlaceholder_of_element leaf.isText
    refine ⟨leaf.parent, leaf.children, ?_, plain, ?_⟩
    · rw [AnnotatedNode.Labelled, leaf.identifier]
      cases root : a.isRoot with
      | true => simp [leaf.isText]
      | false => simp [plain]
    · rw [leaf.identifier]
      cases a.isRoot with
      | true => exact identifierNumber?_rootIdentifier
      | false => rfl
  · obtain ⟨a, found, leaf⟩ := enters.tree.here
    obtain ⟨a', found', core⟩ := inside.tree.core found
    exact ⟨a', found', (AnnotatedNode.parent_of_core core).trans leaf.parent,
      (AnnotatedNode.isText_of_core core).trans leaf.isText⟩

theorem Entered.grown {entry : Entry} {F : Forest} (entered : Entered parent node tag s t entry)
    (inside : Grown entry.inner.parent F t u)
    (valid : ∀ q ∈ parent, q < s.annotations.nodes.size) :
    ∃ G, Grown parent (.cons s.annotations.nodes.size G .nil) s
      (entry.opened.foldl Pass.identify u) := by
  cases entered with
  | whole enters opened inner =>
      rw [inner] at inside
      obtain ⟨grown, top⟩ := enters.grown inside valid
      rw [opened]
      exact ⟨F, grown.identify top valid⟩
  | @split host _ _ condition enters unwritten content opened inner =>
      rw [inner] at inside
      have size : host.annotations.nodes.size = s.annotations.nodes.size + 1 := enters.size
      generalize splitContent s.document node = divided at content
      have same : (host.mapDocument fun _ => divided.2).annotations.nodes.size =
          s.annotations.nodes.size + 1 := size
      have validContent : ∀ q ∈ some s.annotations.nodes.size,
          q < (host.mapDocument fun _ => divided.2).annotations.nodes.size := by
        intro q isHost
        rw [same, ← Option.some.inj isHost]
        exact Nat.lt_succ_self _
      rw [← same] at inside
      obtain ⟨grownContent, topContent⟩ := content.grown inside validContent
      have numbered := grownContent.identify topContent validContent
      rw [same] at numbered
      have hosted : Grown (some s.annotations.nodes.size) _ host _ := numbered.congr_left rfl rfl
      obtain ⟨grown, top⟩ := enters.grown hosted valid
      rw [opened]
      exact ⟨_, grown.identify top valid⟩

/-! ## Walks -/

/-- A walk hangs a forest below the node it started from, with at most one tree for each of its
own when it starts from no node. -/
theorem Visits.grown {f : Forest} {around : Surroundings} (visits : Visits f around s t)
    (valid : ∀ q ∈ around.parent, q < s.annotations.nodes.size) :
    ∃ F, Grown around.parent F s t ∧
      (around.parent = none → F.tops.length ≤ f.tops.length) := by
  induction visits with
  | nil => exact ⟨.nil, .nil _ _, fun _ => Nat.le_refl _⟩
  | passed silent later ih =>
      obtain ⟨F, grown, few⟩ := ih valid
      exact ⟨F, grown.congr_left rfl rfl, fun top => Nat.le_succ_of_le (few top)⟩
  | @text node below rest around s t text data later ih =>
      cases under : around.parent with
      | none =>
          rw [visitText_of_none s node under, under] at ih
          obtain ⟨F, grown, few⟩ := ih fun q impossible => nomatch impossible
          exact ⟨F, grown, fun top => Nat.le_succ_of_le (few top)⟩
      | some p =>
          rw [under] at ih
          have inside : p < s.annotations.nodes.size := valid p under
          obtain ⟨F, grown, -⟩ := grown_visitText under inside node text
          have validLater : ∀ q ∈ some p, q < s.annotations.nodes.size :=
            fun q same => Option.some.inj same ▸ inside
          obtain ⟨G, grownLater, -⟩ := ih fun q same =>
            Nat.lt_of_lt_of_le (validLater q same) grown.tree.size
          exact ⟨_, grown.trans grownLater validLater, fun impossible => nomatch impossible⟩
  | @element node below rest around s t tag attributes entry entered inside data found enters under
      later ihUnder ihLater =>
      obtain ⟨F, grownUnder, -⟩ := ihUnder enters.size.2
      obtain ⟨G, grown⟩ := enters.grown grownUnder valid
      obtain ⟨H, grownLater, few⟩ := ihLater fun q isParent =>
        Nat.lt_of_lt_of_le (valid q isParent) grown.tree.size
      refine ⟨_, grown.trans grownLater valid, fun top => ?_⟩
      rw [Forest.tops_append, List.length_append]
      exact Nat.add_comm 1 _ ▸ Nat.succ_le_succ (few top)

end Pass
end ComponentMarkup
