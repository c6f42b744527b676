import ComponentMarkup.Proofs.Document.Split
import ComponentMarkup.Proofs.Document.WellFormed
import Mathlib.Data.List.Find

/-!
How the document changes under a walk: the nodes of the walked forest may be rewritten and split,
and no other.

The forest of the first `<body>`, before and after a walk of it.
-/

namespace ComponentMarkup

namespace Document

/-- The forest is what stands below its nodes, each of them there once. -/
structure Fits (d : Document) (f : Forest) : Prop where
  follows : f.Follows d.children
  distinct : f.preorder.Nodup
  inside : ∀ n ∈ f.preorder, n < d.size

/-- Walking `f` turned `d` into `d'`, and `f` into `f'`. -/
structure Reworks (f f' : Forest) (d d' : Document) : Prop where
  size : d.size ≤ d'.size
  outside : ∀ n < d.size, n ∉ f.preorder → d'.node? n = d.node? n
  tags : ∀ n < d.size, d'.tag? n = d.tag? n
  tops : f'.tops = f.tops
  fits : d'.Fits f'
  origin : ∀ n ∈ f'.preorder, n ∈ f.preorder ∨ d.size ≤ n

variable {d d' e : Document} {f f' g g' below rest : Forest} {node n : NodeId}

namespace Fits

theorem nil (d : Document) : d.Fits .nil :=
  ⟨trivial, List.nodup_nil, fun _ impossible => nomatch impossible⟩

theorem under (fits : d.Fits (.cons node below rest)) : d.Fits below where
  follows := fits.follows.2.1
  distinct := (List.nodup_append.1 (List.nodup_cons.1 fits.distinct).2).1
  inside n member := fits.inside n (List.mem_cons_of_mem _ (List.mem_append_left _ member))

theorem later (fits : d.Fits (.cons node below rest)) : d.Fits rest where
  follows := fits.follows.2.2
  distinct := (List.nodup_append.1 (List.nodup_cons.1 fits.distinct).2).2.1
  inside n member := fits.inside n (List.mem_cons_of_mem _ (List.mem_append_right _ member))

theorem first (fits : d.Fits (.cons node below rest)) : d.Fits (.cons node below .nil) where
  follows := ⟨fits.follows.1, fits.follows.2.1, trivial⟩
  distinct := by
    have distinct := List.nodup_cons.1 fits.distinct
    rw [Forest.preorder, Forest.preorder, List.append_nil]
    exact List.nodup_cons.2 ⟨fun member => distinct.1 (List.mem_append_left _ member),
      fits.under.distinct⟩
  inside n member := by
    rw [Forest.preorder, Forest.preorder, List.append_nil] at member
    rcases List.mem_cons.1 member with rfl | member
    · exact fits.inside _ List.mem_cons_self
    · exact fits.under.inside n member

theorem left (fits : d.Fits (f.append g)) : d.Fits f where
  follows := fits.follows.left
  distinct := by
    have distinct := fits.distinct
    rw [Forest.preorder_append] at distinct
    exact (List.nodup_append.1 distinct).1
  inside n member := fits.inside n (by
    rw [Forest.preorder_append]
    exact List.mem_append_left _ member)

theorem right (fits : d.Fits (f.append g)) : d.Fits g where
  follows := fits.follows.right
  distinct := by
    have distinct := fits.distinct
    rw [Forest.preorder_append] at distinct
    exact (List.nodup_append.1 distinct).2.1
  inside n member := fits.inside n (by
    rw [Forest.preorder_append]
    exact List.mem_append_right _ member)

theorem children_lt (fits : d.Fits (.cons node below rest)) :
    ∀ child ∈ d.children node, child < d.size := by
  intro child member
  rw [← fits.follows.1] at member
  exact fits.under.inside child (Forest.mem_preorder_of_mem_tops member)

theorem not_mem_below (fits : d.Fits (.cons node below rest)) : node ∉ below.preorder :=
  fun member => (List.nodup_cons.1 fits.distinct).1 (List.mem_append_left _ member)

theorem not_mem_first (fits : d.Fits (.cons node below rest)) (member : n ∈ rest.preorder) :
    n ∉ (Forest.cons node below .nil).preorder := by
  rw [Forest.preorder, Forest.preorder, List.append_nil, List.mem_cons]
  rintro (rfl | early)
  · exact (List.nodup_cons.1 fits.distinct).1 (List.mem_append_right _ member)
  · exact (List.nodup_append.1 (List.nodup_cons.1 fits.distinct).2).2.2 n early n member rfl

/-- What stands on top is below no node of the forest. -/
theorem not_mem_children_of_top {q : NodeId} (fits : d.Fits f) (top : n ∈ f.tops)
    (member : q ∈ f.preorder) : n ∉ d.children q := by
  induction f with
  | nil => cases top
  | cons node below rest _ ih =>
      intro isChild
      have inRest (inside : q ∈ rest.preorder) : n ∈ rest.preorder :=
        fits.follows.2.2.mem_of_mem_children inside isChild
      have inBelow (inside : q ∈ (Forest.cons node below .nil).preorder) : n ∈ below.preorder :=
        fits.follows.child_mem_below inside isChild
      have first : q ∈ (Forest.cons node below .nil).preorder ∨ q ∈ rest.preorder := by
        rw [Forest.mem_preorder_tree]
        rw [Forest.preorder, List.mem_cons, List.mem_append] at member
        exact or_assoc.2 member
      rw [Forest.tops, List.mem_cons] at top
      rcases top with rfl | top
      · rcases first with inside | inside
        · exact fits.not_mem_below (inBelow inside)
        · exact fits.not_mem_first (inRest inside) List.mem_cons_self
      · rcases first with inside | inside
        · exact fits.not_mem_first (Forest.mem_preorder_of_mem_tops top)
            (Forest.mem_preorder_tree.2 (.inr (inBelow inside)))
        · exact ih fits.later top inside isChild

theorem congr (fits : d.Fits f) (size : d.size ≤ d'.size)
    (same : ∀ n ∈ f.preorder, d'.children n = d.children n) : d'.Fits f where
  follows := fits.follows.congr same
  distinct := fits.distinct
  inside n member := Nat.lt_of_lt_of_le (fits.inside n member) size

end Fits

theorem WellFormed.fits_forest (wellFormed : d.WellFormed) (inside : n < d.size) :
    d.Fits (d.forest n) := by
  obtain ⟨-, follows, distinct, bounded⟩ := wellFormed.forest_spec inside
  exact ⟨follows, distinct, bounded⟩

/-! ## Reached nodes -/

/-- The nodes of a forest with nothing but elements above them. -/
def reached (d : Document) : Forest → List NodeId
  | .nil => []
  | .cons node below rest =>
      node :: ((if (d.tag? node).isSome then d.reached below else []) ++ d.reached rest)

theorem reached_cons {tag : String} (element : d.tag? node = some tag) :
    d.reached (.cons node below .nil) = node :: d.reached below := by
  rw [reached, element, reached, List.append_nil]
  rfl

theorem reached_append (d : Document) (f g : Forest) :
    d.reached (f.append g) = d.reached f ++ d.reached g := by
  induction f with
  | nil => rfl
  | cons node below rest _ ih => simp [Forest.append, reached, ih]

theorem reached_congr (same : ∀ n ∈ f.preorder, d'.tag? n = d.tag? n) :
    d'.reached f = d.reached f := by
  induction f with
  | nil => rfl
  | cons node below rest ihBelow ihRest =>
      simp only [Forest.preorder, List.mem_cons, List.mem_append] at same
      rw [reached, reached, same node (.inl rfl),
        ihBelow fun n member => same n (.inr (.inl member)),
        ihRest fun n member => same n (.inr (.inr member))]

theorem mem_preorder_of_mem_reached (member : n ∈ d.reached f) : n ∈ f.preorder := by
  induction f with
  | nil => cases member
  | cons node below rest ihBelow ihRest =>
      rw [reached, List.mem_cons, List.mem_append] at member
      rw [Forest.preorder, List.mem_cons, List.mem_append]
      rcases member with here | member | member
      · exact .inl here
      · split at member
        · exact .inr (.inl (ihBelow member))
        · cases member
      · exact .inr (.inr (ihRest member))

namespace Reworks

theorem nil (d : Document) : Reworks .nil .nil d d where
  size := Nat.le_refl _
  outside _ _ _ := rfl
  tags _ _ := rfl
  tops := rfl
  fits := .nil d
  origin _ impossible := nomatch impossible

theorem fits_other (reworks : Reworks f f' d d') (fits : d.Fits g)
    (apart : ∀ n ∈ g.preorder, n ∉ f.preorder) : d'.Fits g := by
  refine fits.congr reworks.size fun n member => ?_
  exact children_congr (reworks.outside n (fits.inside n member) (apart n member))

theorem trans (first : Reworks f f' d e) (second : Reworks g g' e d')
    (fits : d.Fits g) (apart : ∀ n ∈ g.preorder, n ∉ f.preorder) :
    Reworks (f.append g) (f'.append g') d d' where
  size := Nat.le_trans first.size second.size
  outside n inside member := by
    rw [Forest.preorder_append, List.mem_append, not_or] at member
    rw [second.outside n (Nat.lt_of_lt_of_le inside first.size) member.2,
      first.outside n inside member.1]
  tags n inside := by
    rw [second.tags n (Nat.lt_of_lt_of_le inside first.size), first.tags n inside]
  tops := by rw [Forest.tops_append, Forest.tops_append, first.tops, second.tops]
  fits := by
    -- A reworked node is one of the walked ones or new, and so is none of the other forest.
    have later : ∀ n ∈ f'.preorder, n ∉ g.preorder := by
      intro n member other
      rcases first.origin n member with old | new
      · exact apart n other old
      · exact Nat.not_lt_of_ge new (fits.inside n other)
    refine ⟨?_, ?_, ?_⟩
    · refine .append (first.fits.follows.congr fun n member => ?_) second.fits.follows
      exact children_congr (second.outside n (first.fits.inside n member) (later n member))
    · rw [Forest.preorder_append, List.nodup_append]
      refine ⟨first.fits.distinct, second.fits.distinct, ?_⟩
      rintro n early _ late rfl
      rcases second.origin n late with old | new
      · exact later n early old
      · exact Nat.not_lt_of_ge new (first.fits.inside n early)
    · intro n member
      rw [Forest.preorder_append, List.mem_append] at member
      rcases member with early | late
      · exact Nat.lt_of_lt_of_le (first.fits.inside n early) second.size
      · exact second.fits.inside n late
  origin n member := by
    rw [Forest.preorder_append, List.mem_append] at member ⊢
    rcases member with early | late
    · exact (first.origin n early).imp_left .inl
    · rcases second.origin n late with old | new
      · exact .inl (.inr old)
      · exact .inr (Nat.le_trans first.size new)

end Reworks

/-! ## Single elements -/

/-- Entering `node` turned `d` into `e`, and what stands below it into `g`. -/
structure Opens (node : NodeId) (below g : Forest) (d e : Document) : Prop where
  size : d.size ≤ e.size
  outside : ∀ n < d.size, n ≠ node → n ∉ below.preorder → e.node? n = d.node? n
  data : ∀ n < d.size, n ≠ node → e.data? n = d.data? n
  tags : ∀ n < d.size, e.tag? n = d.tag? n
  children : e.children node = g.tops
  fits : e.Fits g
  origin : ∀ n ∈ g.preorder, n ∈ below.preorder ∨ d.size ≤ n

namespace Opens

theorem whole (fits : d.Fits (.cons node below rest)) (f : Attributes → Attributes) :
    Opens node below below d (d.mapAttributes node f) where
  size := Nat.le_of_eq (d.size_mapAttributes node f).symm
  outside _ _ other _ := d.node?_mapAttributes_of_ne f other
  data _ _ other := data?_congr (d.node?_mapAttributes_of_ne f other)
  tags n _ := d.tag?_mapAttributes node n f
  children := (d.children_mapAttributes node node f).trans fits.follows.1.symm
  fits := fits.under.congr (Nat.le_of_eq (d.size_mapAttributes node f).symm) fun n _ =>
    d.children_mapAttributes node n f
  origin _ member := .inl member

theorem split {tag : String} (element : d.tag? node = some tag)
    (fits : d.Fits (.cons node below rest)) :
    Opens node below (.cons d.size below .nil) d (Pass.splitContent d node).2 := by
  have tops := fits.follows.1
  have bounded := fits.children_lt
  have node_lt : node < d.size := fits.inside node List.mem_cons_self
  have children (n : NodeId) (inside : n < d.size) (other : n ≠ node) :
      (Pass.splitContent d node).2.children n = d.children n := by
    rw [Pass.children_splitContent element bounded, if_neg other, if_neg (Nat.ne_of_lt inside)]
  have size := Pass.size_splitContent element
  refine ⟨by rw [size]; exact Nat.le_succ _, ?_, ?_, ?_, ?_, ⟨?_, ?_, ?_⟩, ?_⟩
  · intro n inside other notBelow
    refine Pass.node?_splitContent_of_ne element bounded other (Nat.ne_of_lt inside) ?_
    rw [← tops]
    exact fun top => notBelow (Forest.mem_preorder_of_mem_tops top)
  · intro n inside other
    exact Pass.data?_splitContent_of_ne element other (Nat.ne_of_lt inside)
  · intro n inside
    rw [Pass.tag?_splitContent element, if_neg (Nat.ne_of_lt inside)]
  · rw [Pass.children_splitContent element bounded, if_pos rfl]
    rfl
  · refine ⟨?_, fits.under.follows.congr fun n member => ?_, trivial⟩
    · rw [Pass.children_splitContent element bounded, if_neg (Nat.ne_of_gt node_lt), if_pos rfl,
        tops]
    · exact children n (fits.under.inside n member) fun same => fits.not_mem_below (same ▸ member)
  · rw [Forest.preorder, Forest.preorder, List.append_nil, List.nodup_cons]
    exact ⟨fun member => Nat.lt_irrefl _ (fits.under.inside _ member), fits.under.distinct⟩
  · intro n member
    rw [Forest.preorder, Forest.preorder, List.append_nil, List.mem_cons] at member
    rw [size]
    rcases member with rfl | member
    · exact Nat.lt_succ_self _
    · exact Nat.lt_succ_of_lt (fits.under.inside n member)
  · intro n member
    rw [Forest.preorder, Forest.preorder, List.append_nil, List.mem_cons] at member
    rcases member with rfl | member
    · exact .inr (Nat.le_refl _)
    · exact .inl member

end Opens

/-- An element whose attributes are written once more when all below it is done. -/
theorem Reworks.enclose {k : Attributes → Attributes} (opens : Opens node below g d e)
    (inner : Reworks g g' e d') (fits : d.Fits (.cons node below .nil)) :
    Reworks (.cons node below .nil) (.cons node g' .nil) d (d'.mapAttributes node k) := by
  have node_lt : node < d.size := fits.inside node List.mem_cons_self
  have notInner : node ∉ g.preorder := by
    intro member
    rcases opens.origin node member with old | new
    · exact fits.not_mem_below old
    · exact Nat.not_lt_of_ge new node_lt
  have kept := inner.outside node (Nat.lt_of_lt_of_le node_lt opens.size) notInner
  have larger := Nat.le_trans opens.size inner.size
  refine ⟨?_, ?_, ?_, rfl, ⟨?_, ?_, ?_⟩, ?_⟩
  · rwa [size_mapAttributes]
  · intro n inside member
    rw [Forest.preorder, Forest.preorder, List.append_nil, List.mem_cons, not_or] at member
    have notWalked : n ∉ g.preorder := fun walked =>
      (opens.origin n walked).elim member.2 (Nat.not_le_of_gt inside)
    rw [node?_mapAttributes_of_ne _ _ member.1,
      inner.outside n (Nat.lt_of_lt_of_le inside opens.size) notWalked,
      opens.outside n inside member.1 member.2]
  · intro n inside
    rw [tag?_mapAttributes, inner.tags n (Nat.lt_of_lt_of_le inside opens.size),
      opens.tags n inside]
  · refine ⟨?_, inner.fits.follows.congr fun n _ => children_mapAttributes _ _ _ _, trivial⟩
    rw [children_mapAttributes, inner.tops, children_congr kept, opens.children]
  · rw [Forest.preorder, Forest.preorder, List.append_nil, List.nodup_cons]
    refine ⟨fun member => ?_, inner.fits.distinct⟩
    rcases inner.origin node member with old | new
    · exact notInner old
    · exact Nat.not_lt_of_ge (Nat.le_trans opens.size new) node_lt
  · intro n member
    rw [Forest.preorder, Forest.preorder, List.append_nil, List.mem_cons] at member
    rw [size_mapAttributes]
    rcases member with rfl | member
    · exact Nat.lt_of_lt_of_le node_lt larger
    · exact inner.fits.inside n member
  · intro n member
    rw [Forest.preorder, Forest.preorder, List.append_nil, List.mem_cons] at member
    rcases member with rfl | member
    · exact .inl List.mem_cons_self
    · rcases inner.origin n member with old | new
      · rcases opens.origin n old with older | new
        · refine .inl (List.mem_cons_of_mem _ (List.mem_append_left _ older))
        · exact .inr new
      · exact .inr (Nat.le_trans opens.size new)

end Document

/-! ## The body of a document -/

namespace Document
variable {d d' : Document} {f f' below : Forest} {node n : NodeId}

theorem attribute?_eq_none {d : Document} {n : NodeId} (outside : d.size ≤ n) (name : String) :
    d.attribute? n name = none := by
  rw [attribute?, attributes?, data?, d.node?_eq_none outside]
  rfl

theorem lt_size_of_isElement {tag : String} (element : d.isElement n tag = true) : n < d.size :=
  lt_size_of_tag? (by simpa [isElement] using element)

theorem Reworks.refl (fits : d.Fits f) : Reworks f f d d where
  size := Nat.le_refl _
  outside _ _ _ := rfl
  tags _ _ := rfl
  tops := rfl
  fits := fits
  origin _ member := .inl member

/-- A tree inside a forest is reworked in its place. -/
theorem Reworks.graft (reworks : Reworks (.cons node below .nil) f' d d')
    (tree : d.Fits (.cons node below .nil)) (fits : d.Fits f) (member : node ∈ f.preorder) :
    ∃ g before after, Reworks f g d d' ∧
      f.preorder = before ++ (Forest.cons node below .nil).preorder ++ after ∧
      g.preorder = before ++ f'.preorder ++ after := by
  induction f with
  | nil => cases member
  | cons top under rest ihUnder ihRest =>
      have apart : ∀ n ∈ rest.preorder, n ∉ (Forest.cons top under .nil).preorder :=
        fun n => fits.not_mem_first
      rw [Forest.preorder, List.mem_cons, List.mem_append] at member
      rcases member with rfl | inUnder | inRest
      · obtain rfl : under = below := Forest.eq_of_follows fits.under.follows tree.under.follows
          (fits.follows.1.trans tree.follows.1.symm)
        have whole := reworks.trans (.refl (reworks.fits_other fits.later apart)) fits.later apart
        refine ⟨_, [], rest.preorder, whole, ?_, ?_⟩
        · rw [Forest.preorder, Forest.preorder, Forest.preorder, List.append_nil]
          rfl
        · rw [Forest.preorder_append]
          rfl
      · obtain ⟨g, before, after, inner, split, split'⟩ := ihUnder fits.under inUnder
        have opens := Opens.whole fits.first fun attributes => attributes
        rw [mapAttributes_id] at opens
        have first := inner.enclose (k := fun attributes => attributes) opens fits.first
        rw [mapAttributes_id] at first
        have whole := first.trans (.refl (first.fits_other fits.later apart)) fits.later apart
        refine ⟨_, top :: before, after ++ rest.preorder, whole, ?_, ?_⟩
        · rw [Forest.preorder, split]
          simp
        · rw [Forest.preorder_append, Forest.preorder, split']
          simp [Forest.preorder]
      · obtain ⟨g, before, after, inner, split, split'⟩ := ihRest fits.later inRest
        have whole := (Reworks.refl fits.first).trans inner fits.later apart
        refine ⟨_, (Forest.cons top under .nil).preorder ++ before, after, whole, ?_, ?_⟩
        · rw [Forest.preorder, split]
          simp [Forest.preorder]
        · rw [Forest.preorder_append, split']
          simp

/-! ## The body -/

/-- The forest that a pass walks. -/
def bodyForest (d : Document) : Forest :=
  match d.findElement? "body" with
  | some body => d.forest body
  | none => .nil

theorem length_tops_bodyForest (d : Document) : d.bodyForest.tops.length ≤ 1 := by
  unfold bodyForest
  cases d.findElement? "body" with
  | none => exact Nat.zero_le 1
  | some body =>
      dsimp only
      rw [forest]
      cases d.size with
      | zero => exact Nat.zero_le 1
      | succ levels =>
          rw [Forest.forestTo_eq_unfold, Forest.tops_unfold_succ]
          exact Nat.le_refl 1

theorem forest_eq_of_fits (fits : d.Fits f) (top : f.tops = [n]) : d.forest n = f := by
  rw [forest, Forest.forestTo_eq_unfold, ← top]
  exact Forest.unfold_eq_of_follows fits.follows
    (Forest.depth_le_of_nodup fits.distinct fits.inside)

theorem below_eq_of_fits (fits : d.Fits f) (tops : f.tops = d.children n) : d.below n = f := by
  rw [Document.below, Forest.forestTo_eq_unfold, ← tops]
  exact Forest.unfold_eq_of_follows fits.follows
    (Forest.depth_le_of_nodup fits.distinct fits.inside)

theorem WellFormed.forest_eq_cons (wellFormed : d.WellFormed) (inside : n < d.size) :
    d.forest n = .cons n (d.below n) .nil := by
  have tops := (wellFormed.forest_spec inside).1
  have fits := wellFormed.fits_forest inside
  cases shape : d.forest n with
  | nil =>
      rw [shape] at tops
      cases tops
  | cons node below rest =>
      rw [shape] at tops fits
      obtain ⟨rfl, none⟩ := List.cons.inj tops
      rw [below_eq_of_fits fits.under fits.follows.1]
      cases rest with
      | nil => rfl
      | cons _ _ _ => cases none

theorem WellFormed.fits_bodyForest (wellFormed : d.WellFormed) : d.Fits d.bodyForest := by
  unfold bodyForest
  cases found : d.findElement? "body" with
  | none => exact .nil d
  | some body =>
      have element : d.isElement body "body" = true := by simpa using List.find?_some found
      exact wellFormed.fits_forest (lt_size_of_isElement element)

theorem WellFormed.tops_bodyForest (wellFormed : d.WellFormed) :
    d.bodyForest.tops = (d.findElement? "body").toList := by
  unfold bodyForest
  cases found : d.findElement? "body" with
  | none => rfl
  | some body =>
      have element : d.isElement body "body" = true := by simpa using List.find?_some found
      exact (wellFormed.forest_spec (lt_size_of_isElement element)).1

/-- The node above the body. -/
def bodyHolder (d : Document) : Option NodeId := (d.findElement? "body").bind d.parent?

theorem WellFormed.of_top_bodyForest (wellFormed : d.WellFormed) (top : n ∈ d.bodyForest.tops) :
    d.parent? n = d.bodyHolder ∧ d.text? n = none := by
  rw [wellFormed.tops_bodyForest] at top
  unfold bodyHolder
  cases found : d.findElement? "body" with
  | none =>
      rw [found] at top
      cases top
  | some body =>
      have isBody : d.isElement body "body" = true := by simpa using List.find?_some found
      rw [found, Option.toList_some, List.mem_singleton] at top
      obtain ⟨attributes, data⟩ := tag?_eq_some.1 (eq_of_beq isBody)
      rw [top, text?, data]
      exact ⟨rfl, rfl⟩

/-- The node above the body is not in it. -/
theorem WellFormed.of_bodyHolder (wellFormed : d.WellFormed) :
    ∀ q ∈ d.bodyHolder, q < d.size ∧ q ∉ d.bodyForest.preorder := by
  intro q above
  obtain ⟨body, found, parent⟩ := Option.bind_eq_some_iff.1 above
  have isBody : d.isElement body "body" = true := by simpa using List.find?_some found
  have isChild := (wellFormed.linked q body).2 parent
  refine ⟨lt_size_of_mem_children isChild, fun inside => ?_⟩
  refine wellFormed.fits_bodyForest.not_mem_children_of_top ?_ inside isChild
  rw [bodyForest, found]
  dsimp only
  rw [(wellFormed.forest_spec (lt_size_of_isElement isBody)).1]
  exact List.mem_cons_self

/-- A walk of the body leaves its forest where the body is found afterwards. -/
theorem Reworks.bodyForest_eq {body : NodeId} (wellFormed : d.WellFormed)
    (found : d.findElement? "body" = some body) (reworks : Reworks (d.forest body) f' d d') :
    d'.bodyForest = f' := by
  have isBody : d.isElement body "body" = true := by simpa using List.find?_some found
  have inside : body < d.size := lt_size_of_isElement isBody
  have rooted : root < d.size := Nat.lt_of_le_of_lt (Nat.zero_le body) inside
  have top : (d.forest body).tops = [body] := (wellFormed.forest_spec inside).1
  have single := wellFormed.forest_eq_cons inside
  have tree := wellFormed.fits_forest inside
  rw [single] at reworks tree
  have fits := wellFormed.fits_forest rooted
  have member : body ∈ (d.forest root).preorder := List.mem_of_find?_eq_some found
  obtain ⟨g, before, after, whole, split, split'⟩ := reworks.graft tree fits member
  have unchanged : d'.forest root = g :=
    forest_eq_of_fits whole.fits (whole.tops.trans (wellFormed.forest_spec rooted).1)
  have isBody' (n : NodeId) (old : n < d.size) : d'.isElement n "body" = d.isElement n "body" := by
    rw [isElement, isElement, whole.tags n old]
  -- No body stands in front of this one, neither before nor after.
  have first : before.find? (d'.isElement · "body") = none := by
    have same : before.find? (d'.isElement · "body") = before.find? (d.isElement · "body") := by
      refine List.find?_congr fun n early => isBody' n (fits.inside n ?_)
      rw [split]
      exact List.mem_append_left _ (List.mem_append_left _ early)
    rw [same]
    cases earlier : before.find? (d.isElement · "body") with
    | none => rfl
    | some n =>
        have here := found
        rw [findElement?, split, List.find?_append, List.find?_append, earlier] at here
        obtain rfl : n = body := Option.some.inj here
        have distinct := fits.distinct
        rw [split, List.append_assoc, List.nodup_append] at distinct
        exact absurd rfl
          (distinct.2.2 n (List.mem_of_find?_eq_some earlier) n List.mem_cons_self)
  have next : f'.preorder.find? (d'.isElement · "body") = some body := by
    have tops := reworks.tops
    cases f' with
    | nil => cases tops
    | cons node below rest =>
        obtain ⟨rfl, -⟩ := List.cons.inj tops
        exact List.find?_cons_of_pos ((isBody' node inside).trans isBody)
  have foundLater : d'.findElement? "body" = some body := by
    rw [findElement?, unchanged, split', List.find?_append, List.find?_append, first, next]
    rfl
  rw [bodyForest, foundLater]
  exact forest_eq_of_fits reworks.fits reworks.tops

end Document
end ComponentMarkup
