import ComponentMarkup.Proofs.Declaration.Selected

/-!
Which script each place of a document gets. The scripts of a place count in document order, and the
first that has code or leads to a script file wins.
-/

namespace ComponentMarkup.Declaration

/-- The code of a place, and the script file that is to supply it. -/
structure Slot where
  code : Option CodeUnit := none
  external : Option Path := none

namespace Slot

def isFilled (s : Slot) : Bool := s.code.isSome || s.external.isSome

theorem eq_empty {s : Slot} (empty : s.isFilled = false) : s = {} := by
  obtain ⟨code, external⟩ := s
  cases code with
  | some unit => cases empty
  | none =>
      cases external with
      | some target => cases empty
      | none => rfl

end Slot

/-- A place for one script: the file, or the declaration at a node. -/
abbrev Place := Option NodeId

namespace Findings

/-- The declaring nodes of the components found so far. -/
def elements (f : Findings) : List NodeId := f.components.map Component.element

/-- What a place has been given so far. -/
def slot (f : Findings) : Place → Slot
  | none => ⟨f.code, f.external⟩
  | some element =>
      match f.components.find? (·.element == element) with
      | some c => ⟨c.code, c.external⟩
      | none => {}

/-- The owner and the place are the same, by number and by node. -/
def Names (f : Findings) : Owner → Place → Prop
  | .file, place => place = none
  | .component index, place => ∃ element, f.elements[index]? = some element ∧ place = some element

end Findings

namespace Reading
variable (r : Reading)

/-- The declaration that a node is in, none outside declarations. -/
def home (node : NodeId) : Place := (r.document.ancestors node).find? r.declares

/-- The node is a script of the place, below nothing that is left unread. -/
def isScriptOf (place : Place) (node : NodeId) : Bool :=
  r.document.isElement node "script" && r.isReached node && r.home node == place

/-- The scripts of a place, in document order. -/
def scriptsOf (place : Place) : List NodeId := r.document.inOrder.filter (r.isScriptOf place)

/-- What a script has for its place. -/
def offer (place : Place) (node : NodeId) : Slot :=
  if (r.document.attribute? node "type").map Text.trimmed = some "module" then
    match (r.document.attribute? node "src").map Text.trimmed with
    | some source =>
        if (Path.mk source).isScript then { external := resolve r.packageRoot source r.path } else {}
    | none =>
        if place = none ∧ r.isEntry = false then {}
        else
          { code := (CodeUnit.read r.path (r.document.innerText node) (r.document.position node)).1 }
  else {}

/-- A script fills the slot of its place, unless that has been filled. -/
def fill (place : Place) (s : Slot) (node : NodeId) : Slot :=
  if s.isFilled then s else r.offer place node

theorem fill_of_idle {place : Place} {node : NodeId} (nothing : r.offer place node = {})
    (s : Slot) : r.fill place s node = s := by
  rw [fill, nothing]
  cases filled : s.isFilled with
  | true => rfl
  | false => exact (Slot.eq_empty filled).symm

theorem foldl_fill (place : Place) (nodes : List NodeId) :
    nodes.foldl (r.fill place) {} = ((nodes.map (r.offer place)).find? Slot.isFilled).getD {} := by
  have keep {s : Slot} (filled : s.isFilled = true) (nodes : List NodeId) :
      nodes.foldl (r.fill place) s = s := by
    induction nodes with
    | nil => rfl
    | cons node nodes ih => rw [List.foldl_cons, fill, if_pos filled, ih]
  induction nodes with
  | nil => rfl
  | cons node nodes ih =>
      rw [List.foldl_cons, List.map_cons, List.find?_cons]
      change nodes.foldl (r.fill place) (r.offer place node) = _
      cases filled : (r.offer place node).isFilled with
      | true => exact keep filled nodes
      | false =>
          rw [Slot.eq_empty filled]
          exact ih

end Reading

/-! ## One owner -/

variable {r : Reading} {f g : Findings} {owner : Owner} {place other : Place} {node : NodeId}
  {context : Context}

namespace Findings

theorem Names.mono (names : f.Names owner place) (more : f.elements <+: g.elements) :
    g.Names owner place := by
  cases owner with
  | file => exact names
  | component index =>
      obtain ⟨element, listed, isPlace⟩ := names
      obtain ⟨later, same⟩ := more
      have inside := (List.getElem?_eq_some_iff.1 listed).1
      refine ⟨element, ?_, isPlace⟩
      rw [← same, List.getElem?_append_left inside, listed]

theorem Names.file_iff (names : f.Names owner place) : owner = .file ↔ place = none := by
  cases owner with
  | file => exact iff_of_true rfl names
  | component index =>
      obtain ⟨element, -, rfl⟩ := names
      exact iff_of_false nofun nofun

theorem slot_reports (f : Findings) (reports : Diagnostics) (place : Place) :
    ({ f with reports } : Findings).slot place = f.slot place := by
  cases place <;> rfl

theorem Names.reports (names : f.Names owner place) (reports : Diagnostics) :
    ({ f with reports } : Findings).Names owner place := by
  cases owner <;> exact names

theorem slot_of_notMem {element : NodeId} (absent : element ∉ f.elements) :
    f.slot (some element) = {} := by
  have missed : f.components.find? (·.element == element) = none := by
    rw [List.find?_eq_none]
    intro c member isThere
    exact absent (List.mem_map.2 ⟨c, member, eq_of_beq isThere⟩)
  rw [slot, missed]

theorem slot_of_mem {c : Component} (distinct : f.elements.Nodup) (member : c ∈ f.components) :
    f.slot (some c.element) = ⟨c.code, c.external⟩ := by
  have found : f.components.find? (·.element == c.element) = some c := by
    cases first : f.components.find? (·.element == c.element) with
    | none => exact absurd BEq.rfl (List.find?_eq_none.1 first c member)
    | some other =>
        have same : other.element = c.element := by simpa using List.find?_some first
        rw [List.inj_on_of_nodup_map distinct (List.mem_of_find?_eq_some first) member same]
  rw [slot, found]

theorem hasScript_eq (distinct : f.elements.Nodup) (names : f.Names owner place) :
    f.hasScript owner = (f.slot place).isFilled := by
  cases owner with
  | file =>
      obtain rfl := names
      rfl
  | component index =>
      obtain ⟨element, listed, rfl⟩ := names
      rw [elements, List.getElem?_map, Option.map_eq_some_iff] at listed
      obtain ⟨c, present, rfl⟩ := listed
      rw [slot_of_mem distinct (List.mem_of_getElem? present), hasScript, present]
      rfl

/-- Changing one component changes the slot of its place only. -/
theorem slot_modify {index : Nat} {element : NodeId} (distinct : f.elements.Nodup)
    (listed : f.elements[index]? = some element) (change : Component → Component)
    (same : ∀ c, (change c).element = c.element) (put : Slot → Slot)
    (puts : ∀ c, (⟨(change c).code, (change c).external⟩ : Slot) = put ⟨c.code, c.external⟩)
    (other : Place) :
    ({ f with components := f.components.modify index change } : Findings).slot other =
      if other = some element then put (f.slot other) else f.slot other := by
  cases other with
  | none => rfl
  | some node =>
      generalize changed : ({ f with components := f.components.modify index change } : Findings) = g
      have components (i : Nat) : g.components[i]? =
          (fun c => if index = i then change c else c) <$> f.components[i]? := by
        rw [← changed, List.getElem?_modify]
      have elements : g.elements = f.elements := by
        refine List.ext_getElem? fun i => ?_
        rw [Findings.elements, Findings.elements, List.getElem?_map, List.getElem?_map, components,
          Option.map_eq_map, Option.map_map]
        refine Option.map_congr fun c _ => ?_
        rw [Function.comp_apply]
        split
        · exact same c
        · rfl
      by_cases member : node ∈ f.elements
      · obtain ⟨i, there⟩ := List.mem_iff_getElem?.1 member
        have here := there
        rw [Findings.elements, List.getElem?_map, Option.map_eq_some_iff] at there
        obtain ⟨c, present, rfl⟩ := there
        have after := components i
        rw [present, Option.map_eq_map, Option.map_some] at after
        have slotted := slot_of_mem (elements ▸ distinct) (List.mem_of_getElem? after)
        rw [slot_of_mem distinct (List.mem_of_getElem? present)]
        by_cases isIndex : index = i
        · rw [if_pos isIndex] at slotted
          have isElement : c.element = element :=
            Option.some.inj (here.symm.trans (isIndex ▸ listed))
          rw [if_pos (congrArg some isElement), ← puts, ← slotted, same]
        · rw [if_neg isIndex] at slotted
          have differs : c.element ≠ element := by
            rintro rfl
            exact isIndex ((List.getElem?_inj (List.getElem?_eq_some_iff.1 listed).1 distinct).1
              (listed.trans here.symm))
          rw [slotted, if_neg fun equal => differs (Option.some.inj equal)]
      · have differs : node ≠ element := by
          rintro rfl
          exact member (List.mem_of_getElem? listed)
        rw [slot_of_notMem (elements ▸ member), slot_of_notMem member,
          if_neg fun equal => differs (Option.some.inj equal)]

theorem slot_setCode (distinct : f.elements.Nodup) (names : f.Names owner place) (unit : CodeUnit)
    (other : Place) : (f.setCode unit owner).slot other =
      if other = place then { f.slot other with code := some unit } else f.slot other := by
  cases owner with
  | file =>
      obtain rfl := names
      cases other <;> rfl
  | component index =>
      obtain ⟨element, listed, rfl⟩ := names
      exact slot_modify distinct listed (fun c => { c with code := some unit }) (fun _ => rfl)
        (fun s => { s with code := some unit }) (fun _ => rfl) other

theorem slot_setExternal (distinct : f.elements.Nodup) (names : f.Names owner place)
    (target : Option Path) (other : Place) : (f.setExternal target owner).slot other =
      if other = place then { f.slot other with external := target } else f.slot other := by
  cases owner with
  | file =>
      obtain rfl := names
      cases other <;> rfl
  | component index =>
      obtain ⟨element, listed, rfl⟩ := names
      exact slot_modify distinct listed (fun c => { c with external := target }) (fun _ => rfl)
        (fun s => { s with external := target }) (fun _ => rfl) other

end Findings

/-! ## One script -/

section Script
variable (distinct : f.elements.Nodup) (names : f.Names context.owner place)
include distinct names

theorem slot_readExternal (source : String) (other : Place) :
    (readExternal r context node source f).slot other =
      if other = place ∧ (f.slot place).isFilled = false ∧ (Path.mk source).isScript = true then
        { external := resolve r.packageRoot source r.path }
      else f.slot other := by
  -- A report about the body changes nothing else.
  obtain ⟨reports, noted⟩ : ∃ reports, (if Text.blankOnly (r.document.innerText node) then f
      else f.report r .sourceAndText node) = { f with reports } := by
    split
    · exact ⟨f.reports, rfl⟩
    · exact ⟨_, rfl⟩
  have names := names.reports reports
  have distinct : ({ f with reports } : Findings).elements.Nodup := distinct
  unfold readExternal
  dsimp only
  rw [noted, Findings.hasScript_eq distinct names, f.slot_reports]
  cases isScript : (Path.mk source).isScript with
  | false =>
      rw [Bool.not_false, if_pos rfl, if_neg (by simp)]
      exact f.slot_reports _ other
  | true =>
      rw [Bool.not_true, if_neg Bool.false_ne_true]
      cases filled : (f.slot place).isFilled with
      | true =>
          rw [if_pos rfl, if_neg (by simp)]
          exact f.slot_reports _ other
      | false =>
          rw [if_neg Bool.false_ne_true, Findings.slot_setExternal distinct names, f.slot_reports]
          simp only [and_true]
          split
          · next isPlace => rw [isPlace, Slot.eq_empty filled]
          · rfl

theorem slot_readInline (other : Place) :
    (readInline r context node f).slot other =
      if other = place ∧ (f.slot place).isFilled = false ∧ ¬(place = none ∧ r.isEntry = false) then
        { code := some (CodeUnit.read r.path (r.document.innerText node)
            (r.document.position node)).1 }
      else f.slot other := by
  have inFile : (context.owner = .file && !r.isEntry) = true ↔
      place = none ∧ r.isEntry = false := by
    rw [Bool.and_eq_true, decide_eq_true_eq, Bool.not_eq_true', names.file_iff]
  unfold readInline
  dsimp only
  rw [Findings.hasScript_eq distinct names]
  by_cases outside : place = none ∧ r.isEntry = false
  · rw [if_pos (inFile.2 outside), if_neg fun taken => taken.2.2 outside]
    exact f.slot_reports _ other
  · rw [if_neg (mt inFile.1 outside)]
    cases filled : (f.slot place).isFilled with
    | true =>
        rw [if_pos rfl, if_neg (by simp)]
        exact f.slot_reports _ other
    | false =>
        rw [if_neg Bool.false_ne_true]
        generalize CodeUnit.read r.path (r.document.innerText node) (r.document.position node) =
          parsed
        -- What the unit and its parsing report changes nothing else.
        obtain ⟨reports, noted⟩ : ∃ reports, (if parsed.1.isLibrary then
              { f with reports := f.reports ++ parsed.2 }
            else Findings.report { f with reports := f.reports ++ parsed.2 } r .inlinePart node) =
              { f with reports } := by
          split
          · exact ⟨_, rfl⟩
          · exact ⟨_, rfl⟩
        rw [noted, Findings.slot_setCode (f := { f with reports }) distinct (names.reports reports),
          f.slot_reports]
        simp only [outside, not_false_eq_true, and_true]
        split
        · next isPlace => rw [isPlace, Slot.eq_empty filled]
        · rfl

/-- A script fills the slot of its own place and leaves the others. -/
theorem slot_readScript (other : Place) : (readScript r context node f).slot other =
    if other = place then r.fill place (f.slot other) node else f.slot other := by
  have idle {g : Findings} (same : g.slot other = f.slot other)
      (nothing : r.offer place node = {}) : g.slot other =
        if other = place then r.fill place (f.slot other) node else f.slot other := by
    rw [same, r.fill_of_idle nothing, ite_self]
  have takes {g : Findings} {offered : Slot} {able : Prop} [Decidable able]
      (given : g.slot other = if other = place ∧ (f.slot place).isFilled = false ∧ able then offered
        else f.slot other)
      (offers : r.offer place node = if able then offered else {}) : g.slot other =
        if other = place then r.fill place (f.slot other) node else f.slot other := by
    by_cases idles : able
    · rw [given, Reading.fill, offers]
      by_cases isPlace : other = place
      · cases filled : (f.slot place).isFilled <;> simp [isPlace, filled, idles]
      · simp [isPlace]
    · rw [if_neg idles] at offers
      rw [if_neg fun taken => idles taken.2.2] at given
      exact idle given offers
  unfold readScript
  dsimp only
  split
  · next untyped =>
    refine idle ?_ (if_neg (by simp [untyped]))
    have either (looksManaged : Bool) :
        (if looksManaged then f.report r .untypedScript node else f).slot other = f.slot other := by
      cases looksManaged with
      | false => rfl
      | true => exact f.slot_reports _ other
    exact either _
  · next type typed =>
    split
    · next foreign => exact idle rfl (if_neg (by simpa [typed] using foreign))
    · next managed =>
      have isModule : (r.document.attribute? node "type").map Text.trimmed = some "module" := by
        rw [typed]
        simpa using managed
      split
      · next source found =>
        refine takes (slot_readExternal distinct names source other) ?_
        rw [Reading.offer, if_pos isModule, found]
      · next sourceless =>
        refine takes (slot_readInline distinct names other) ?_
        rw [Reading.offer, if_pos isModule, sourceless, ite_not]

end Script

/-! ## Other nodes -/

theorem elements_of_selects {nodes : List NodeId} (selects : Selects r nodes f g) :
    g.elements = f.elements ++ nodes.filter r.declares := by
  have same := congrArg (List.map Component.element) selects.components
  rw [List.map_append, List.map_map, List.map_map, List.map_map] at same
  exact same.trans (congrArg _ (List.map_id' _))

theorem slot_readLink (other : Place) : (readLink r context node f).slot other = f.slot other := by
  have reported (problem : Problem) : (f.report r problem node).slot other = f.slot other :=
    f.slot_reports _ other
  unfold readLink
  dsimp only
  split
  · rfl
  · split
    · exact reported _
    · split
      · exact reported _
      · split
        · rfl
        · split <;> cases other <;> rfl

/-- A new declaration has nothing in its slot. -/
theorem slot_readDeclaration (other : Place) :
    (readDeclaration r context node f).1.slot other = f.slot other := by
  have reported (problem : Problem) : (f.report r problem node).slot other = f.slot other :=
    f.slot_reports _ other
  have added {g : Findings} {c : Component} (same : g.slot other = f.slot other)
      (bare : c.code = none ∧ c.external = none) :
      ({ g with components := g.components ++ [c] } : Findings).slot other = f.slot other := by
    rw [← same]
    cases other with
    | none => rfl
    | some element =>
        rw [Findings.slot, Findings.slot, List.find?_append, List.find?_singleton]
        cases g.components.find? (·.element == element) with
        | some c => rfl
        | none =>
            rw [Option.none_or]
            split
            · next found =>
              split at found
              · obtain rfl := Option.some.inj found
                rw [bare.1, bare.2]
              · cases found
            · rfl
  unfold readDeclaration
  split
  · exact reported _
  · dsimp only
    split
    · exact reported _
    · refine added ?_ ⟨rfl, rfl⟩
      split
      · rfl
      · exact reported _

/-! ## The walk -/

/-- Where a walk over a forest stands: nothing in the forest has been read, and the findings know
the owner of what comes next by the declaration above it. -/
structure Walks (r : Reading) (forest : Forest) (context : Context) (above : List NodeId)
    (f : Findings) : Prop where
  follows : forest.Follows r.document.children
  inner : Document.root ∉ forest.preorder
  once : forest.preorder.Nodup
  tops : ∀ n ∈ forest.tops, r.document.ancestors n = above
  fits : Matches r context above
  distinct : f.elements.Nodup
  fresh : ∀ e ∈ f.elements, e ∉ forest.preorder
  names : f.Names context.owner (above.find? r.declares)

/-- Reading some nodes keeps the declaring nodes apart, from each other and from what comes later. -/
theorem distinct_of_selects {nodes later : List NodeId} (selects : Selects r nodes f g)
    (distinct : f.elements.Nodup) (once : (nodes ++ later).Nodup)
    (fresh : ∀ e ∈ f.elements, e ∉ nodes ++ later) :
    g.elements.Nodup ∧ ∀ e ∈ g.elements, e ∉ later := by
  obtain ⟨onceHere, -, apart⟩ := List.nodup_append.1 once
  rw [elements_of_selects selects]
  constructor
  · refine List.nodup_append.2 ⟨distinct, onceHere.filter _, fun e old e' new same => ?_⟩
    exact fresh e old (List.mem_append_left _ (same ▸ List.mem_of_mem_filter new))
  · intro e member later
    rcases List.mem_append.1 member with old | new
    · exact fresh e old (List.mem_append_right _ later)
    · exact apart e (List.mem_of_mem_filter new) e later rfl

namespace Walks
variable {below rest : Forest} {above : List NodeId}

theorem start (wellFormed : r.document.WellFormed) :
    Walks r (r.document.below Document.root) {} [] {} := by
  obtain ⟨tops, follows, once, inner⟩ := wellFormed.below_root_spec
  refine ⟨follows, inner, once, fun n isTop => ?_, matches_nil r, List.Pairwise.nil, nofun, rfl⟩
  exact Document.ancestors_of_top ((wellFormed.linked Document.root n).1 (tops ▸ isTop))

variable (wellFormed : r.document.WellFormed) (walks : Walks r (.cons node below rest) context above f)
include walks

theorem ancestors : r.document.ancestors node = above := walks.tops node List.mem_cons_self

include wellFormed in
theorem ancestors_below : ∀ n ∈ below.tops, r.document.ancestors n = node :: above := by
  intro n isTop
  have isChild := walks.follows.1 ▸ isTop
  have inner : node ≠ Document.root := fun atRoot => walks.inner (atRoot ▸ List.mem_cons_self)
  rw [wellFormed.ancestors_of_mem_children isChild inner, walks.ancestors]

theorem once_of_preorder : (node :: below.preorder ++ rest.preorder).Nodup := by
  have once := walks.once
  rwa [Forest.preorder, ← List.cons_append] at once

include wellFormed in
theorem selects : Selects r (r.document.reached (.cons node below .nil)) f
    (readForest r (.cons node below .nil) context f) := by
  have inner := walks.inner
  rw [Forest.preorder, ← List.cons_append, List.mem_append, not_or] at inner
  refine selects_readForest wellFormed ⟨walks.follows.1, walks.follows.2.1, trivial⟩ ?_ ?_ walks.fits
  · rw [Forest.preorder, Forest.preorder, List.append_nil]
    exact inner.1
  · exact List.forall_mem_singleton.2 walks.ancestors

/-- The nodes before `rest` have been read. -/
theorem after (selects : Selects r (r.document.reached (.cons node below .nil)) f g) :
    Walks r rest context above g := by
  have sublist : (r.document.reached (.cons node below .nil) ++ rest.preorder).Sublist
      (node :: below.preorder ++ rest.preorder) := by
    have here := Document.sublist_reached r.document (.cons node below .nil)
    rw [Forest.preorder, Forest.preorder, List.append_nil] at here
    exact here.append_right _
  have fresh : ∀ e ∈ f.elements, e ∉ r.document.reached (.cons node below .nil) ++ rest.preorder :=
    fun e old member => walks.fresh e old (sublist.subset member)
  obtain ⟨distinct, apart⟩ :=
    distinct_of_selects selects walks.distinct (sublist.nodup walks.once_of_preorder) fresh
  have inner := walks.inner
  rw [Forest.preorder, ← List.cons_append, List.mem_append, not_or] at inner
  refine ⟨walks.follows.2.2, inner.2, (List.nodup_append.1 walks.once_of_preorder).2.1, ?_,
    walks.fits, distinct, apart, walks.names.mono ⟨_, (elements_of_selects selects).symm⟩⟩
  exact fun n isTop => walks.tops n (List.mem_cons_of_mem _ isTop)

include wellFormed in
/-- The node itself has been read. -/
theorem into {context' : Context} (selects : Selects r [node] f g)
    (fits : Matches r context' (node :: above))
    (names : g.Names context'.owner ((node :: above).find? r.declares)) :
    Walks r below context' (node :: above) g := by
  have once : ([node] ++ below.preorder).Nodup := (List.nodup_append.1 walks.once_of_preorder).1
  have fresh : ∀ e ∈ f.elements, e ∉ [node] ++ below.preorder :=
    fun e old member => walks.fresh e old (List.mem_append_left rest.preorder member)
  obtain ⟨distinct, apart⟩ := distinct_of_selects selects walks.distinct once fresh
  have inner := walks.inner
  rw [Forest.preorder, List.mem_cons, List.mem_append, not_or, not_or] at inner
  exact ⟨walks.follows.2.1, inner.2.1, (List.nodup_cons.1 once).2,
    walks.ancestors_below wellFormed, fits, distinct, apart, names⟩

include wellFormed in
theorem mem_ancestors_of_mem_reached {n : NodeId} (member : n ∈ r.document.reached below) :
    node ∈ r.document.ancestors n := by
  have inner := walks.inner
  rw [Forest.preorder, List.mem_cons, List.mem_append, not_or, not_or] at inner
  refine wellFormed.mem_ancestors_of_mem_preorder walks.follows.2.1 inner.2.1 (fun top isTop => ?_)
    (Document.mem_preorder_of_mem_reached member)
  rw [walks.ancestors_below wellFormed top isTop]
  exact List.mem_cons_self

include wellFormed in
/-- No place has a script below a closed node. -/
theorem filter_of_isClosed (closed : r.isClosed node = true) (place : Place) :
    (r.document.reached below).filter (r.isScriptOf place) = [] := by
  rw [List.filter_eq_nil_iff]
  intro n member isScript
  rw [Reading.isScriptOf, Bool.and_eq_true, Bool.and_eq_true] at isScript
  have isOpen :=
    List.all_eq_true.1 isScript.1.2 node (walks.mem_ancestors_of_mem_reached wellFormed member)
  rw [closed] at isOpen
  cases isOpen

/-- The first tree alone. -/
theorem first : Walks r (.cons node below .nil) context above f := by
  have sublist : (Forest.cons node below .nil).preorder.Sublist
      (Forest.cons node below rest).preorder := by
    rw [Forest.preorder, Forest.preorder, Forest.preorder, List.append_nil]
    exact .cons_cons node (List.sublist_append_left _ _)
  refine ⟨⟨walks.follows.1, walks.follows.2.1, trivial⟩, fun atRoot => walks.inner (sublist.subset atRoot),
    sublist.nodup walks.once, fun n isTop => ?_, walks.fits, walks.distinct,
    fun e old member => walks.fresh e old (sublist.subset member), walks.names⟩
  exact walks.tops n (List.mem_singleton.1 isTop ▸ List.mem_cons_self)

end Walks

variable {above : List NodeId}

/-- What the inside of a declaration belongs to. -/
theorem names_readDeclaration (found : r.document.tag? node = some "element")
    (ancestors : r.document.ancestors node = above) (fits : Matches r context above)
    (names : f.Names context.owner (above.find? r.declares)) {owner : Owner}
    (inside : (readDeclaration r context node f).2 = some owner) :
    (readDeclaration r context node f).1.Names owner ((node :: above).find? r.declares) := by
  obtain ⟨selects, -⟩ := selects_readDeclaration (f := f) found ancestors fits rfl
  have elements := elements_of_selects selects
  have outermost := isOutermost_of_matches ancestors fits
  unfold readDeclaration at inside
  split at inside
  · next index isComponent =>
    obtain ⟨a, member, declares⟩ := List.any_eq_true.1 (fits.component index isComponent)
    have silent : r.declares node = false := by
      rw [Reading.declares, outermost, List.any_eq_true.2 ⟨a, member, isElement_of_declares declares⟩]
      exact Bool.and_false _
    obtain rfl := Option.some.inj inside
    rw [List.find?_cons_of_neg (by simp [silent])]
    exact names.mono ⟨_, elements.symm⟩
  · next isFile =>
    dsimp only at inside
    split at inside
    · cases inside
    · next named =>
      have named : (r.name node).isEmpty = false := Bool.eq_false_iff.2 named
      have declares : r.declares node = true := by
        rw [Reading.declares, outermost, fits.file isFile, isElement_of_tag? found, named]
        rfl
      rw [List.filter_cons_of_pos declares, List.filter_nil] at elements
      obtain rfl := Option.some.inj inside
      rw [List.find?_cons_of_pos declares]
      have last : (f.elements ++ [node])[f.components.length]? = some node := by
        rw [Findings.elements, ← f.components.length_map Component.element]
        exact List.getElem?_concat_length
      refine ⟨node, ?_, rfl⟩
      rw [elements]
      split <;> exact last

theorem isScriptOf_of_tag {tag : String} (found : r.document.tag? node = some tag)
    (other : tag ≠ "script") (place : Place) : r.isScriptOf place node = false := by
  rw [Reading.isScriptOf, isElement_of_tag? found, decide_eq_false other]
  rfl

/-- The walk leaves in each slot what the scripts of that place put there in turn. -/
theorem slot_readForest (wellFormed : r.document.WellFormed) {forest : Forest}
    (walks : Walks r forest context above f) (place : Place) :
    (readForest r forest context f).slot place =
      ((r.document.reached forest).filter (r.isScriptOf place)).foldl (r.fill place)
        (f.slot place) := by
  induction forest generalizing context above f with
  | nil => rfl
  | cons node below rest ihBelow ihRest =>
      have later := ihRest (walks.after (walks.selects wellFormed))
      have split : r.document.reached (.cons node below rest) =
          r.document.reached (.cons node below .nil) ++ r.document.reached rest := by
        simp [Document.reached]
      rw [split, List.filter_append, List.foldl_append]
      refine later.trans (congrArg (List.foldl (r.fill place) · _) ?_)
      have ancestors := walks.ancestors
      have fits := walks.fits
      have silent (other : r.isScriptOf place node = false) (more : List NodeId) :
          (node :: more).filter (r.isScriptOf place) = more.filter (r.isScriptOf place) :=
        List.filter_cons_of_neg (by simp [other])
      cases found : r.document.tag? node with
      | none =>
          have other : r.isScriptOf place node = false := by
            simp [Reading.isScriptOf, Document.isElement, found]
          rw [Document.reached, found, silent other, readForest, found]
          rfl
      | some tag =>
          rw [Document.reached_cons found, readForest, found]
          dsimp only [readForest]
          split
          · next isLink =>
            have closed : r.isClosed node = true := by
              simp [Reading.isClosed, isElement_of_tag? found, isLink]
            rw [silent (isScriptOf_of_tag found (isLink ▸ by decide) place),
              walks.filter_of_isClosed wellFormed closed]
            exact slot_readLink place
          · next noLink =>
            split
            · next isScript =>
              have closed : r.isClosed node = true := by
                simp [Reading.isClosed, isElement_of_tag? found, isScript]
              have isHere : r.isScriptOf place node = (above.find? r.declares == place) := by
                rw [Reading.isScriptOf, isElement_of_tag? found, isScript, Reading.home, ancestors,
                  isReached_of_matches ancestors fits]
                rfl
              rw [slot_readScript walks.distinct walks.names, List.filter_cons,
                walks.filter_of_isClosed wellFormed closed, isHere]
              by_cases same : place = above.find? r.declares
              · simp [same]
              · simp [same, Ne.symm same]
            · next noScript =>
              rw [silent (isScriptOf_of_tag found noScript place)]
              split
              · next isElement =>
                subst isElement
                obtain ⟨here, inside⟩ := selects_readDeclaration (f := f) found ancestors fits rfl
                have kept : (readDeclaration r context node f).1.slot place = f.slot place :=
                  slot_readDeclaration place
                have named (owner : Owner)
                    (isOwner : (readDeclaration r context node f).2 = some owner) :=
                  names_readDeclaration found ancestors fits walks.names isOwner
                generalize readDeclaration r context node f = outcome at here inside kept named ⊢
                obtain ⟨g, owner⟩ := outcome
                cases owner with
                | none =>
                    rw [walks.filter_of_isClosed wellFormed inside]
                    exact kept
                | some owner =>
                    have within := walks.into wellFormed here inside (named owner rfl)
                    exact (ihBelow within).trans (congrArg (List.foldl (r.fill place) · _) kept)
              · next noElement =>
                have silent := silent_of_tag? found noLink noElement
                refine ihBelow (walks.into wellFormed
                  ((Selects.refl r f).of_silent (List.forall_mem_singleton.2 silent))
                  (matches_cons found ancestors fits noLink noScript noElement) ?_)
                rw [List.find?_cons_of_neg (by simp [silent.declares])]
                exact walks.names

/-! ## The document -/

/-- Each place of a document has the code or the script file of the first of its scripts that has
any. -/
theorem slot_read (r : Reading) (wellFormed : r.document.WellFormed) (place : Place) :
    (read r).slot place =
      (((r.scriptsOf place).map (r.offer place)).find? Slot.isFilled).getD {} := by
  rw [← r.foldl_fill, read, slot_readForest wellFormed (.start wellFormed)]
  cases place <;> rfl

theorem distinct_read (r : Reading) (wellFormed : r.document.WellFormed) :
    (read r).elements = r.document.inOrder.filter r.declares ∧ (read r).elements.Nodup := by
  obtain ⟨-, -, once, components, -⟩ := selects_read r wellFormed
  have elements : (read r).elements = r.document.inOrder.filter r.declares := by
    have same := congrArg (List.map Component.element) components
    rw [List.map_map, List.map_map] at same
    exact same.trans (List.map_id' _)
  exact ⟨elements, elements ▸ once.filter _⟩

/-- A component has what its declaration got. -/
theorem slot_of_mem_read {r : Reading} (wellFormed : r.document.WellFormed) {c : Component}
    (member : c ∈ (read r).components) :
    ⟨c.code, c.external⟩ =
      (((r.scriptsOf (some c.element)).map (r.offer (some c.element))).find? Slot.isFilled).getD
        {} := by
  rw [← slot_read r wellFormed, Findings.slot_of_mem (distinct_read r wellFormed).2 member]

end ComponentMarkup.Declaration
