import ComponentMarkup.Proofs.Declaration.Scripts

/-!
The one script of each place of a document is the first that is written there or leads to a file. A
script that comes after it is reported, once, and changes nothing.
-/

namespace ComponentMarkup

/-- A script has come too late for its place. -/
def Problem.isOfSecondScript : Problem → Bool
  | .secondScriptInFile _ | .secondScriptInDeclaration => true
  | _ => false

namespace Declaration
namespace Reading
variable (r : Reading)

/-! ## Scripts and their places -/

/-- The `element` farthest above a node. -/
def outermost? (node : NodeId) : Option NodeId :=
  (r.document.ancestors node).reverse.find? (r.document.isElement · "element")

/-- The place that a script at the node is for: that of the outermost `element` around it, or the
file. A script below a link, a script or a nameless outermost `element` is for none. -/
def scope? (node : NodeId) : Option Place :=
  if r.document.isWithin node "link" || r.document.isWithin node "script" then none
  else
    match r.outermost? node with
    | none => some none
    | some element => if (r.name element).isEmpty then none else some (some element)

/-- The script file that a script asks for. -/
def source? (node : NodeId) : Option String := (r.document.attribute? node "src").map Text.trimmed

/-- A module script that asks for a script file, or is written where scripts may be written. -/
def qualifies (place : Place) (node : NodeId) : Bool :=
  (r.document.attribute? node "type").map Text.trimmed == some "module" &&
    match r.source? node with
    | some source => (Path.mk source).isScript
    | none => place.isSome || r.isEntry

/-- The script is written in place, or the file it asks for can be located. -/
def supplies (node : NodeId) : Bool :=
  match r.source? node with
  | some source => (resolve r.packageRoot source r.path).isSome
  | none => true

/-- What a script gives to its place. -/
def supply (node : NodeId) : Slot :=
  match r.source? node with
  | some source => { external := resolve r.packageRoot source r.path }
  | none =>
      { code := (CodeUnit.read r.path (r.document.innerText node) (r.document.position node)).1 }

/-- The scripts that may be the one of a place, in document order. -/
def unitsOf (place : Place) : List NodeId :=
  r.document.inOrder.filter fun node =>
    r.document.isElement node "script" && r.scope? node == some place && r.qualifies place node

/-- A script of the place before the node is the one of the place. -/
def isLate (place : Place) (node : NodeId) : Bool :=
  ((r.unitsOf place).takeWhile (· != node)).any r.supplies

def tooLate (place : Place) (node : NodeId) : Diagnostic :=
  let problem :=
    match place with
    | none => .secondScriptInFile r.path.text
    | some _ => .secondScriptInDeclaration
  ⟨problem, r.path, r.document.position node⟩

/-- The report on a script that has come too late. -/
def secondReport? (node : NodeId) : Option Diagnostic :=
  match r.scope? node with
  | none => none
  | some place =>
      if r.document.isElement node "script" && r.qualifies place node && r.isLate place node then
        some (r.tooLate place node)
      else none

variable {r} {node : NodeId} {place : Place}

theorem isFilled_supply : (r.supply node).isFilled = r.supplies node := by
  unfold supply supplies
  cases r.source? node with
  | some source => simp only [Slot.isFilled, Option.isSome_none, Bool.false_or]
  | none => simp only [Slot.isFilled, Option.isSome_some, Bool.true_or]

theorem supply_single (node : NodeId) :
    (r.supply node).code = none ∨ (r.supply node).external = none := by
  unfold supply
  split
  · exact .inl rfl
  · exact .inr rfl

theorem offer_eq (place : Place) (node : NodeId) :
    r.offer place node = if r.qualifies place node then r.supply node else {} := by
  have source : (r.document.attribute? node "src").map Text.trimmed = r.source? node := rfl
  rw [offer, source, qualifies, supply]
  by_cases isModule : (r.document.attribute? node "type").map Text.trimmed = some "module"
  · rw [if_pos isModule, isModule]
    cases r.source? node with
    | some source => simp
    | none => cases place <;> cases r.isEntry <;> simp
  · simp [isModule]

theorem isFilled_offer :
    (r.offer place node).isFilled = (r.qualifies place node && r.supplies node) := by
  rw [offer_eq, ← isFilled_supply]
  cases r.qualifies place node <;> rfl

/-! ## The outermost `element` -/

section Outermost
variable {element : NodeId} (wellFormed : r.document.WellFormed)

theorem exists_of_outermost? (found : r.outermost? node = some element) :
    ∃ before after, r.document.ancestors node = before ++ element :: after ∧
      r.document.isElement element "element" = true ∧
      ∀ a ∈ after, r.document.isElement a "element" = false := by
  obtain ⟨isElement, after, before, split, others⟩ := List.find?_eq_some_iff_append.1 found
  refine ⟨before.reverse, after.reverse, ?_, isElement, fun a member => ?_⟩
  · have turned := congrArg List.reverse split
    rw [List.reverse_reverse] at turned
    rw [turned, List.reverse_append, List.reverse_cons, List.append_assoc, List.singleton_append]
  · simpa using others a (List.mem_reverse.1 member)

theorem isClosed_eq {a : NodeId} (noLink : r.document.isElement a "link" = false)
    (noScript : r.document.isElement a "script" = false) : r.isClosed a = r.isStray a := by
  rw [isClosed, noLink, noScript]
  rfl

include wellFormed

/-- Where an outermost `element` is around a node that no link or script is above, that `element`
alone decides. -/
theorem isReached_and_home (plain : ∀ a ∈ r.document.ancestors node,
      r.document.isElement a "link" = false ∧ r.document.isElement a "script" = false)
    (found : r.outermost? node = some element) :
    r.isReached node = !(r.name element).isEmpty ∧
      ((r.name element).isEmpty = false → r.home node = some element) := by
  obtain ⟨before, after, split, isElement, others⟩ := exists_of_outermost? found
  have line := split ▸ wellFormed.isLine_ancestors node
  rw [split] at plain
  have ancestors : r.document.ancestors element = after := line.of_mem.ancestors_eq
  have within (tag : String) (apart : ∀ a ∈ after, r.document.isElement a tag = false) :
      r.document.isWithin element tag = false := by
    rw [Document.isWithin, ancestors, List.any_eq_false]
    exact fun a member => Bool.eq_false_iff.1 (apart a member)
  have inAfter {a : NodeId} (member : a ∈ after) :=
    plain a (List.mem_append_right before (List.mem_cons_of_mem element member))
  have outermost : r.isOutermost element = true := by
    rw [isOutermost, within "element" others, within "link" fun a member => (inAfter member).1,
      within "script" fun a member => (inAfter member).2]
    rfl
  have declares : r.declares element = !(r.name element).isEmpty := by
    rw [Reading.declares, isElement, outermost, Bool.true_and, Bool.and_true]
  -- What is inside the outermost `element` declares nothing.
  have inside {a : NodeId} (member : a ∈ before) : element ∈ r.document.ancestors a := by
    obtain ⟨nearer, further, there⟩ := List.append_of_mem member
    rw [there, List.append_assoc] at line
    have above : r.document.ancestors a = further ++ element :: after := line.of_mem.ancestors_eq
    rw [above]
    exact List.mem_append_right further List.mem_cons_self
  have silent {a : NodeId} (member : a ∈ before) : r.declares a = false := by
    have around : r.document.isWithin a "element" = true :=
      List.any_eq_true.2 ⟨element, inside member, isElement⟩
    rw [Reading.declares, isOutermost, around]
    exact Bool.and_false _
  have closed {a : NodeId} (member : a ∈ before ++ element :: after) :
      r.isClosed a = r.isStray a :=
    isClosed_eq (plain a member).1 (plain a member).2
  cases nameless : (r.name element).isEmpty with
  | true =>
      refine ⟨?_, fun named => absurd named.symm Bool.false_ne_true⟩
      have undeclared : r.isDeclared element = false := by
        rw [isDeclared, ancestors, List.any_eq_false]
        exact fun a member declares =>
          Bool.eq_false_iff.1 (others a member) (isElement_of_declares declares)
      have isStray : r.isStray element = true := by
        rw [Reading.isStray, isElement, nameless, undeclared]
        rfl
      have here : element ∈ r.document.ancestors node := by
        rw [split]
        exact List.mem_append_right before List.mem_cons_self
      refine List.all_eq_false.2 ⟨element, here, ?_⟩
      rw [closed (split ▸ here), isStray]
      exact Bool.false_ne_true
  | false =>
      rw [nameless] at declares
      constructor
      · rw [isReached, split, Bool.not_false, List.all_eq_true]
        intro a member
        rw [closed member, Reading.isStray]
        rcases List.mem_append.1 member with near | far
        · have declared : r.isDeclared a = true :=
            List.any_eq_true.2 ⟨element, inside near, declares⟩
          rw [declared, Bool.not_true, Bool.and_false]
          rfl
        · rcases List.mem_cons.1 far with rfl | far
          · rw [nameless, Bool.and_false]
            rfl
          · rw [others a far]
            rfl
      · intro _
        rw [home, split, List.find?_append]
        have none : before.find? r.declares = none :=
          List.find?_eq_none.2 fun a member => Bool.eq_false_iff.1 (silent member)
        rw [none, List.find?_cons_of_pos declares]
        rfl

/-- A script counts for its scope. -/
theorem isScriptOf_eq (place : Place) (node : NodeId) :
    r.isScriptOf place node =
      (r.document.isElement node "script" && r.scope? node == some place) := by
  suffices scope : r.scope? node = if r.isReached node then some (r.home node) else none by
    rw [isScriptOf, scope, Bool.and_assoc]
    cases r.isReached node <;> simp
  unfold scope?
  by_cases covered :
      (r.document.isWithin node "link" || r.document.isWithin node "script") = true
  · have either : ∃ a ∈ r.document.ancestors node, r.isClosed a = true := by
      rcases Bool.or_eq_true_iff.1 covered with inside | inside
      · obtain ⟨a, member, element⟩ := List.any_eq_true.1 inside
        exact ⟨a, member, by rw [isClosed, element]; rfl⟩
      · obtain ⟨a, member, element⟩ := List.any_eq_true.1 inside
        exact ⟨a, member, by rw [isClosed, element, Bool.or_true, Bool.true_or]⟩
    obtain ⟨a, member, closed⟩ := either
    have unreached : r.isReached node = false :=
      List.all_eq_false.2 ⟨a, member, by rw [closed]; exact Bool.false_ne_true⟩
    rw [if_pos covered, unreached]
    rfl
  · rw [if_neg covered]
    rw [Bool.or_eq_true, not_or, Document.isWithin, Document.isWithin, Bool.not_eq_true,
      Bool.not_eq_true, List.any_eq_false, List.any_eq_false] at covered
    have plain : ∀ a ∈ r.document.ancestors node,
        r.document.isElement a "link" = false ∧ r.document.isElement a "script" = false :=
      fun a member =>
        ⟨Bool.eq_false_iff.2 (covered.1 a member), Bool.eq_false_iff.2 (covered.2 a member)⟩
    cases found : r.outermost? node with
    | some element =>
        obtain ⟨reached, home⟩ := isReached_and_home wellFormed plain found
        rw [reached]
        dsimp only
        cases nameless : (r.name element).isEmpty with
        | true => rfl
        | false => rw [home nameless, if_neg Bool.false_ne_true, Bool.not_false, if_pos rfl]
    | none =>
        have apart : ∀ a ∈ r.document.ancestors node, r.document.isElement a "element" = false :=
          fun a member => Bool.eq_false_iff.2
            (List.find?_eq_none.1 found a (List.mem_reverse.2 member))
        have reached : r.isReached node = true := by
          rw [isReached, List.all_eq_true]
          intro a member
          rw [isClosed_eq (plain a member).1 (plain a member).2, Reading.isStray, apart a member]
          rfl
        have outside : r.home node = none :=
          List.find?_eq_none.2 fun a member declares =>
            Bool.eq_false_iff.1 (apart a member) (isElement_of_declares declares)
        rw [reached, outside]
        rfl

end Outermost

/-! ## The scripts that may be the one of a place -/

theorem filter_qualifies (wellFormed : r.document.WellFormed) (place : Place)
    (nodes : List NodeId) :
    (nodes.filter (r.isScriptOf place)).filter (r.qualifies place) =
      nodes.filter fun node =>
        r.document.isElement node "script" && r.scope? node == some place &&
          r.qualifies place node := by
  rw [List.filter_filter]
  refine List.filter_congr fun node _ => ?_
  rw [isScriptOf_eq wellFormed, Bool.and_comm]

/-- What scripts leave in the slot of their place is what the first gives that supplies anything. -/
theorem foldl_fill_eq (place : Place) (nodes : List NodeId) :
    nodes.foldl (r.fill place) {} =
      ((nodes.filter (r.qualifies place)).find? r.supplies).elim {} r.supply := by
  rw [foldl_fill, List.find?_map, List.find?_filter]
  have same : (Slot.isFilled ∘ r.offer place) =
      fun node => decide (r.qualifies place node = true ∧ r.supplies node = true) := by
    funext node
    rw [Function.comp_apply, isFilled_offer, Bool.decide_and, Bool.decide_eq_true,
      Bool.decide_eq_true]
  rw [same]
  cases found : nodes.find? fun node =>
      decide (r.qualifies place node = true ∧ r.supplies node = true) with
  | none => rfl
  | some node =>
      have fits := List.find?_some found
      rw [decide_eq_true_eq] at fits
      rw [Option.map_some, Option.getD_some, offer_eq, if_pos fits.1]
      rfl

theorem isFilled_foldl_fill (place : Place) (nodes : List NodeId) :
    (nodes.foldl (r.fill place) {}).isFilled =
      (nodes.filter (r.qualifies place)).any r.supplies := by
  rw [foldl_fill_eq, ← List.isSome_find?]
  cases found : (nodes.filter (r.qualifies place)).find? r.supplies with
  | none => rfl
  | some node => exact isFilled_supply.trans (List.find?_some found)

/-- Where a node stands among the nodes of its document decides whether it has come too late. -/
theorem isLate_eq (wellFormed : r.document.WellFormed) {seen later : List NodeId}
    (split : r.document.inOrder = seen ++ node :: later)
    (isScript : r.isScriptOf place node = true) (qualifies : r.qualifies place node = true) :
    r.isLate place node =
      (((seen.filter (r.isScriptOf place)).foldl (r.fill place) {})).isFilled := by
  have once := wellFormed.nodup_inOrder
  rw [split, List.nodup_append] at once
  have units : r.unitsOf place =
      ((seen ++ node :: later).filter (r.isScriptOf place)).filter (r.qualifies place) := by
    rw [filter_qualifies wellFormed, ← split]
    rfl
  rw [isFilled_foldl_fill, isLate, units, List.filter_append, List.filter_append,
    List.filter_cons_of_pos isScript, List.filter_cons_of_pos qualifies]
  rw [List.takeWhile_append_of_pos, List.takeWhile_cons_of_neg (by simp), List.append_nil]
  intro other member
  have before : other ∈ seen := List.mem_of_mem_filter (List.mem_of_mem_filter member)
  exact bne_iff_ne.2 (once.2.2 other before node List.mem_cons_self)

end Reading

/-! ## One node -/

namespace Findings

/-- The reports on scripts that came too late. -/
def lateReports (f : Findings) : Diagnostics := f.reports.filter (·.problem.isOfSecondScript)

theorem lateReports_report (f : Findings) (r : Reading) (problem : Problem) (node : NodeId) :
    (f.report r problem node).lateReports =
      f.lateReports ++
        if problem.isOfSecondScript then [⟨problem, r.path, r.document.position node⟩] else [] := by
  rw [lateReports, report, List.filter_append, List.filter_cons, List.filter_nil]
  rfl

theorem lateReports_report_of_other (f : Findings) (r : Reading) {problem : Problem}
    (other : problem.isOfSecondScript = false) (node : NodeId) :
    (f.report r problem node).lateReports = f.lateReports := by
  rw [lateReports_report, other]
  exact List.append_nil _

@[simp] theorem lateReports_setCode (f : Findings) (unit : CodeUnit) (owner : Owner) :
    (f.setCode unit owner).lateReports = f.lateReports := by
  cases owner <;> rfl

@[simp] theorem lateReports_setExternal (f : Findings) (target : Option Path) (owner : Owner) :
    (f.setExternal target owner).lateReports = f.lateReports := by
  cases owner <;> rfl

end Findings

variable {r : Reading} {f : Findings} {context : Context} {node : NodeId} {place : Place}

/-- A script that comes after the one of its place is reported and changes nothing. -/
theorem readScript_of_hasScript (r : Reading) (node : NodeId)
    (taken : f.hasScript context.owner = true) :
    ∃ reports, readScript r context node f = { f with reports } := by
  have external (source : String) :
      ∃ reports, readExternal r context node source f = { f with reports } := by
    unfold readExternal
    split
    · exact ⟨_, rfl⟩
    · obtain ⟨reports, noted⟩ : ∃ reports, (if Text.blankOnly (r.document.innerText node) then f
          else f.report r .sourceAndText node) = { f with reports } := by
        split
        · exact ⟨f.reports, rfl⟩
        · exact ⟨_, rfl⟩
      have still : ({ f with reports } : Findings).hasScript context.owner = true := by
        cases owner : context.owner <;> exact owner ▸ taken
      dsimp only
      rw [noted, if_pos still]
      exact ⟨_, rfl⟩
  have inline : ∃ reports, readInline r context node f = { f with reports } := by
    unfold readInline
    rw [if_pos taken]
    split
    · exact ⟨_, rfl⟩
    · exact ⟨_, rfl⟩
  unfold readScript
  dsimp only
  split
  · have either (looksManaged : Bool) : ∃ reports,
        (if looksManaged then f.report r .untypedScript node else f) = { f with reports } := by
      cases looksManaged with
      | false => exact ⟨f.reports, rfl⟩
      | true => exact ⟨_, rfl⟩
    exact either _
  · split
    · exact ⟨f.reports, rfl⟩
    · split
      · exact external _
      · exact inline

theorem lateReports_readLink : (readLink r context node f).lateReports = f.lateReports := by
  unfold readLink
  dsimp only
  split
  · rfl
  · split
    · exact f.lateReports_report_of_other r rfl node
    · split
      · exact f.lateReports_report_of_other r rfl node
      · split
        · rfl
        · split <;> rfl

theorem lateReports_readDeclaration :
    (readDeclaration r context node f).1.lateReports = f.lateReports := by
  unfold readDeclaration
  split
  · exact f.lateReports_report_of_other r rfl node
  · dsimp only
    split
    · exact f.lateReports_report_of_other r rfl node
    · dsimp only
      split
      · rfl
      · exact f.lateReports_report_of_other r rfl node

section Script
variable (distinct : f.elements.Nodup) (names : f.Names context.owner place)

theorem secondScript_eq (names : f.Names context.owner place) (node : NodeId) :
    (⟨secondScript r context.owner, r.path, r.document.position node⟩ : Diagnostic) =
      r.tooLate place node := by
  cases owner : context.owner with
  | file =>
      rw [owner] at names
      obtain rfl := names
      rfl
  | component index =>
      rw [owner] at names
      obtain ⟨element, -, rfl⟩ := names
      rfl

include names in
theorem lateReports_second (node : NodeId) :
    (f.report r (secondScript r context.owner) node).lateReports =
      f.lateReports ++ [r.tooLate place node] := by
  have second : (secondScript r context.owner).isOfSecondScript = true := by
    cases context.owner <;> rfl
  rw [f.lateReports_report, second, if_pos rfl, secondScript_eq names]

include distinct names

theorem lateReports_readExternal (source : String) :
    (readExternal r context node source f).lateReports =
      f.lateReports ++
        if (Path.mk source).isScript && (f.slot place).isFilled then [r.tooLate place node]
        else [] := by
  unfold readExternal
  cases isScript : (Path.mk source).isScript with
  | false =>
      rw [Bool.not_false, if_pos rfl, Bool.false_and, if_neg Bool.false_ne_true, List.append_nil]
      exact f.lateReports_report_of_other r rfl node
  | true =>
      obtain ⟨reports, noted, same⟩ : ∃ reports,
          (if Text.blankOnly (r.document.innerText node) then f
            else f.report r .sourceAndText node) = { f with reports } ∧
          ({ f with reports } : Findings).lateReports = f.lateReports := by
        split
        · exact ⟨f.reports, rfl, rfl⟩
        · exact ⟨_, rfl, f.lateReports_report_of_other r rfl node⟩
      have names' := names.reports reports
      dsimp only
      rw [Bool.not_true, if_neg Bool.false_ne_true, noted,
        Findings.hasScript_eq (f := { f with reports }) distinct names', f.slot_reports,
        Bool.true_and]
      cases filled : (f.slot place).isFilled with
      | true => rw [if_pos rfl, lateReports_second names', same, if_pos rfl]
      | false =>
          rw [if_neg Bool.false_ne_true, if_neg Bool.false_ne_true,
            Findings.lateReports_setExternal, same, List.append_nil]

theorem lateReports_readInline :
    (readInline r context node f).lateReports =
      f.lateReports ++
        if (place.isSome || r.isEntry) && (f.slot place).isFilled then [r.tooLate place node]
        else [] := by
  have outside : (context.owner = .file && !r.isEntry) = !(place.isSome || r.isEntry) := by
    have isFile : decide (context.owner = .file) = place.isNone := by
      rw [Bool.eq_iff_iff, decide_eq_true_eq, Option.isNone_iff_eq_none]
      exact names.file_iff
    rw [isFile, Bool.not_or, Option.not_isSome]
  unfold readInline
  rw [outside, Findings.hasScript_eq distinct names]
  cases may : (place.isSome || r.isEntry) with
  | false =>
      rw [Bool.not_false, if_pos rfl, Bool.false_and, if_neg Bool.false_ne_true, List.append_nil]
      exact f.lateReports_report_of_other r rfl node
  | true =>
      rw [Bool.not_true, if_neg Bool.false_ne_true, Bool.true_and]
      cases filled : (f.slot place).isFilled with
      | true => rw [if_pos rfl, if_pos rfl, lateReports_second names]
      | false =>
          rw [if_neg Bool.false_ne_true, if_neg Bool.false_ne_true, List.append_nil]
          have parsed : ({ f with
              reports := f.reports ++
                (CodeUnit.read r.path (r.document.innerText node) (r.document.position node)).2 } :
                Findings).lateReports = f.lateReports := by
            rw [Findings.lateReports, List.filter_append]
            unfold CodeUnit.read
            split <;> exact List.append_nil _
          dsimp only
          rw [Findings.lateReports_setCode]
          split
          · exact parsed
          · exact (Findings.lateReports_report_of_other _ r rfl node).trans parsed

/-- A script that qualifies is reported when its place has been taken. -/
theorem lateReports_readScript :
    (readScript r context node f).lateReports =
      f.lateReports ++
        if r.qualifies place node && (f.slot place).isFilled then [r.tooLate place node]
        else [] := by
  have idle {g : Findings} (same : g.lateReports = f.lateReports)
      (unfit : r.qualifies place node = false) :
      g.lateReports = f.lateReports ++
        if r.qualifies place node && (f.slot place).isFilled then [r.tooLate place node]
        else [] := by
    rw [unfit, same, Bool.false_and, if_neg Bool.false_ne_true, List.append_nil]
  unfold readScript
  dsimp only
  split
  · next untyped =>
    refine idle ?_ (by rw [Reading.qualifies, untyped]; rfl)
    have either (looksManaged : Bool) :
        (if looksManaged then f.report r .untypedScript node else f).lateReports =
          f.lateReports := by
      cases looksManaged with
      | false => rfl
      | true => exact f.lateReports_report_of_other r rfl node
    exact either _
  · next type typed =>
    split
    · next foreign =>
      refine idle rfl ?_
      have other : (type == "module") = false := by simpa using foreign
      rw [Reading.qualifies, typed, Option.some_beq_some, other, Bool.false_and]
    · next managed =>
      have isModule : type = "module" := by simpa using managed
      split
      · next source found =>
        rw [lateReports_readExternal distinct names, Reading.qualifies, Reading.source?, typed,
          isModule, found, BEq.rfl, Bool.true_and]
      · next sourceless =>
        rw [lateReports_readInline distinct names, Reading.qualifies, Reading.source?, typed,
          isModule, sourceless, BEq.rfl, Bool.true_and]

end Script

/-! ## The walk -/

namespace Reading

theorem secondReport?_of_other (other : r.document.isElement node "script" = false) :
    r.secondReport? node = none := by
  unfold secondReport?
  split
  · rfl
  · rw [other]
    rfl

/-- A script that no place has draws no such report. -/
theorem secondReport?_of_isClosed (wellFormed : r.document.WellFormed) {a : NodeId}
    (member : a ∈ r.document.ancestors node) (closed : r.isClosed a = true) :
    r.secondReport? node = none := by
  unfold secondReport?
  split
  · rfl
  · next place scope =>
    have isScript := isScriptOf_eq wellFormed place node
    have unreached : r.isReached node = false :=
      List.all_eq_false.2 ⟨a, member, by rw [closed]; exact Bool.false_ne_true⟩
    rw [isScriptOf, unreached, Bool.and_false, Bool.false_and, scope, BEq.rfl, Bool.and_true]
      at isScript
    rw [← isScript]
    rfl

end Reading

/-- Before a node is read, every slot has what the scripts before the node put there. -/
def Read (r : Reading) (seen : List NodeId) (f : Findings) : Prop :=
  ∀ place, f.slot place = (seen.filter (r.isScriptOf place)).foldl (r.fill place) {}

namespace Read
variable {seen : List NodeId} {g : Findings}

theorem append (read : Read r seen f) {nodes : List NodeId}
    (fills : ∀ place,
      g.slot place = (nodes.filter (r.isScriptOf place)).foldl (r.fill place) (f.slot place)) :
    Read r (seen ++ nodes) g := by
  intro place
  rw [fills, read, List.filter_append, List.foldl_append]

theorem append_of_other (read : Read r seen f) (other : ∀ place, r.isScriptOf place node = false)
    (same : ∀ place, g.slot place = f.slot place) : Read r (seen ++ [node]) g := by
  refine read.append fun place => ?_
  rw [same, List.filter_cons_of_neg (Bool.eq_false_iff.1 (other place))]
  rfl

end Read

/-- A script is reported when the script of its place stands before it in the document. -/
theorem lateReports_readScript_of_read (wellFormed : r.document.WellFormed)
    {seen later : List NodeId} (split : r.document.inOrder = seen ++ node :: later)
    (read : Read r seen f)
    (distinct : f.elements.Nodup) (names : f.Names context.owner place)
    (isScript : r.isScriptOf place node = true) :
    (readScript r context node f).lateReports = f.lateReports ++ (r.secondReport? node).toList := by
  have counts := r.isScriptOf_eq wellFormed place node
  rw [isScript, eq_comm, Bool.and_eq_true, beq_iff_eq] at counts
  rw [lateReports_readScript distinct names, Reading.secondReport?, counts.1, counts.2]
  dsimp only
  rw [Bool.true_and]
  cases qualifies : r.qualifies place node with
  | false => rfl
  | true =>
      rw [Bool.true_and, Reading.isLate_eq wellFormed split isScript qualifies, ← read place]
      cases (f.slot place).isFilled <;> rfl

/-- The walk reports the scripts that come too late, each once and no others. -/
theorem lateReports_readForest (wellFormed : r.document.WellFormed) {forest : Forest}
    {above seen later : List NodeId} (walks : Walks r forest context above f)
    (split : r.document.inOrder = seen ++ r.document.reached forest ++ later)
    (read : Read r seen f) :
    (readForest r forest context f).lateReports =
      f.lateReports ++ (r.document.reached forest).filterMap r.secondReport? := by
  induction forest generalizing context above seen later f with
  | nil => exact (List.append_nil _).symm
  | cons node below rest ihBelow ihRest =>
      have parts : r.document.reached (.cons node below rest) =
          r.document.reached (.cons node below .nil) ++ r.document.reached rest := by
        simp [Document.reached]
      rw [parts] at split ⊢
      -- What comes after the first tree finds it read.
      have done : Read r (seen ++ r.document.reached (.cons node below .nil))
          (readForest r (.cons node below .nil) context f) :=
        read.append fun place => slot_readForest wellFormed walks.first place
      have still : r.document.inOrder = seen ++ r.document.reached (.cons node below .nil) ++
          r.document.reached rest ++ later := by
        rw [split]
        simp only [List.append_assoc]
      have afterwards := ihRest (walks.after (walks.selects wellFormed)) still done
      rw [List.filterMap_append, ← List.append_assoc]
      refine afterwards.trans (congrArg (· ++ _) ?_)
      have ancestors := walks.ancestors
      have fits := walks.fits
      have closedBelow (closed : r.isClosed node = true) :
          (r.document.reached below).filterMap r.secondReport? = [] :=
        List.filterMap_eq_nil_iff.2 fun n member => Reading.secondReport?_of_isClosed wellFormed
          (walks.mem_ancestors_of_mem_reached wellFormed member) closed
      cases found : r.document.tag? node with
      | none =>
          have other : r.secondReport? node = none :=
            Reading.secondReport?_of_other (by simp [Document.isElement, found])
          rw [Document.reached, found, List.filterMap_cons_none other, readForest, found]
          exact (List.append_nil _).symm
      | some tag =>
          have isElement (name : String) : r.document.isElement node name = decide (tag = name) :=
            isElement_of_tag? found name
          rw [Document.reached_cons found] at split ⊢
          rw [readForest, found]
          dsimp only [readForest]
          split
          · next isLink =>
            have other : r.secondReport? node = none :=
              Reading.secondReport?_of_other (by simp [isElement, isLink])
            have closed : r.isClosed node = true := by simp [Reading.isClosed, isElement, isLink]
            rw [List.filterMap_cons_none other, closedBelow closed, List.append_nil]
            exact lateReports_readLink
          · next noLink =>
            split
            · next isScript =>
              have here : r.isScriptOf (above.find? r.declares) node = true := by
                rw [Reading.isScriptOf, isElement, Reading.home, ancestors,
                  isReached_of_matches ancestors fits]
                simp [isScript]
              have split : r.document.inOrder = seen ++ node ::
                  (r.document.reached below ++ r.document.reached rest ++ later) := by
                rw [split]
                simp
              have reported := lateReports_readScript_of_read wellFormed split read walks.distinct
                walks.names here
              have closed : r.isClosed node = true := by
                simp [Reading.isClosed, isElement, isScript]
              rw [reported, List.filterMap_cons, closedBelow closed]
              cases r.secondReport? node <;> rfl
            · next noScript =>
              have other : r.secondReport? node = none :=
                Reading.secondReport?_of_other (by simp [isElement, noScript])
              have silent (place : Place) : r.isScriptOf place node = false :=
                isScriptOf_of_tag found noScript place
              have split : r.document.inOrder = seen ++ [node] ++ r.document.reached below ++
                  (r.document.reached rest ++ later) := by
                rw [split]
                simp
              rw [List.filterMap_cons_none other]
              split
              · next isDeclaration =>
                subst isDeclaration
                obtain ⟨here, inside⟩ := selects_readDeclaration (f := f) found ancestors fits rfl
                have kept (place : Place) :
                    (readDeclaration r context node f).1.slot place = f.slot place :=
                  slot_readDeclaration place
                have quiet : (readDeclaration r context node f).1.lateReports = f.lateReports :=
                  lateReports_readDeclaration
                have named (owner : Owner)
                    (isOwner : (readDeclaration r context node f).2 = some owner) :=
                  names_readDeclaration found ancestors fits walks.names isOwner
                generalize readDeclaration r context node f = outcome
                  at here inside kept quiet named ⊢
                obtain ⟨g, owner⟩ := outcome
                cases owner with
                | none =>
                    rw [closedBelow inside, List.append_nil]
                    exact quiet
                | some owner =>
                    have within := walks.into wellFormed here inside (named owner rfl)
                    have deeper := ihBelow within split (read.append_of_other silent kept)
                    exact deeper.trans (congrArg (· ++ _) quiet)
              · next noElement =>
                have nothing := silent_of_tag? found noLink noElement
                refine ihBelow (walks.into wellFormed
                  ((Selects.refl r f).of_silent (List.forall_mem_singleton.2 nothing))
                  (matches_cons found ancestors fits noLink noScript noElement) ?_) split
                  (read.append_of_other silent fun _ => rfl)
                rw [List.find?_cons_of_neg (by simp [nothing.declares])]
                exact walks.names

/-! ## The document -/

/-- The place of a script that may be the one of its place is the file or that of a component. -/
theorem exists_component_of_mem_unitsOf (wellFormed : r.document.WellFormed)
    (member : node ∈ r.unitsOf place) :
    place = none ∨ ∃ c ∈ (read r).components, place = some c.element := by
  obtain ⟨listed, fits⟩ := List.mem_filter.1 member
  rw [← Reading.isScriptOf_eq wellFormed, Bool.and_eq_true, Reading.isScriptOf, Bool.and_eq_true,
    beq_iff_eq] at fits
  cases place with
  | none => exact .inl rfl
  | some element =>
      have home : (r.document.ancestors node).find? r.declares = some element := fits.1.2
      have hangs := wellFormed.hangsOnElements_of_mem_ancestors
        (wellFormed.mem_inOrder_iff.1 listed) (List.mem_of_find?_eq_some home)
      have declared : element ∈ (read r).elements := by
        rw [(distinct_read r wellFormed).1, List.mem_filter]
        exact ⟨wellFormed.mem_inOrder_iff.2 hangs, List.find?_some home⟩
      obtain ⟨c, isComponent, rfl⟩ := List.mem_map.1 declared
      exact .inr ⟨c, isComponent, rfl⟩

/-- Each place of a document has what the first of its scripts gives that is written there or asks
for a file that can be located. Each later one is reported, once, nothing else is reported as too
late, and reading a script whose place is taken leaves everything but the reports as it was. -/
theorem firstUnit_read (r : Reading) (wellFormed : r.document.WellFormed) :
    (∀ place,
      (((read r).slot place).code = none ∨ ((read r).slot place).external = none) ∧
      (read r).slot place = ((r.unitsOf place).find? r.supplies).elim {} r.supply ∧
      ∀ node ∈ r.unitsOf place,
        place = none ∨ ∃ c ∈ (read r).components, place = some c.element) ∧
    (∀ c ∈ (read r).components, (read r).slot (some c.element) = ⟨c.code, c.external⟩) ∧
    (read r).reports.filter (·.problem.isOfSecondScript) =
      r.document.inOrder.filterMap r.secondReport? ∧
    ∀ (context : Context) (node : NodeId) (f : Findings), f.hasScript context.owner = true →
      ∃ reports, readScript r context node f = { f with reports } := by
  have walks := Walks.start wellFormed
  have slot (place : Place) :
      (read r).slot place = ((r.unitsOf place).find? r.supplies).elim {} r.supply := by
    have filled := slot_readForest wellFormed walks place
    have nothing : ({} : Findings).slot place = {} := by cases place <;> rfl
    rw [nothing, Reading.foldl_fill_eq, Reading.filter_qualifies wellFormed] at filled
    exact filled
  refine ⟨fun place => ⟨?_, slot place, fun node => exists_component_of_mem_unitsOf wellFormed⟩,
    fun c member => Findings.slot_of_mem (distinct_read r wellFormed).2 member, ?_,
    fun context node f => readScript_of_hasScript r node⟩
  · rw [slot place]
    cases (r.unitsOf place).find? r.supplies with
    | none => exact .inl rfl
    | some node => exact Reading.supply_single node
  · have split : r.document.inOrder =
        [] ++ r.document.reached (r.document.below Document.root) ++ [] :=
      (List.append_nil _).symm
    exact lateReports_readForest wellFormed walks split fun place => by cases place <;> rfl

/-- An entry with `<script type=module src=//b.js></script><script type=module></script>`
`<script type=module src=b.js></script><element name=x-a><script type=module></script>`
`<element><script type=module></script></element></element>`
`<element><script type=module></script></element>`. -/
def severalScripts : Reading where
  path := ⟨"a.html"⟩
  isEntry := true
  packageRoot := ⟨""⟩
  document := ⟨#[
    { data := .document, children := [1, 2, 3, 4, 8] },
    { data := .element "script" ⟨[("type", "module"), ("src", "//b.js")]⟩, parent := some 0 },
    { data := .element "script" ⟨[("type", "module")]⟩, parent := some 0 },
    { data := .element "script" ⟨[("type", "module"), ("src", "b.js")]⟩, parent := some 0 },
    { data := .element "element" ⟨[("name", "x-a")]⟩, parent := some 0, children := [5, 6] },
    { data := .element "script" ⟨[("type", "module")]⟩, parent := some 4 },
    { data := .element "element" {}, parent := some 4, children := [7] },
    { data := .element "script" ⟨[("type", "module")]⟩, parent := some 6 },
    { data := .element "element" {}, parent := some 0, children := [9] },
    { data := .element "script" ⟨[("type", "module")]⟩, parent := some 8 }]⟩

theorem firstUnit_read_severalScripts :
    severalScripts.document.WellFormed ∧
    severalScripts.unitsOf none = [1, 2, 3] ∧
    (read severalScripts).slot none = severalScripts.supply 2 ∧
    severalScripts.unitsOf (some 4) = [5, 7] ∧
    (read severalScripts).slot (some 4) = severalScripts.supply 5 ∧
    ((read severalScripts).reports.filter (·.problem.isOfSecondScript)).map Diagnostic.problem =
      [.secondScriptInFile "a.html", .secondScriptInDeclaration] := by
  have checked : severalScripts.document.Checked
      fun n => [0, 1, 1, 1, 1, 2, 2, 3, 1, 2].getD n 0 := by decide
  have wellFormed := Document.WellFormed.of_checked checked
  obtain ⟨places, -, reports, -⟩ := firstUnit_read severalScripts wellFormed
  have ofFile : severalScripts.unitsOf none = [1, 2, 3] := by decide +kernel
  have ofDeclaration : severalScripts.unitsOf (some 4) = [5, 7] := by decide +kernel
  refine ⟨wellFormed, ofFile, ?_, ofDeclaration, ?_, ?_⟩
  · have first : [1, 2, 3].find? severalScripts.supplies = some 2 := by decide +kernel
    rw [(places none).2.1, ofFile, first]
    rfl
  · have first : [5, 7].find? severalScripts.supplies = some 5 := by decide +kernel
    rw [(places (some 4)).2.1, ofDeclaration, first]
    rfl
  · rw [reports]
    decide +kernel

end Declaration
end ComponentMarkup
