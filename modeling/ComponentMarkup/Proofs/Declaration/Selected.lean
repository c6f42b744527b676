import ComponentMarkup.Proofs.Declaration
import ComponentMarkup.Proofs.Document.Ancestors
import ComponentMarkup.Proofs.Linking.Scope

/-!
What a document declares, told from each node and the nodes above it.
-/

namespace ComponentMarkup

/-- Problems of declarations themselves, not of their links and scripts. -/
def Problem.isOfDeclaration : Problem → Bool
  | .nestedDeclaration | .namelessDeclaration | .templateCount .. => true
  | _ => false

namespace Declaration
namespace Reading
variable (r : Reading) (node : NodeId)

def name (node : NodeId) : String := trimmedAttribute r.document node "name"

/-- Nothing above a node keeps it from declaring a component. -/
def isOutermost (node : NodeId) : Bool :=
  !r.document.isWithin node "element" && !r.document.isWithin node "link" &&
    !r.document.isWithin node "script"

/-- The node declares a component. -/
def declares (node : NodeId) : Bool :=
  r.document.isElement node "element" && !(r.name node).isEmpty && r.isOutermost node

/-- The node stands in the declaration of a component. -/
def isDeclared (node : NodeId) : Bool := (r.document.ancestors node).any r.declares

/-- A nameless `element` outside declarations. -/
def isStray (node : NodeId) : Bool :=
  r.document.isElement node "element" && (r.name node).isEmpty && !r.isDeclared node

/-- The node is a link, a script or a nameless `element` outside declarations. -/
def isClosed (node : NodeId) : Bool :=
  r.document.isElement node "link" || r.document.isElement node "script" || r.isStray node

/-- Nothing above a node is closed. -/
def isReached (node : NodeId) : Bool := (r.document.ancestors node).all (!r.isClosed ·)

/-- The file that a link of the given kind leads to, none when `href` is blank or leads out of the
file graph. -/
def target? (rel : String) (node : NodeId) : Option Path :=
  if r.document.isElement node "link" && trimmedAttribute r.document node "rel" == rel &&
      r.document.isWithin node "head" && r.isReached node then
    resolve r.packageRoot (trimmedAttribute r.document node "href") r.path
  else none

/-- What is wrong with the node as a declaration. -/
def problem? (node : NodeId) : Option Problem :=
  let templates := (r.document.childElements node "template").length
  if !r.document.isElement node "element" then none
  else if r.declares node then
    if templates = 1 then none else some (.templateCount (r.name node) templates)
  else if (r.name node).isEmpty && r.isOutermost node then some .namelessDeclaration
  else if r.isDeclared node && r.isReached node then some .nestedDeclaration
  else none

def report? (node : NodeId) : Option Diagnostic :=
  (r.problem? node).map (⟨·, r.path, r.document.position node⟩)

/-- The node declares nothing, links to nothing and has no fault. -/
structure IsSilent (node : NodeId) : Prop where
  declares : r.declares node = false
  target? : ∀ rel, rel = "components" ∨ rel = "stylesheet" → r.target? rel node = none
  problem? : r.problem? node = none

end Reading

/-! ## One node -/

/-- What is found in a list of nodes. -/
structure Selects (r : Reading) (nodes : List NodeId) (f g : Findings) : Prop where
  components : g.components.map uncoded =
    f.components.map uncoded ++ (nodes.filter r.declares).map r.declaration
  componentLinks : g.componentLinks =
    (nodes.filterMap (r.target? "components")).foldl addNew f.componentLinks
  stylesheetLinks : g.stylesheetLinks =
    (nodes.filterMap (r.target? "stylesheet")).foldl addNew f.stylesheetLinks
  reports : g.reports.filter (·.problem.isOfDeclaration) =
    f.reports.filter (·.problem.isOfDeclaration) ++ nodes.filterMap r.report?

variable {r : Reading} {f g h : Findings} {nodes more : List NodeId} {node : NodeId}
  {context : Context} {above : List NodeId}

namespace Selects

theorem refl (r : Reading) (f : Findings) : Selects r [] f f :=
  ⟨(List.append_nil _).symm, rfl, rfl, (List.append_nil _).symm⟩

theorem trans (first : Selects r nodes f g) (second : Selects r more g h) :
    Selects r (nodes ++ more) f h where
  components := by
    rw [second.components, first.components, List.filter_append, List.map_append,
      List.append_assoc]
  componentLinks := by
    rw [second.componentLinks, first.componentLinks, List.filterMap_append, List.foldl_append]
  stylesheetLinks := by
    rw [second.stylesheetLinks, first.stylesheetLinks, List.filterMap_append, List.foldl_append]
  reports := by
    rw [second.reports, first.reports, List.filterMap_append, List.append_assoc]

/-- Nothing more is found in no more nodes. -/
theorem andNone (first : Selects r nodes f g) (second : Selects r [] g h) : Selects r nodes f h := by
  have both := first.trans second
  rwa [List.append_nil] at both

theorem of_silent (selects : Selects r [] f g)
    (silent : ∀ node ∈ nodes, r.IsSilent node) : Selects r nodes f g := by
  have declares : nodes.filter r.declares = [] :=
    List.filter_eq_nil_iff.2 fun node member => by simp [(silent node member).declares]
  have targets {rel : String} (managed : rel = "components" ∨ rel = "stylesheet") :
      nodes.filterMap (r.target? rel) = [] :=
    List.filterMap_eq_nil_iff.2 fun node member => (silent node member).target? rel managed
  have reports : nodes.filterMap r.report? = [] :=
    List.filterMap_eq_nil_iff.2 fun node member => by
      rw [Reading.report?, (silent node member).problem?, Option.map_none]
  constructor
  · rw [declares, selects.components]
    rfl
  · rw [targets (.inl rfl), selects.componentLinks]
    rfl
  · rw [targets (.inr rfl), selects.stylesheetLinks]
    rfl
  · rw [reports, selects.reports]
    rfl

theorem report {problem : Problem} (other : problem.isOfDeclaration = false) (node : NodeId) :
    Selects r [] f (f.report r problem node) := by
  refine ⟨(List.append_nil _).symm, rfl, rfl, ?_⟩
  rw [Findings.report, List.filter_append, List.filter_cons_of_neg (by simp [other])]
  rfl

theorem modify (index : Nat) {change : Component → Component}
    (same : ∀ c, uncoded (change c) = uncoded c) :
    Selects r [] f { f with components := f.components.modify index change } := by
  refine ⟨?_, rfl, rfl, (List.append_nil _).symm⟩
  rw [List.filter_nil, List.map_nil, List.append_nil]
  refine List.ext_getElem? fun i => ?_
  rw [List.getElem?_map, List.getElem?_map, List.getElem?_modify, Option.map_eq_map, Option.map_map]
  refine Option.map_congr fun c _ => ?_
  rw [Function.comp_apply]
  split
  · exact same c
  · rfl

theorem setCode (unit : CodeUnit) (owner : Owner) : Selects r [] f (f.setCode unit owner) := by
  cases owner with
  | file => exact ⟨(List.append_nil _).symm, rfl, rfl, (List.append_nil _).symm⟩
  | component index => exact modify index fun _ => rfl

theorem setExternal (target : Option Path) (owner : Owner) :
    Selects r [] f (f.setExternal target owner) := by
  cases owner with
  | file => exact ⟨(List.append_nil _).symm, rfl, rfl, (List.append_nil _).symm⟩
  | component index => exact modify index fun _ => rfl

end Selects

theorem selects_readExternal (r : Reading) (context : Context) (node : NodeId) (source : String)
    (f : Findings) : Selects r [] f (readExternal r context node source f) := by
  unfold readExternal
  split
  · exact .report rfl node
  · have checked : Selects r [] f
        (if Text.blankOnly (r.document.innerText node) then f
          else f.report r .sourceAndText node) := by
      split
      · exact .refl r f
      · exact .report rfl node
    dsimp only
    generalize (if Text.blankOnly (r.document.innerText node) then f
      else f.report r .sourceAndText node) = g at checked ⊢
    split
    · refine checked.trans (.report ?_ node)
      cases context.owner <;> rfl
    · exact checked.trans (.setExternal _ _)

theorem selects_readInline (r : Reading) (context : Context) (node : NodeId) (f : Findings) :
    Selects r [] f (readInline r context node f) := by
  unfold readInline
  split
  · exact .report rfl node
  · split
    · refine .report ?_ node
      cases context.owner <;> rfl
    · have parsed : Selects r [] f { f with
          reports := f.reports ++
            (CodeUnit.read r.path (r.document.innerText node) (r.document.position node)).2 } := by
        refine ⟨(List.append_nil _).symm, rfl, rfl, ?_⟩
        rw [List.filter_append]
        unfold CodeUnit.read
        split <;> rfl
      dsimp only
      refine Selects.andNone (g := if _ then _ else _) ?_ (.setCode _ _)
      split
      · exact parsed
      · exact parsed.trans (.report rfl node)

theorem selects_readScript (r : Reading) (context : Context) (node : NodeId) (f : Findings) :
    Selects r [] f (readScript r context node f) := by
  unfold readScript
  dsimp only
  split
  · have either (looksManaged : Bool) : Selects r [] f
        (if looksManaged then f.report r .untypedScript node else f) := by
      cases looksManaged with
      | false => exact .refl r f
      | true => exact .report rfl node
    exact either _
  · split
    · exact .refl r f
    · split
      · exact selects_readExternal r context node _ f
      · exact selects_readInline r context node f

/-! ## Nodes and what is above them -/

/-- A context tells what the nodes above say of the nodes below them. -/
structure Matches (r : Reading) (context : Context) (above : List NodeId) : Prop where
  isOpen : ∀ a ∈ above, r.isClosed a = false
  inHead : context.inHead = above.any (r.document.isElement · "head")
  file : context.owner = .file → above.any (r.document.isElement · "element") = false
  component : ∀ index, context.owner = .component index → above.any r.declares = true

theorem matches_nil (r : Reading) : Matches r {} [] :=
  ⟨fun _ impossible => (nomatch impossible), rfl, fun _ => rfl,
    fun _ impossible => nomatch impossible⟩

section Above
variable (ancestors : r.document.ancestors node = above)
include ancestors

theorem isReached_of_matches (fits : Matches r context above) : r.isReached node = true := by
  rw [Reading.isReached, ancestors, List.all_eq_true]
  exact fun a member => by rw [fits.isOpen a member]; rfl

theorem isOutermost_of_matches (fits : Matches r context above) :
    r.isOutermost node = !above.any (r.document.isElement · "element") := by
  have apart (tag : String) (closes : ∀ a, r.document.isElement a tag = true → r.isClosed a = true) :
      above.any (r.document.isElement · tag) = false := by
    rw [List.any_eq_false]
    intro a member element
    exact Bool.false_ne_true ((fits.isOpen a member).symm.trans (closes a element))
  rw [Reading.isOutermost, Document.isWithin, Document.isWithin, Document.isWithin, ancestors,
    apart "link" fun a element => by rw [Reading.isClosed, element]; rfl,
    apart "script" fun a element => by
      rw [Reading.isClosed, element, Bool.or_true, Bool.true_or]]
  simp only [Bool.not_false, Bool.and_true]

end Above

theorem isElement_of_declares (declares : r.declares node = true) :
    r.document.isElement node "element" = true := by
  rw [Reading.declares, Bool.and_eq_true, Bool.and_eq_true] at declares
  exact declares.1.1

/-- What is below a closed node says nothing. -/
theorem silent_of_isClosed {a : NodeId} (member : a ∈ r.document.ancestors node)
    (closed : r.isClosed a = true) : r.IsSilent node := by
  have within {tag : String} (element : r.document.isElement a tag = true) :
      r.document.isWithin node tag = true := List.any_eq_true.2 ⟨a, member, element⟩
  have unreached : r.isReached node = false :=
    List.all_eq_false.2 ⟨a, member, by simp [closed]⟩
  have inner : r.isOutermost node = false := by
    rw [Reading.isClosed, Bool.or_eq_true, Bool.or_eq_true] at closed
    rcases closed with (isLink | isScript) | isStray
    · simp [Reading.isOutermost, within isLink]
    · simp [Reading.isOutermost, within isScript]
    · rw [Reading.isStray, Bool.and_eq_true, Bool.and_eq_true] at isStray
      simp [Reading.isOutermost, within isStray.1.1]
  constructor
  · simp [Reading.declares, inner]
  · intro rel _
    simp [Reading.target?, unreached]
  · simp [Reading.problem?, Reading.declares, inner, unreached]

/-! ## The walk -/

section Step
variable {tag : String} (found : r.document.tag? node = some tag)
  (ancestors : r.document.ancestors node = above) (fits : Matches r context above)
include found

theorem isElement_of_tag? (other : String) :
    r.document.isElement node other = decide (tag = other) := by
  rw [Document.isElement, found, Bool.eq_iff_iff]
  simp

theorem silent_of_tag? (noLink : tag ≠ "link") (noElement : tag ≠ "element") :
    r.IsSilent node := by
  have isElement := isElement_of_tag? found
  constructor <;> simp [Reading.declares, Reading.target?, Reading.problem?, isElement, noLink,
    noElement]

include ancestors fits

theorem matches_cons (noLink : tag ≠ "link") (noScript : tag ≠ "script")
    (noElement : tag ≠ "element") :
    Matches r { context with inHead := context.inHead || tag = "head" } (node :: above) where
  isOpen a member := by
    rcases List.mem_cons.1 member with rfl | higher
    · simp [Reading.isClosed, Reading.isStray, isElement_of_tag? found, noLink, noScript, noElement]
    · exact fits.isOpen a higher
  inHead := by
    rw [List.any_cons, isElement_of_tag? found, fits.inHead, Bool.or_comm]
  file isFile := by
    rw [List.any_cons, isElement_of_tag? found, fits.file isFile]
    simp [noElement]
  component index isComponent := by
    rw [List.any_cons, fits.component index isComponent, Bool.or_true]

theorem selects_readLink (isLink : tag = "link") :
    Selects r [node] f (readLink r context node f) := by
  have isElement := isElement_of_tag? found
  have reached := isReached_of_matches ancestors fits
  have declares : r.declares node = false := by simp [Reading.declares, isElement, isLink]
  have faultless : r.problem? node = none := by simp [Reading.problem?, isElement, isLink]
  have target (rel : String) : r.target? rel node =
      if trimmedAttribute r.document node "rel" = rel ∧ context.inHead = true then
        resolve r.packageRoot (trimmedAttribute r.document node "href") r.path
      else none := by
    simp [Reading.target?, isElement, isLink, reached, Document.isWithin, ancestors, fits.inHead]
  have silent {g : Findings} (same : Selects r [] f g)
      (none : ∀ rel, rel = "components" ∨ rel = "stylesheet" → r.target? rel node = none) :
      Selects r [node] f g :=
    same.of_silent fun other member => List.mem_singleton.1 member ▸ ⟨declares, none, faultless⟩
  unfold readLink
  dsimp only
  split
  · next other =>
    refine silent (.refl r f) fun rel managed => ?_
    rw [target, if_neg]
    rintro ⟨same, -⟩
    rw [same] at other
    rcases managed with rfl | rfl <;> simp at other
  · next managed =>
    split
    · next outside =>
      refine silent (.report rfl node) fun rel _ => ?_
      rw [target, if_neg]
      rintro ⟨-, inside⟩
      rw [inside] at outside
      cases outside
    · next inside =>
      rw [Bool.not_eq_true', Bool.not_eq_false] at inside
      simp only [inside, and_true] at target
      split
      · next blank =>
        refine silent (.report rfl node) fun rel _ => ?_
        rw [target, String.isEmpty_iff.1 blank]
        exact ite_self none
      · split
        · next unresolved =>
          refine silent (.refl r f) fun rel _ => ?_
          rw [target, unresolved, ite_self]
        · next path resolved =>
          rw [resolved] at target
          split
          · next isComponents =>
            have rel := eq_of_beq isComponents
            have toComponents : r.target? "components" node = some path := by
              rw [target, if_pos rel]
            have toStylesheet : r.target? "stylesheet" node = none := by
              rw [target, rel, if_neg (by decide)]
            constructor <;> simp [declares, toComponents, toStylesheet, Reading.report?, faultless]
          · next noComponents =>
            have rel : trimmedAttribute r.document node "rel" = "stylesheet" := by
              rw [beq_iff_eq] at noComponents
              simpa [noComponents] using managed
            have toComponents : r.target? "components" node = none := by
              rw [target, rel, if_neg (by decide)]
            have toStylesheet : r.target? "stylesheet" node = some path := by
              rw [target, if_pos rel]
            constructor <;> simp [declares, toComponents, toStylesheet, Reading.report?, faultless]

/-- The inside of a declaration is in the declaration, and that of a stray `element` is closed. -/
theorem selects_readDeclaration (isElement : tag = "element") :
    Selects r [node] f (readDeclaration r context node f).1 ∧
      match (readDeclaration r context node f).2 with
      | some owner => Matches r { context with owner } (node :: above)
      | none => r.isClosed node = true := by
  have isElement (other : String) : r.document.isElement node other = decide (other = "element") := by
    rw [isElement_of_tag? found, isElement, Bool.eq_iff_iff]
    simp [eq_comm]
  have outermost := isOutermost_of_matches ancestors fits
  have reached := isReached_of_matches ancestors fits
  have inHead : context.inHead = (node :: above).any (r.document.isElement · "head") := by
    rw [List.any_cons, isElement, fits.inHead]
    rfl
  have linkless (rel : String) : r.target? rel node = none := by
    simp [Reading.target?, isElement]
  unfold readDeclaration
  split
  · next index inside =>
    have declared : r.isDeclared node = true := by
      rw [Reading.isDeclared, ancestors, fits.component index inside]
    obtain ⟨a, member, declares⟩ := List.any_eq_true.1 (fits.component index inside)
    have inner : r.isOutermost node = false := by
      rw [outermost, List.any_eq_true.2 ⟨a, member, isElement_of_declares declares⟩]
      rfl
    have silent : r.declares node = false := by simp [Reading.declares, inner]
    have nested : r.report? node = some ⟨.nestedDeclaration, r.path, r.document.position node⟩ := by
      simp [Reading.report?, Reading.problem?, isElement, silent, inner, declared, reached]
    refine ⟨?_, ?_, inHead, ?_, ?_⟩
    · constructor <;> simp [silent, linkless, nested, Findings.report, Problem.isOfDeclaration]
    · intro b isAbove
      rcases List.mem_cons.1 isAbove with rfl | higher
      · simp [Reading.isClosed, isElement, Reading.isStray, declared]
      · exact fits.isOpen b higher
    · intro isFile
      rw [inside] at isFile
      cases isFile
    · intro _ _
      rw [List.any_cons, fits.component index inside, Bool.or_true]
  · next outside =>
    have outer : r.isOutermost node = true := by
      rw [outermost, fits.file outside]
      rfl
    have undeclared : r.isDeclared node = false := by
      rw [Reading.isDeclared, ancestors, List.any_eq_false]
      intro a member declares
      exact List.any_eq_false.1 (fits.file outside) a member (isElement_of_declares declares)
    dsimp only
    split
    · next nameless =>
      have nameless : (r.name node).isEmpty = true := nameless
      have silent : r.declares node = false := by simp [Reading.declares, nameless]
      have fault : r.report? node =
          some ⟨.namelessDeclaration, r.path, r.document.position node⟩ := by
        simp [Reading.report?, Reading.problem?, isElement, silent, nameless, outer]
      refine ⟨?_, by simp [Reading.isClosed, Reading.isStray, isElement, nameless, undeclared]⟩
      constructor <;> simp [silent, linkless, fault, Findings.report, Problem.isOfDeclaration]
    · next named =>
      have named : (r.name node).isEmpty = false := Bool.eq_false_iff.2 named
      have declares : r.declares node = true := by
        simp [Reading.declares, isElement, named, outer]
      have isOpen : r.isClosed node = false := by
        simp [Reading.isClosed, Reading.isStray, isElement, named]
      refine ⟨?_, List.forall_mem_cons.2 ⟨isOpen, fits.isOpen⟩, inHead, nofun, ?_⟩
      · -- The component is the same whether or not its templates draw a warning.
        split
        · next single =>
          have faultless : r.report? node = none := by
            simp [Reading.report?, Reading.problem?, isElement, declares, single]
          constructor <;> simp [declares, linkless, faultless, uncoded, Reading.declaration]
        · next several =>
          have fault : r.report? node = some ⟨.templateCount (r.name node)
              (r.document.childElements node "template").length, r.path,
              r.document.position node⟩ := by
            simp [Reading.report?, Reading.problem?, isElement, declares, several]
          constructor <;> simp [declares, linkless, fault, uncoded, Reading.declaration,
            Findings.report, Problem.isOfDeclaration, Reading.name]
      · intro _ _
        rw [List.any_cons, declares, Bool.true_or]

end Step

/-- The walk finds what each node says that only elements stand above. -/
theorem selects_readForest (wellFormed : r.document.WellFormed) {forest : Forest}
    (follows : forest.Follows r.document.children) (inner : Document.root ∉ forest.preorder)
    (tops : ∀ n ∈ forest.tops, r.document.ancestors n = above) (fits : Matches r context above) :
    Selects r (r.document.reached forest) f (readForest r forest context f) := by
  induction forest generalizing context above f with
  | nil => exact .refl r f
  | cons node below rest ihBelow ihRest =>
      obtain ⟨isBelow, followsBelow, followsRest⟩ := follows
      simp only [Forest.preorder, List.mem_cons, List.mem_append, not_or] at inner
      simp only [Forest.tops, List.mem_cons, forall_eq_or_imp] at tops
      obtain ⟨ancestors, tops⟩ := tops
      have deeper : ∀ n ∈ below.tops, r.document.ancestors n = node :: above := fun n isTop => by
        rw [wellFormed.ancestors_of_mem_children (isBelow ▸ isTop) (Ne.symm inner.1), ancestors]
      have closed (isClosed : r.isClosed node = true) :
          ∀ n ∈ r.document.reached below, r.IsSilent n := fun n member => by
        refine silent_of_isClosed (wellFormed.mem_ancestors_of_mem_preorder followsBelow inner.2.1
          (fun top isTop => ?_) (Document.mem_preorder_of_mem_reached member)) isClosed
        rw [deeper top isTop]
        exact List.mem_cons_self
      rw [Document.reached, readForest]
      rw [← List.cons_append]
      refine Selects.trans ?_ (ihRest followsRest inner.2.2 tops fits)
      have whole {g h : Findings} (here : Selects r [node] f g)
          (inside : Selects r (r.document.reached below) g h) :
          Selects r (node :: r.document.reached below) f h := here.trans inside
      cases found : r.document.tag? node with
      | none =>
          have silent : r.IsSilent node := by
            constructor <;> simp [Reading.declares, Reading.target?, Reading.problem?,
              Document.isElement, found]
          exact (Selects.refl r f).of_silent (List.forall_mem_singleton.2 silent)
      | some tag =>
          dsimp only
          rw [Option.isSome_some, if_pos rfl]
          split
          · next isLink =>
            refine whole (selects_readLink found ancestors fits isLink) ?_
            refine (Selects.refl r _).of_silent (closed ?_)
            simp [Reading.isClosed, isElement_of_tag? found, isLink]
          · next noLink =>
            split
            · next isScript =>
              have silent := silent_of_tag? found noLink (isScript ▸ by decide)
              refine whole ((selects_readScript r context node f).of_silent
                (List.forall_mem_singleton.2 silent)) ((Selects.refl r _).of_silent (closed ?_))
              simp [Reading.isClosed, isElement_of_tag? found, isScript]
            · next noScript =>
              split
              · next isElement =>
                obtain ⟨here, inside⟩ := selects_readDeclaration (f := f) found ancestors fits isElement
                generalize readDeclaration r context node f = outcome at here inside ⊢
                obtain ⟨g, owner⟩ := outcome
                cases owner with
                | none => exact whole here ((Selects.refl r g).of_silent (closed inside))
                | some owner => exact whole here (ihBelow followsBelow inner.2.1 deeper inside)
              · next noElement =>
                have silent := silent_of_tag? found noLink noElement
                refine whole ((Selects.refl r f).of_silent (List.forall_mem_singleton.2 silent)) ?_
                exact ihBelow followsBelow inner.2.1 deeper
                  (matches_cons found ancestors fits noLink noScript noElement)

/-! ## The document -/

/-- A document declares a component at every named `element` that no `element`, link or script is
above, and leads where the links in its head lead that nothing closed is above. Its faults as
declarations are reported node by node. -/
theorem selects_read (r : Reading) (wellFormed : r.document.WellFormed) :
    (∀ node, node ∈ r.document.inOrder ↔ r.document.HangsOnElements node) ∧
    r.document.inOrder.Sublist (r.document.below Document.root).preorder ∧
    r.document.inOrder.Nodup ∧
    (read r).components.map uncoded =
      (r.document.inOrder.filter r.declares).map r.declaration ∧
    (read r).componentLinks =
      (r.document.inOrder.filterMap (r.target? "components")).eraseDups ∧
    (read r).stylesheetLinks =
      (r.document.inOrder.filterMap (r.target? "stylesheet")).eraseDups ∧
    (read r).reports.filter (·.problem.isOfDeclaration) =
      r.document.inOrder.filterMap r.report? := by
  obtain ⟨tops, follows, distinct, inner⟩ := wellFormed.below_root_spec
  have top (n : NodeId) (isTop : n ∈ (r.document.below Document.root).tops) :
      r.document.ancestors n = [] :=
    Document.ancestors_of_top ((wellFormed.linked Document.root n).1 (tops ▸ isTop))
  have selects : Selects r r.document.inOrder {} (read r) :=
    selects_readForest wellFormed follows inner top (matches_nil r)
  refine ⟨fun node => wellFormed.mem_inOrder_iff, Document.sublist_reached _ _,
    wellFormed.nodup_inOrder, selects.components, ?_, ?_, selects.reports⟩
  · rw [← foldl_addNew]
    exact selects.componentLinks
  · rw [← foldl_addNew]
    exact selects.stylesheetLinks

/-- `<head><link rel=components href=w.html><link rel=components href=./w.html></head>`
`<element name=" X-A "><element></element></element><element></element>`. -/
def twoSpellings : Reading where
  path := ⟨"a.html"⟩
  isEntry := true
  packageRoot := ⟨""⟩
  document := ⟨#[
    { data := .document, children := [1, 4, 6] },
    { data := .element "head" {}, parent := some 0, children := [2, 3] },
    { data := .element "link" ⟨[("rel", "components"), ("href", "w.html")]⟩, parent := some 1 },
    { data := .element "link" ⟨[("rel", "components"), ("href", "./w.html")]⟩, parent := some 1 },
    { data := .element "element" ⟨[("name", " X-A ")]⟩, parent := some 0, children := [5] },
    { data := .element "element" {}, parent := some 4 },
    { data := .element "element" {}, parent := some 0 }]⟩

theorem selects_read_twoSpellings :
    twoSpellings.document.WellFormed ∧
    (read twoSpellings).components.map uncoded = [twoSpellings.declaration 4] ∧
    (twoSpellings.declaration 4).tag = "x-a" ∧
    (read twoSpellings).componentLinks.map Path.text = ["w.html"] ∧
    ((read twoSpellings).reports.filter (·.problem.isOfDeclaration)).map Diagnostic.problem =
      [.templateCount "X-A" 0, .nestedDeclaration, .namelessDeclaration] := by
  have checked : twoSpellings.document.Checked fun n => [0, 1, 2, 2, 1, 2, 1].getD n 0 := by decide
  have wellFormed := Document.WellFormed.of_checked checked
  obtain ⟨-, -, -, components, links, -, reports⟩ := selects_read twoSpellings wellFormed
  refine ⟨wellFormed, ?_, by decide +kernel, ?_, ?_⟩
  · have declaring : twoSpellings.document.inOrder.filter twoSpellings.declares = [4] := by
      decide +kernel
    rw [components, declaring]
    rfl
  · rw [links]
    decide +kernel
  · rw [reports]
    decide +kernel

end Declaration
end ComponentMarkup
