import ComponentMarkup.Proofs.Component
import ComponentMarkup.Proofs.Declaration
import ComponentMarkup.Proofs.Document.Split
import ComponentMarkup.Proofs.Document.Wrapped

/-!
A document declares the same in either spelling of a condition, but that the nodes of its
declarations have other numbers.
-/

namespace ComponentMarkup.Declaration
variable {ρ : NodeId → NodeId} {r : Reading} {d' : Document} {context : Context} {node node' : NodeId}

namespace Findings

/-- The same findings in a document whose nodes have other numbers. -/
def relocated (ρ : NodeId → NodeId) (f : Findings) : Findings :=
  { f with components := f.components.map (·.relocated ρ) }

variable (f : Findings)

theorem relocated_report (problem : Problem)
    (position : d'.position node' = r.document.position node) :
    (f.relocated ρ).report { r with document := d' } problem node' =
      (f.report r problem node).relocated ρ := by
  rw [report, report, position]
  rfl

theorem hasScript_relocated (owner : Owner) : (f.relocated ρ).hasScript owner = f.hasScript owner := by
  cases owner with
  | file => rfl
  | component index =>
      rw [hasScript, hasScript, relocated, List.getElem?_map]
      cases f.components[index]? <;> rfl

theorem modify_relocated (index : Nat) {g : Component → Component}
    (commutes : ∀ c, g (c.relocated ρ) = (g c).relocated ρ) :
    (f.components.map (·.relocated ρ)).modify index g =
      (f.components.modify index g).map (·.relocated ρ) := by
  refine List.ext_getElem? fun i => ?_
  rw [List.getElem?_modify, List.getElem?_map, List.getElem?_map, List.getElem?_modify,
    Option.map_eq_map, Option.map_map, Option.map_map]
  refine Option.map_congr fun c _ => ?_
  rw [Function.comp_apply, Function.comp_apply]
  split
  · exact commutes c
  · rfl

theorem setCode_relocated (unit : CodeUnit) (owner : Owner) :
    (f.relocated ρ).setCode unit owner = (f.setCode unit owner).relocated ρ := by
  cases owner with
  | file => rfl
  | component index =>
      exact congrArg (fun components => { f with components })
        (f.modify_relocated index (g := fun c => { c with code := some unit }) fun _ => rfl)

theorem setExternal_relocated (target : Option Path) (owner : Owner) :
    (f.relocated ρ).setExternal target owner = (f.setExternal target owner).relocated ρ := by
  cases owner with
  | file => rfl
  | component index =>
      exact congrArg (fun components => { f with components })
        (f.modify_relocated index (g := fun c => { c with external := target }) fun _ => rfl)

theorem append_relocated (c : Component) :
    { f.relocated ρ with components := (f.relocated ρ).components ++ [c.relocated ρ] } =
      Findings.relocated ρ { f with components := f.components ++ [c] } := by
  rw [relocated, relocated, List.map_append]
  rfl

theorem length_relocated : (f.relocated ρ).components.length = f.components.length :=
  List.length_map ..

end Findings

section Node
variable (f : Findings) (position : d'.position node' = r.document.position node)
  (held : ∀ name ∉ directiveNames, d'.attribute? node' name = r.document.attribute? node name)
include position held

omit position in
theorem trimmedAttribute_relocated {name : String} (plain : name ∉ directiveNames) :
    trimmedAttribute d' node' name = trimmedAttribute r.document node name := by
  rw [trimmedAttribute, trimmedAttribute, held name plain]

theorem readLink_relocated : readLink { r with document := d' } context node' (f.relocated ρ) =
    (readLink r context node f).relocated ρ := by
  unfold readLink
  dsimp only
  rw [trimmedAttribute_relocated held (by decide : "rel" ∉ directiveNames),
    trimmedAttribute_relocated held (by decide : "href" ∉ directiveNames)]
  simp only [f.relocated_report _ position]
  generalize trimmedAttribute r.document node "rel" = rel
  generalize trimmedAttribute r.document node "href" = href
  cases resolve r.packageRoot href r.path <;> split_ifs <;> rfl

theorem readDeclaration_relocated (isCopy : node' = ρ node)
    (templates : d'.childElements node' "template" =
      (r.document.childElements node "template").map ρ) :
    readDeclaration { r with document := d' } context node' (f.relocated ρ) =
      ((readDeclaration r context node f).1.relocated ρ, (readDeclaration r context node f).2) := by
  unfold readDeclaration
  cases context.owner with
  | component index => exact Prod.ext (f.relocated_report _ position) rfl
  | file =>
      dsimp only
      rw [trimmedAttribute_relocated held (by decide : "name" ∉ directiveNames),
        trimmedAttribute_relocated held (by decide : "extends" ∉ directiveNames), templates,
        List.length_map, List.head?_map, position]
      simp only [f.relocated_report _ position]
      rw [← apply_ite (Findings.relocated ρ)]
      generalize (if (r.document.childElements node "template").length = 1 then f
        else f.report r _ node) = g
      rw [g.length_relocated, isCopy]
      cases (trimmedAttribute r.document node "name").isEmpty with
      | true => rfl
      | false =>
          have appended := g.append_relocated (ρ := ρ) (r.declaration node)
          rw [Reading.declaration, Component.relocated] at appended
          simp only [Bool.false_eq_true, if_false]
          dsimp only at appended
          rw [appended]

omit held in
theorem readExternal_relocated (inner : d'.innerText node' = r.document.innerText node)
    (source : String) :
    readExternal { r with document := d' } context node' source (f.relocated ρ) =
      (readExternal r context node source f).relocated ρ := by
  unfold readExternal
  dsimp only
  rw [inner, f.relocated_report _ position, f.relocated_report _ position,
    ← apply_ite (Findings.relocated ρ)]
  generalize (if Text.blankOnly (r.document.innerText node) then f
    else f.report r _ node) = g
  rw [g.hasScript_relocated, g.relocated_report _ position, g.setExternal_relocated]
  split
  · rfl
  · split <;> rfl

omit held in
theorem readInline_relocated (inner : d'.innerText node' = r.document.innerText node) :
    readInline { r with document := d' } context node' (f.relocated ρ) =
      (readInline r context node f).relocated ρ := by
  unfold readInline
  dsimp only
  rw [inner, position, f.hasScript_relocated, f.relocated_report _ position,
    f.relocated_report _ position]
  generalize CodeUnit.read r.path (r.document.innerText node) (r.document.position node) = read
  let g : Findings := { f with reports := f.reports ++ read.2 }
  have kept : (if read.1.isLibrary then g.relocated ρ
      else (g.relocated ρ).report { r with document := d' } .inlinePart node') =
        Findings.relocated ρ (if read.1.isLibrary then g else g.report r .inlinePart node) := by
    rw [g.relocated_report _ position, ← apply_ite (Findings.relocated ρ)]
  split
  · rfl
  · split
    · rfl
    · refine Eq.trans ?_ (Findings.setCode_relocated _ read.1 context.owner)
      exact congrArg (Findings.setCode · read.1 context.owner) kept

theorem readScript_relocated (inner : d'.innerText node' = r.document.innerText node) :
    readScript { r with document := d' } context node' (f.relocated ρ) =
      (readScript r context node f).relocated ρ := by
  unfold readScript
  dsimp only
  rw [held "src" (by decide), held "type" (by decide)]
  cases (r.document.attribute? node "type").map Text.trimmed with
  | none =>
      dsimp only
      rw [f.relocated_report _ position, ← apply_ite (Findings.relocated ρ)]
  | some type =>
      dsimp only
      split
      · rfl
      · cases (r.document.attribute? node "src").map Text.trimmed with
        | none => exact readInline_relocated f position inner
        | some source => exact readExternal_relocated f position inner source

end Node

/-! ## The walk -/

section Walk
variable {n inner : NodeId} {tag condition : String} {attributes : Attributes}
  (wraps : r.document.Wraps ρ n inner tag attributes condition d')
include wraps

/-- Every name but those of directives has the value in the template that it has on the element. -/
theorem attribute?_content {name : String} (plain : name ∉ directiveNames) :
    d'.attribute? inner name = r.document.attribute? n name := by
  rw [Document.attribute?, Document.attribute?, Document.attributes?, Document.attributes?,
    wraps.content, wraps.element, ← Pass.withoutDirectives_eq]
  exact Pass.find?_withoutDirectives attributes plain

theorem readForest_wrap (wellFormed : r.document.WellFormed) (f : Forest) (found : Findings)
    (inside : ∀ m ∈ f.preorder, m < r.document.size) :
    readForest { r with document := d' } (f.wrap ρ n inner) context (found.relocated ρ) =
      (readForest r f context found).relocated ρ := by
  induction f generalizing context found with
  | nil => rfl
  | cons node below rest ihBelow ihRest =>
      simp only [Forest.preorder, List.mem_cons, List.mem_append] at inside
      have under {context : Context} (found : Findings) := @ihBelow context found
        fun m member => inside m (.inr (.inl member))
      have later {context : Context} (found : Findings) := @ihRest context found
        fun m member => inside m (.inr (.inr member))
      rw [Forest.wrap, readForest, readForest]
      by_cases here : node = n
      · subst here
        have host : d'.tag? (ρ node) = some "template" := wraps.tag?_host
        have content : d'.tag? inner = some tag := Document.tag?_eq_some.2 ⟨_, wraps.content⟩
        have held (name : String) (plain : name ∉ directiveNames) := attribute?_content wraps plain
        have notScript : tag ≠ "script" := wraps.ne_script
        have notDeclaration : tag ≠ "element" := fun same => wraps.plain (by simp [same])
        have sameContext : { context with inHead := context.inHead || "template" = "head" } = context := by
          simp
        dsimp only
        rw [if_pos rfl, host, wraps.tag?_element, ← later]
        dsimp only
        congr 1
        rw [if_neg (by decide), if_neg (by decide), if_neg (by decide), sameContext, readForest, content]
        dsimp only
        rw [readForest, if_neg notScript, if_neg notScript, if_neg notDeclaration,
          if_neg notDeclaration]
        split_ifs
        · exact readLink_relocated found wraps.positions.2 held
        · exact under found
      · have copied := (wraps.others node (inside node (.inl rfl)) here).1
        have held : ∀ name ∉ directiveNames,
            d'.attribute? (ρ node) name = r.document.attribute? node name := fun name _ =>
          Document.attribute?_of_data? copied.data name
        dsimp only
        rw [if_neg here, Document.tag?_of_data? copied.data, ← later]
        congr 1
        cases element : r.document.tag? node with
        | none => rfl
        | some tag =>
            dsimp only
            have linked := fun child => (wellFormed.linked node child).1
            have children_lt := fun child member =>
              Document.lt_size_of_parent? (linked child member)
            split_ifs with isLink isScript isDeclaration
            · exact readLink_relocated found copied.position held
            · exact readScript_relocated found copied.position held
                (wraps.innerText here children_lt (inside node (.inl rfl)))
            · subst isDeclaration
              have read := @readDeclaration_relocated ρ r d' context node (ρ node) found copied.position held rfl
                (wraps.childElements here children_lt linked element)
              rw [read]
              generalize readDeclaration r context node found = outcome
              obtain ⟨declared, owner⟩ := outcome
              cases owner with
              | none => rfl
              | some owner => exact under declared
            · exact under found

/-- Both spellings declare the same. -/
theorem read_wrap (wellFormed : r.document.WellFormed) (wellFormed' : d'.WellFormed) :
    read { r with document := d' } = (read r).relocated ρ := by
  have rooted : Document.root < r.document.size := Nat.lt_of_le_of_lt (Nat.zero_le n) wraps.lt_size
  have inside := (wellFormed.forest_spec rooted).2.2.2
  rw [wellFormed.forest_eq_cons rooted] at inside
  rw [read, read, wraps.below_root wellFormed wellFormed']
  exact readForest_wrap wraps wellFormed _ {} fun m member =>
    inside m (Forest.mem_preorder_tree.2 (.inr member))

end Walk
end ComponentMarkup.Declaration
