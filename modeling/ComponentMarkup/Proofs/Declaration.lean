import ComponentMarkup.Declaration

/-!
Components as they are declared: no base, no flag and nothing used yet, and a template that the
declaring element has as a child.
-/

namespace ComponentMarkup.Declaration

/-- A component without what its scripts say. -/
def uncoded (c : Component) : Component := { c with code := none, external := none }

/-- The component that the declaration at a node stands for. -/
def Reading.declaration (r : Reading) (node : NodeId) : Component :=
  let extended := trimmedAttribute r.document node "extends"
  { tag := Text.lowered (trimmedAttribute r.document node "name")
    extendsTag := if extended.isEmpty then "span" else Text.lowered extended
    file := r.path
    element := node
    template := (r.document.childElements node "template").head?
    position := r.document.position node }

/-- A component is what an `element` of the document declares. -/
structure Declares (r : Reading) (c : Component) : Prop where
  declaration : uncoded c = r.declaration c.element
  tag : r.document.tag? c.element = some "element"

namespace Declares
variable {r : Reading} {c : Component} (declares : Declares r c)
include declares

theorem hasConflict : c.hasConflict = false := congrArg Component.hasConflict declares.declaration

theorem base : c.base = none := congrArg Component.base declares.declaration

theorem file : c.file = r.path := congrArg Component.file declares.declaration

theorem template : c.template = (r.document.childElements c.element "template").head? :=
  congrArg Component.template declares.declaration

end Declares

@[simp] theorem Reading.element_declaration (r : Reading) (node : NodeId) :
    (r.declaration node).element = node := rfl

theorem declares_declaration {r : Reading} {node : NodeId}
    (tag : r.document.tag? node = some "element") : Declares r (r.declaration node) := by
  constructor
  · rw [Reading.element_declaration]
    simp only [uncoded, Reading.declaration]
  · exact tag

/-- All components found so far are declared by elements. -/
def Findings.Declared (r : Reading) (f : Findings) : Prop := ∀ c ∈ f.components, Declares r c

variable {f : Findings} (r : Reading)

namespace Findings.Declared
variable {r}

theorem of_components {g : Findings} (declared : f.Declared r)
    (same : g.components = f.components) : g.Declared r := by
  rwa [Declared, same]

theorem report (declared : f.Declared r) (problem : Problem) (node : NodeId) :
    (f.report r problem node).Declared r :=
  declared.of_components rfl

theorem append (declared : f.Declared r) {c : Component} (declares : Declares r c) :
    Declared r { f with components := f.components ++ [c] } := by
  intro other member
  rcases List.mem_append.1 member with old | new
  · exact declared other old
  · rw [List.mem_singleton.1 new]
    exact declares

theorem modify (declared : f.Declared r) (index : Nat) {g : Component → Component}
    (same : ∀ c, uncoded (g c) = uncoded c) :
    Declared r { f with components := f.components.modify index g } := by
  intro c member
  obtain ⟨n, found⟩ := List.mem_iff_getElem?.1 member
  rw [List.getElem?_modify] at found
  obtain ⟨old, there, rfl⟩ := Option.map_eq_some_iff.1 found
  have before := declared old (List.mem_of_getElem? there)
  split
  · have element : (uncoded (g old)).element = (uncoded old).element := by rw [same]
    change (g old).element = old.element at element
    constructor
    · rw [same, element]
      exact before.declaration
    · rw [element]
      exact before.tag
  · exact before

theorem setCode (declared : f.Declared r) (unit : CodeUnit) (owner : Owner) :
    (f.setCode unit owner).Declared r := by
  cases owner with
  | file => exact declared
  | component index => exact declared.modify index fun _ => rfl

theorem setExternal (declared : f.Declared r) (target : Option Path) (owner : Owner) :
    (f.setExternal target owner).Declared r := by
  cases owner with
  | file => exact declared
  | component index => exact declared.modify index fun _ => rfl

end Findings.Declared

variable (context : Context) (node : NodeId)

theorem declared_readLink (declared : f.Declared r) : (readLink r context node f).Declared r := by
  unfold readLink
  dsimp only
  split
  · exact declared
  · split
    · exact declared.report _ node
    · split
      · exact declared.report _ node
      · split
        · exact declared
        · split <;> exact declared.of_components rfl

theorem declared_readDeclaration (declared : f.Declared r)
    (tag : r.document.tag? node = some "element") :
    (readDeclaration r context node f).1.Declared r := by
  unfold readDeclaration
  split
  · exact declared.report _ node
  · dsimp only
    split
    · exact declared.report _ node
    · split
      · exact declared.append (declares_declaration tag)
      · exact (declared.report _ node).append (declares_declaration tag)

theorem declared_readExternal (declared : f.Declared r) (source : String) :
    (readExternal r context node source f).Declared r := by
  unfold readExternal
  split
  · exact declared.report _ node
  · have checked : Findings.Declared r
        (if Text.blankOnly (r.document.innerText node) then f
          else f.report r .sourceAndText node) := by
      split
      · exact declared
      · exact declared.report _ node
    dsimp only
    generalize (if Text.blankOnly (r.document.innerText node) then f
      else f.report r .sourceAndText node) = f at checked ⊢
    split
    · exact checked.report _ node
    · exact checked.setExternal _ _

theorem declared_readInline (declared : f.Declared r) :
    (readInline r context node f).Declared r := by
  unfold readInline
  split
  · exact declared.report _ node
  · split
    · exact declared.report _ node
    · dsimp only
      refine Findings.Declared.setCode ?_ _ _
      split
      · exact declared.of_components rfl
      · exact declared.of_components rfl

theorem declared_readScript (declared : f.Declared r) :
    (readScript r context node f).Declared r := by
  unfold readScript
  dsimp only
  split
  · have either (looksManaged : Bool) : Findings.Declared r
        (if looksManaged then f.report r .untypedScript node else f) := by
      cases looksManaged with
      | false => exact declared
      | true => exact declared.report _ node
    exact either _
  · split
    · exact declared
    · split
      · exact declared_readExternal r context node declared _
      · exact declared_readInline r context node declared

theorem declared_readForest (forest : Forest) (declared : f.Declared r) :
    (readForest r forest context f).Declared r := by
  induction forest generalizing context f with
  | nil => exact declared
  | cons node children rest ihChildren ihRest =>
      rw [readForest]
      refine ihRest _ ?_
      split
      · exact declared
      · next tag found =>
        split
        · exact declared_readLink r context node declared
        · split
          · exact declared_readScript r context node declared
          · split
            · next element =>
              have declared := declared_readDeclaration r context node declared (element ▸ found)
              generalize readDeclaration r context node f = outcome at declared
              obtain ⟨f, owner⟩ := outcome
              cases owner with
              | none => exact declared
              | some owner => exact ihChildren _ declared
            · exact ihChildren _ declared

/-- Every component is what an element of the document declares. -/
theorem declared_read : (read r).Declared r := by
  refine declared_readForest r {} _ fun c found => ?_
  cases found

end ComponentMarkup.Declaration
