import ComponentMarkup.Annotated.Identify

/-!
The parts of an annotation that last: what reading its attributes keeps, what visiting the nodes
below it keeps, and how its identifier goes with its kind.
-/

namespace ComponentMarkup

/-- A kind without what attributes add to it. -/
def AnnotatedKind.outline : AnnotatedKind → AnnotatedKind
  | .element bindings => .element { component := bindings.component }
  | .structural directive bindings content =>
      .structural directive { component := bindings.component } content
  | .text binding => .text binding

/-- A kind without the link to a split-off element, which is set late. -/
def AnnotatedKind.withoutContent : AnnotatedKind → AnnotatedKind
  | .structural directive bindings _ => .structural directive bindings none
  | kind => kind

namespace AnnotatedNode

/-- The part of an annotation that reading its attributes does not change. -/
def outline (a : AnnotatedNode) : AnnotatedNode :=
  { a with hasDataBinding := false, stripped := [], kind := a.kind.outline }

/-- The part of an annotation that visiting the nodes below it does not change. -/
def core (a : AnnotatedNode) : AnnotatedNode :=
  { a with
    children := []
    hasDataBinding := false
    hasQuery := false
    buildsChildren := false
    kind := a.kind.withoutContent }

def directive? (a : AnnotatedNode) : Option Directive :=
  match a.kind with
  | .structural directive _ _ => some directive
  | _ => none

def isText (a : AnnotatedNode) : Bool :=
  match a.kind with
  | .text _ => true
  | _ => false

/-- A text that stands for the value of an expression. -/
def isPlaceholder (a : AnnotatedNode) : Bool :=
  match a.kind with
  | .text (some _) => true
  | _ => false

def hasAttributes (a : AnnotatedNode) : Bool :=
  match a.bindings? with
  | some bindings => !bindings.attributes.isEmpty
  | none => false

def hasHandlers (a : AnnotatedNode) : Bool :=
  match a.bindings? with
  | some bindings => !bindings.handlers.isEmpty
  | none => false

/-- Links a structural annotation to the element that was split off. -/
def withContent (content : Option AnnotatedId) (a : AnnotatedNode) : AnnotatedNode :=
  match a.kind with
  | .structural directive bindings _ => { a with kind := .structural directive bindings content }
  | _ => a

/-- An element or a structural node with a generated identifier. -/
def isNumbered (a : AnnotatedNode) : Bool := a.identifier.isSome && !a.isRoot && !a.isText

/-- Roots have the identifier of roots, other elements and structural nodes one of theirs or none,
and of the texts exactly the placeholders have one. -/
def Labelled (a : AnnotatedNode) : Prop :=
  match a.identifier with
  | none => a.isRoot = false ∧ a.isPlaceholder = false
  | some identifier =>
      if a.isText then
        a.isRoot = false ∧ a.isPlaceholder = true ∧ ∃ n, identifier = textIdentifier n
      else if a.isRoot then identifier = rootIdentifier
      else ∃ n, identifier = elementIdentifier n

/-- Cases on the kind of an annotation, the one field that functions branch on. -/
@[elab_as_elim]
theorem byKind {motive : AnnotatedNode → Prop}
    (element : ∀ (a : AnnotatedNode) bindings, motive { a with kind := .element bindings })
    (structural : ∀ (a : AnnotatedNode) directive bindings content,
      motive { a with kind := .structural directive bindings content })
    (text : ∀ (a : AnnotatedNode) binding, motive { a with kind := .text binding })
    (a : AnnotatedNode) : motive a := by
  have eta (kind : AnnotatedKind) (same : a.kind = kind) : { a with kind } = a := by rw [← same]
  cases same : a.kind with
  | element bindings => exact eta _ same ▸ element a bindings
  | structural directive bindings content =>
      exact eta _ same ▸ structural a directive bindings content
  | text binding => exact eta _ same ▸ text a binding

variable {a a' : AnnotatedNode}

theorem isPlaceholder_of_element (element : a.isText = false) : a.isPlaceholder = false := by
  cases a using byKind with
  | text a binding => cases element
  | _ => rfl

theorem isStructural_eq (a : AnnotatedNode) : a.isStructural = a.directive?.isSome := by
  cases a using byKind <;> rfl

theorem needsIdentifier_eq (a : AnnotatedNode) : a.needsIdentifier =
    (!a.isRoot && (a.hasDataBinding || a.hasQuery || a.isStructural || a.component?.isSome ||
      a.hasAttributes || a.hasHandlers)) := by
  obtain ⟨_, _, _, _, binding, query, root, _, _, kind⟩ := a
  cases kind with
  | element bindings =>
      cases component : bindings.component <;>
        simp [needsIdentifier, isStructural, component?, hasAttributes, hasHandlers, bindings?,
          Bindings.isEmpty, component, Bool.or_assoc]
  | structural directive bindings content =>
      cases component : bindings.component <;>
        simp [needsIdentifier, isStructural, component?, hasAttributes, hasHandlers, bindings?,
          Bindings.isEmpty, component]
  | text expr =>
      simp [needsIdentifier, isStructural, component?, hasAttributes, hasHandlers, bindings?]

/-! ## Cores -/

section Core
variable (same : a'.core = a.core)
include same

theorem source_of_core : a'.source = a.source := by
  change a'.core.source = a.core.source
  rw [same]

theorem parent_of_core : a'.parent = a.parent := by
  change a'.core.parent = a.core.parent
  rw [same]

theorem identifier_of_core : a'.identifier = a.identifier := by
  change a'.core.identifier = a.core.identifier
  rw [same]

theorem isRoot_of_core : a'.isRoot = a.isRoot := by
  change a'.core.isRoot = a.core.isRoot
  rw [same]

theorem stripped_of_core : a'.stripped = a.stripped := by
  change a'.core.stripped = a.core.stripped
  rw [same]

theorem withoutContent_of_core : a'.kind.withoutContent = a.kind.withoutContent := by
  change a'.core.kind = a.core.kind
  rw [same]

end Core

theorem eq_of_core {α : Type} (g : AnnotatedKind → α) (blind : ∀ kind, g kind.withoutContent = g kind)
    (same : a'.core = a.core) : g a'.kind = g a.kind := by
  rw [← blind a'.kind, withoutContent_of_core same, blind]

theorem bindings?_of_core (same : a'.core = a.core) : a'.bindings? = a.bindings? :=
  eq_of_core
    (fun | .element bindings => some bindings | .structural _ bindings _ => some bindings
         | .text _ => none)
    (fun kind => by cases kind <;> rfl) same


theorem directive?_of_core (same : a'.core = a.core) : a'.directive? = a.directive? :=
  eq_of_core (fun | .structural directive _ _ => some directive | _ => none)
    (fun kind => by cases kind <;> rfl) same

theorem isStructural_of_core (same : a'.core = a.core) : a'.isStructural = a.isStructural := by
  rw [isStructural_eq, isStructural_eq, directive?_of_core same]

theorem isText_of_core (same : a'.core = a.core) : a'.isText = a.isText :=
  eq_of_core (fun | .text _ => true | _ => false) (fun kind => by cases kind <;> rfl) same

theorem isPlaceholder_of_core (same : a'.core = a.core) : a'.isPlaceholder = a.isPlaceholder :=
  eq_of_core (fun | .text (some _) => true | _ => false) (fun kind => by cases kind <;> rfl) same

theorem component?_of_core (same : a'.core = a.core) : a'.component? = a.component? := by
  rw [component?, component?, bindings?_of_core same]

theorem hasAttributes_of_core (same : a'.core = a.core) : a'.hasAttributes = a.hasAttributes := by
  rw [hasAttributes, hasAttributes, bindings?_of_core same]

theorem hasHandlers_of_core (same : a'.core = a.core) : a'.hasHandlers = a.hasHandlers := by
  rw [hasHandlers, hasHandlers, bindings?_of_core same]

theorem needsIdentifier_of_core (same : a'.core = a.core)
    (binding : a'.hasDataBinding = a.hasDataBinding) (query : a'.hasQuery = a.hasQuery) :
    a'.needsIdentifier = a.needsIdentifier := by
  rw [needsIdentifier_eq, needsIdentifier_eq, binding, query, isRoot_of_core same,
    isStructural_of_core same, component?_of_core same, hasAttributes_of_core same,
    hasHandlers_of_core same]

theorem isNumbered_of_core (same : a'.core = a.core) : a'.isNumbered = a.isNumbered := by
  rw [isNumbered, isNumbered, identifier_of_core same, isRoot_of_core same, isText_of_core same]

theorem Labelled.of_core (labelled : a.Labelled) (same : a'.core = a.core) : a'.Labelled := by
  simpa only [Labelled, identifier_of_core same, isRoot_of_core same, isText_of_core same,
    isPlaceholder_of_core same] using labelled

theorem Labelled.isRoot_of_isText (labelled : a.Labelled) (text : a.isText = true) :
    a.isRoot = false := by
  rw [Labelled] at labelled
  cases label : a.identifier with
  | none =>
      rw [label] at labelled
      exact labelled.1
  | some identifier =>
      rw [label, text] at labelled
      exact labelled.1

/-! ## Outlines -/

theorem isText_outline : a.outline.isText = a.isText := by
  cases a using byKind <;> rfl

theorem directive?_outline : a.outline.directive? = a.directive? := by
  cases a using byKind <;> rfl

/-- What reading attributes may do to an annotation. -/
structure Revision (g : AnnotatedNode → AnnotatedNode) : Prop where
  outline : ∀ a, (g a).outline = a.outline
  bound : ∀ a, a.isText = false → (a.hasDataBinding = a.hasAttributes) →
    (g a).hasDataBinding = (g a).hasAttributes

namespace Revision
variable {g h : AnnotatedNode → AnnotatedNode}

protected theorem id : Revision id := ⟨fun _ => rfl, fun _ _ bound => bound⟩

theorem isText (revision : Revision g) (a : AnnotatedNode) : (g a).isText = a.isText := by
  rw [← isText_outline, revision.outline, isText_outline]

theorem directive? (revision : Revision g) (a : AnnotatedNode) :
    (g a).directive? = a.directive? := by
  rw [← directive?_outline, revision.outline, directive?_outline]

theorem comp (later : Revision h) (earlier : Revision g) : Revision (h ∘ g) where
  outline a := (later.outline (g a)).trans (earlier.outline a)
  bound a shown bound :=
    later.bound (g a) ((earlier.isText a).trans shown) (earlier.bound a shown bound)

theorem strip (name : String) : Revision (·.strip name) where
  outline _ := rfl
  bound _ _ bound := bound

theorem bind (name : String) (binding : Binding.Attribute) :
    Revision fun a => { a with hasDataBinding := true }.mapBindings fun b =>
      { b with attributes := b.attributes.insert name binding } where
  outline a := by
    cases a using byKind <;> rfl
  bound a shown _ := by
    have nonempty (entries : List (String × Binding.Attribute)) :
        (OrderedMap.write name binding entries).isEmpty = false := by
      cases entries with
      | nil => rfl
      | cons entry rest =>
          rw [OrderedMap.write]
          split <;> rfl
    cases a using byKind with
    | element a bindings =>
        simp [mapBindings, hasAttributes, bindings?, OrderedMap.isEmpty, OrderedMap.insert, nonempty]
    | structural a directive bindings content =>
        simp [mapBindings, hasAttributes, bindings?, OrderedMap.isEmpty, OrderedMap.insert, nonempty]
    | text a expr => cases shown

theorem handle (event : String) (action : Binding.Action) :
    Revision (·.mapBindings (·.addHandler event action)) where
  outline a := by
    cases a using byKind <;> rfl
  bound a _ bound := by
    cases a using byKind <;> exact bound

end Revision
end AnnotatedNode
end ComponentMarkup
