import ComponentMarkup.CodeUnit
import ComponentMarkup.Document.Basic

/-!
Components, in the table that all files of a workspace share.
-/

namespace ComponentMarkup

abbrev ComponentId := Nat

structure Component where
  tag : String
  extendsTag : String
  file : Path
  /-- The declaring node in the document of `file`. -/
  element : NodeId
  template : Option NodeId
  position : Position
  base : Option ComponentId := none
  hasConflict : Bool := false
  code : Option CodeUnit := none
  /-- A script file that is to supply the code. -/
  external : Option Path := none
  /-- The components used inside the declaration, in order of first use. -/
  used : List ComponentId := []

/-- Components are numbered in the order in which they were declared. -/
structure ComponentTable where
  components : Array Component := #[]

namespace ComponentTable

def size (t : ComponentTable) : Nat := t.components.size

def get? (t : ComponentTable) (id : ComponentId) : Option Component := t.components[id]?

def add (t : ComponentTable) (c : Component) : ComponentId × ComponentTable :=
  (t.components.size, ⟨t.components.push c⟩)

def update (t : ComponentTable) (id : ComponentId) (f : Component → Component) : ComponentTable :=
  ⟨t.components.modify id f⟩

def tag (t : ComponentTable) (id : ComponentId) : String :=
  match t.get? id with
  | some c => c.tag
  | none => ""

def hasConflict (t : ComponentTable) (id : ComponentId) : Bool :=
  match t.get? id with
  | some c => c.hasConflict
  | none => false

end ComponentTable
end ComponentMarkup
