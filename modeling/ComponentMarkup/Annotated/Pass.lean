import ComponentMarkup.Diagnostic
import ComponentMarkup.SourceFile

/-!
The state of a pass over one file, and the single changes it is made of.
-/

namespace ComponentMarkup

structure Pass where
  file : SourceFile
  components : ComponentTable
  /-- The next number for a generated identifier. -/
  counter : UInt64
  reports : Diagnostics := []

/-- What a node inherits from those above it. -/
structure Surroundings where
  /-- The component whose declaration encloses the node. -/
  owner : Option ComponentId := none
  parent : Option AnnotatedId := none
  keepBlanks : Bool

namespace Pass

def document (s : Pass) : Document := s.file.document

def annotations (s : Pass) : AnnotatedTree := s.file.annotations

def mapDocument (s : Pass) (f : Document → Document) : Pass :=
  { s with file := { s.file with document := f s.file.document } }

def report (s : Pass) (problem : Problem) (node : NodeId) : Pass :=
  { s with reports := s.reports ++ [⟨problem, s.file.path, s.document.position node⟩] }

def update (s : Pass) (id : AnnotatedId) (f : AnnotatedNode → AnnotatedNode) : Pass :=
  { s with file := { s.file with annotations := s.file.annotations.update id f } }

def annotate (s : Pass) (source : NodeId) (parent : Option AnnotatedId) (kind : AnnotatedKind) :
    AnnotatedId × Pass :=
  let (id, annotations) := s.file.annotations.add source parent kind
  (id, { s with file := { s.file with annotations } })

def strip (s : Pass) (id : AnnotatedId) (name : String) : Pass := s.update id (·.strip name)

def mapBindings (s : Pass) (id : AnnotatedId) (f : Bindings → Bindings) : Pass :=
  s.update id (·.mapBindings f)

/-- Stores the binding of an attribute or property, replacing an earlier one of that name. -/
def bind (s : Pass) (id : AnnotatedId) (name : String) (binding : Binding.Attribute) : Pass :=
  s.update id fun a =>
    { a with hasDataBinding := true }.mapBindings fun b =>
      { b with attributes := b.attributes.insert name binding }

def handle (s : Pass) (id : AnnotatedId) (event : String) (action : Binding.Action) : Pass :=
  s.mapBindings id (·.addHandler event action)

/-- Takes the next number; after the largest one the count starts again. -/
def draw (s : Pass) : UInt64 × Pass := (s.counter, { s with counter := s.counter + 1 })

/-- Adds a text node that no node of the document holds. -/
def addText (s : Pass) (contents : String) (position : Position) : NodeId × Pass :=
  let (node, document) := s.file.document.createText contents position
  (node, { s with file := { s.file with document } })

def component? (s : Pass) (id : AnnotatedId) : Option ComponentId :=
  (s.annotations.get? id).bind AnnotatedNode.component?

def isStripped (s : Pass) (id : AnnotatedId) (name : String) : Bool :=
  match s.annotations.get? id with
  | some a => a.stripped.contains name
  | none => false

def hasBinding (s : Pass) (id : AnnotatedId) (name : String) : Bool :=
  match (s.annotations.get? id).bind AnnotatedNode.bindings? with
  | some bindings => bindings.attributes.contains name
  | none => false

end Pass
end ComponentMarkup
