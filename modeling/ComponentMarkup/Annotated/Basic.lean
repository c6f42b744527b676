import ComponentMarkup.Binding.Attribute
import ComponentMarkup.Component

/-!
What generated code has to know about a node of a document.
-/

namespace ComponentMarkup

abbrev AnnotatedId := Nat

/-- When and how often the children of a node are built. -/
inductive Directive where
  | conditional (condition : String)
  | iteration (variableName items : String)
deriving DecidableEq, Repr

/-- The attributes and events of an element that are bound, and the component it stands for. -/
structure Bindings where
  attributes : OrderedMap String Binding.Attribute := {}
  handlers : OrderedMap String (List Binding.Handler) := {}
  component : Option ComponentId := none

namespace Bindings

/-- Adds a handler behind the others of its event. -/
def addHandler (b : Bindings) (event : String) (action : Binding.Action) : Bindings :=
  let others := (b.handlers.find? event).getD []
  { b with handlers := b.handlers.insert event (others ++ [{ event, action }]) }

def isEmpty (b : Bindings) : Bool :=
  b.component.isNone && b.attributes.isEmpty && b.handlers.isEmpty

end Bindings

inductive AnnotatedKind where
  | element (bindings : Bindings)
  /-- `content` is the element split off a host that plays the part of a template. -/
  | structural (directive : Directive) (bindings : Bindings) (content : Option AnnotatedId)
  | text (binding : Option Binding.Expr)

structure AnnotatedNode where
  /-- The annotated node of the document. -/
  source : NodeId
  parent : Option AnnotatedId
  children : List AnnotatedId := []
  identifier : Option String := none
  hasDataBinding : Bool := false
  /-- Whether generated code has to look up nodes below this one by query. -/
  hasQuery : Bool := false
  isRoot : Bool := false
  /-- Whether generated code builds the children, so that the static markup lacks them. -/
  buildsChildren : Bool := false
  /-- Attributes that the static markup leaves out. -/
  stripped : List String := []
  kind : AnnotatedKind

namespace AnnotatedNode

def bindings? (a : AnnotatedNode) : Option Bindings :=
  match a.kind with
  | .element bindings => some bindings
  | .structural _ bindings _ => some bindings
  | .text _ => none

def isStructural (a : AnnotatedNode) : Bool :=
  match a.kind with
  | .structural .. => true
  | _ => false

def component? (a : AnnotatedNode) : Option ComponentId := a.bindings?.bind Bindings.component

/-- Changes the bindings of an element or structural node. -/
def mapBindings (a : AnnotatedNode) (f : Bindings → Bindings) : AnnotatedNode :=
  match a.kind with
  | .element bindings => { a with kind := .element (f bindings) }
  | .structural directive bindings content =>
      { a with kind := .structural directive (f bindings) content }
  | .text _ => a

def strip (a : AnnotatedNode) (name : String) : AnnotatedNode :=
  { a with stripped := addNew a.stripped name }

end AnnotatedNode
end ComponentMarkup
