import ComponentMarkup.Ordered
import ComponentMarkup.Position
import ComponentMarkup.Text.Casing

/-!
Source documents as stores of numbered nodes. A node knows its parent and its children in order;
node `0` is the root. An operation on a number that names no node changes nothing.
-/

namespace ComponentMarkup

abbrev NodeId := Nat

/-- Attributes in the order in which they were first written. -/
abbrev Attributes := OrderedMap String String

inductive NodeData where
  | document
  | doctype (name : String)
  | element (tag : String) (attributes : Attributes)
  | text (contents : String)
  | comment (contents : String)
deriving Inhabited

structure Node where
  parent : Option NodeId := none
  children : List NodeId := []
  data : NodeData
  position : Position := {}
deriving Inhabited

structure Document where
  nodes : Array Node

namespace Document

def root : NodeId := 0

/-- The document that holds its root alone. -/
def empty : Document := ⟨#[{ data := .document }]⟩

instance : Inhabited Document := ⟨empty⟩

/-! ## Questions -/

def node? (d : Document) (id : NodeId) : Option Node := d.nodes[id]?

def size (d : Document) : Nat := d.nodes.size

def data? (d : Document) (id : NodeId) : Option NodeData := (d.node? id).map Node.data

def parent? (d : Document) (id : NodeId) : Option NodeId := (d.node? id).bind Node.parent

def children (d : Document) (id : NodeId) : List NodeId :=
  match d.node? id with
  | some node => node.children
  | none => []

def position (d : Document) (id : NodeId) : Position :=
  match d.node? id with
  | some node => node.position
  | none => {}

def isEmpty (d : Document) : Bool := (d.children root).isEmpty

def tag? (d : Document) (id : NodeId) : Option String :=
  match d.data? id with
  | some (.element tag _) => some tag
  | _ => none

def isElement (d : Document) (id : NodeId) (tag : String) : Bool := d.tag? id == some tag

def attributes? (d : Document) (id : NodeId) : Option Attributes :=
  match d.data? id with
  | some (.element _ attributes) => some attributes
  | _ => none

def attribute? (d : Document) (id : NodeId) (name : String) : Option String :=
  (d.attributes? id).bind (·.find? name)

def hasAttribute (d : Document) (id : NodeId) (name : String) : Bool :=
  (d.attribute? id name).isSome

def text? (d : Document) (id : NodeId) : Option String :=
  match d.data? id with
  | some (.text contents) => some contents
  | _ => none

/-- The text children of a node, run together. -/
def innerText (d : Document) (id : NodeId) : String :=
  String.join ((d.children id).filterMap d.text?)

def childElements (d : Document) (id : NodeId) (tag : String) : List NodeId :=
  (d.children id).filter (d.isElement · tag)

/-! ## Changes -/

def update (d : Document) (id : NodeId) (f : Node → Node) : Document := ⟨d.nodes.modify id f⟩

/-- Adds a node without parent or children and gives its number. -/
def add (d : Document) (data : NodeData) (position : Position) : NodeId × Document :=
  (d.nodes.size, ⟨d.nodes.push { data, position }⟩)

/-- Tags are kept in ASCII lower case. -/
def createElement (d : Document) (tag : String) (position : Position) : NodeId × Document :=
  d.add (.element (Text.lowered tag) {}) position

def createText (d : Document) (contents : String) (position : Position) : NodeId × Document :=
  d.add (.text contents) position

/-- Adds a node with the data and position of another, and none of its relations. -/
def clone (d : Document) (id : NodeId) : NodeId × Document :=
  match d.node? id with
  | some node => d.add node.data node.position
  | none => d.add .document {}

/-- Takes a node out of its parent's children. -/
def detach (d : Document) (id : NodeId) : Document :=
  match d.parent? id with
  | none => d
  | some parent =>
      (d.update id fun node => { node with parent := none }).update parent fun node =>
        { node with children := node.children.filter (· != id) }

/-- Puts `child` under `parent`, behind the children that are there. -/
def place (d : Document) (parent child : NodeId) : Document :=
  (d.update child fun node => { node with parent := some parent }).update parent fun node =>
    { node with children := node.children ++ [child] }

/-- Moves `child` from wherever it is to the end of `parent`. -/
def append (d : Document) (parent child : NodeId) : Document := (d.detach child).place parent child

/-- Moves the children of `source` to the end of `target`, in order. -/
def moveChildren (d : Document) (source target : NodeId) : Document :=
  (d.children source).foldl (·.place target ·)
    (d.update source fun node => { node with children := [] })

def mapAttributes (d : Document) (id : NodeId) (f : Attributes → Attributes) : Document :=
  d.update id fun node =>
    match node.data with
    | .element tag attributes => { node with data := .element tag (f attributes) }
    | _ => node

def setAttribute (d : Document) (id : NodeId) (name value : String) : Document :=
  d.mapAttributes id (·.insert name value)

def removeAttribute (d : Document) (id : NodeId) (name : String) : Document :=
  d.mapAttributes id (·.erase name)

def clearAttributes (d : Document) (id : NodeId) : Document := d.mapAttributes id fun _ => {}

def setText (d : Document) (id : NodeId) (contents : String) : Document :=
  d.update id fun node =>
    match node.data with
    | .text _ => { node with data := .text contents }
    | _ => node

end Document
end ComponentMarkup
