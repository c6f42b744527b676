import ComponentMarkup.Annotated.Basic
import ComponentMarkup.Document.Forest

/-!
The tree of annotations of one file. Annotations are numbered as they are made, each after its
parent.
-/

namespace ComponentMarkup

structure AnnotatedTree where
  nodes : Array AnnotatedNode := #[]
  root : Option AnnotatedId := none

namespace AnnotatedTree

def get? (t : AnnotatedTree) (id : AnnotatedId) : Option AnnotatedNode := t.nodes[id]?

def update (t : AnnotatedTree) (id : AnnotatedId) (f : AnnotatedNode → AnnotatedNode) :
    AnnotatedTree :=
  { t with nodes := t.nodes.modify id f }

/-- Adds an annotation behind the children of `parent`. The first one without a parent becomes the
root. -/
def add (t : AnnotatedTree) (source : NodeId) (parent : Option AnnotatedId)
    (kind : AnnotatedKind) : AnnotatedId × AnnotatedTree :=
  let id := t.nodes.size
  let grown := { t with nodes := t.nodes.push { source, parent, kind } }
  match parent with
  | some parent => (id, grown.update parent fun a => { a with children := a.children ++ [id] })
  | none => (id, { grown with root := t.root <|> some id })

def parent? (t : AnnotatedTree) (id : AnnotatedId) : Option AnnotatedId :=
  (t.get? id).bind AnnotatedNode.parent

def children (t : AnnotatedTree) (id : AnnotatedId) : List AnnotatedId :=
  match t.get? id with
  | some a => a.children
  | none => []

def buildsChildren (t : AnnotatedTree) (id : AnnotatedId) : Bool :=
  match t.get? id with
  | some a => a.buildsChildren
  | none => false

/-- A node is built by generated code when its parent builds its children. -/
def isBuilt (t : AnnotatedTree) (id : AnnotatedId) : Bool :=
  match t.parent? id with
  | some parent => t.buildsChildren parent
  | none => false

/-- The parent, its parent and so on; each was made before the one below it. -/
def ancestors (t : AnnotatedTree) (id : AnnotatedId) : List AnnotatedId :=
  match t.parent? id with
  | none => []
  | some parent => if parent < id then parent :: t.ancestors parent else []
termination_by id

def forestTo (t : AnnotatedTree) : Nat → List AnnotatedId → Forest
  | 0, _ => .nil
  | depth + 1, ids =>
      ids.foldr (fun id rest => .cons id (t.forestTo depth (t.children id)) rest) .nil

/-- The annotations that hang together with the root. -/
def forest (t : AnnotatedTree) : Forest := t.forestTo t.nodes.size t.root.toList

/-- Every annotation below the root before its children and they before its siblings. -/
def walk (t : AnnotatedTree) : List AnnotatedId := t.forest.preorder

end AnnotatedTree
end ComponentMarkup
