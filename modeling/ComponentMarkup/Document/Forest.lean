import ComponentMarkup.Document.Basic

/-!
Subtrees of a document as finite trees of node numbers, to be walked by recursion.
-/

namespace ComponentMarkup

/-- Siblings in order: the first with the forest below it, and the rest. -/
inductive Forest where
  | nil
  | cons (node : NodeId) (children rest : Forest)
deriving Inhabited

namespace Forest

/-- Every node before those below it, and those before its later siblings. -/
def preorder : Forest → List NodeId
  | nil => []
  | cons node children rest => node :: (children.preorder ++ rest.preorder)

/-- The nodes at the top. -/
def tops : Forest → List NodeId
  | nil => []
  | cons node _ rest => node :: rest.tops

end Forest

namespace Document

/-- The nodes `ids` and what lies below them, down to `depth` levels. -/
def forestTo (d : Document) : Nat → List NodeId → Forest
  | 0, _ => .nil
  | depth + 1, ids =>
      ids.foldr (fun id rest => .cons id (d.forestTo depth (d.children id)) rest) .nil

/-- A node and everything below it. No chain of children in a tree is longer than the document has
nodes. -/
def forest (d : Document) (id : NodeId) : Forest := d.forestTo d.size [id]

/-- Everything below a node. -/
def below (d : Document) (id : NodeId) : Forest := d.forestTo d.size (d.children id)

/-- The first element with the tag, in document order. -/
def findElement? (d : Document) (tag : String) : Option NodeId :=
  (d.forest root).preorder.find? (d.isElement · tag)

end Document
end ComponentMarkup
