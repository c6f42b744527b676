import ComponentMarkup.Document.Serialize
import ComponentMarkup.SourceFile

/-!
The static markup of an annotated file: its `<body>` without the attributes that generated code
takes care of.
-/

namespace ComponentMarkup

/-- Whether an attribute of a node is left out; the latest annotation of the node that leaves out
anything decides. -/
def AnnotatedTree.strips (t : AnnotatedTree) (node : NodeId) (name : String) : Bool :=
  match t.nodes.toList.reverse.find? fun a => a.source == node && !a.stripped.isEmpty with
  | some a => a.stripped.contains name
  | none => false

def SourceFile.staticMarkup (file : SourceFile) : String :=
  match file.document.findElement? "body" with
  | some body => file.document.markupWith (fun node name => !file.annotations.strips node name) body
  | none => ""

end ComponentMarkup
