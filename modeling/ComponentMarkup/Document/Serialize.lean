import ComponentMarkup.Document.Forest
import ComponentMarkup.Tag
import ComponentMarkup.Text.Escape

/-!
Documents written as markup.
-/

namespace ComponentMarkup.Document

def attributeText (name value : String) : String :=
  " " ++ name ++ "=\"" ++ Text.escapedAttribute value ++ "\""

def tagText (tag : String) (attributes : List (String × String)) : String :=
  "<" ++ tag ++ String.join (attributes.map fun (name, value) => attributeText name value) ++ ">"

/-- The start tag of an element, with the attributes that `keep` accepts. -/
def startTagWith (d : Document) (keep : NodeId → String → Bool) (id : NodeId) : String :=
  match d.data? id with
  | some (.element tag attributes) =>
      tagText tag (attributes.entries.filter fun (name, _) => keep id name)
  | _ => ""

def startTag (d : Document) (id : NodeId) : String := d.startTagWith (fun _ _ => true) id

/-- Scripts and styles hold their text unescaped. -/
def holdsRawText (d : Document) (id : NodeId) : Bool :=
  d.isElement id "script" || d.isElement id "style"

def inRawText (d : Document) (id : NodeId) : Bool :=
  match d.parent? id with
  | some parent => d.holdsRawText parent
  | none => false

def writeForest (d : Document) (keep : NodeId → String → Bool) : Forest → String
  | .nil => ""
  | .cons id children rest =>
      let own :=
        match d.data? id with
        | none => ""
        | some .document => d.writeForest keep children
        | some (.doctype name) => "<!DOCTYPE " ++ name ++ ">"
        | some (.text contents) => if d.inRawText id then contents else Text.escapedText contents
        | some (.comment contents) => "<!--" ++ contents ++ "-->"
        | some (.element tag _) =>
            if Tag.isVoid tag then d.startTagWith keep id
            else d.startTagWith keep id ++ d.writeForest keep children ++ "</" ++ tag ++ ">"
      own ++ d.writeForest keep rest

/-- A node and all below it, with the attributes that `keep` accepts. -/
def markupWith (d : Document) (keep : NodeId → String → Bool) (id : NodeId) : String :=
  d.writeForest keep (d.forest id)

def markup (d : Document) (id : NodeId) : String := d.markupWith (fun _ _ => true) id

end ComponentMarkup.Document
