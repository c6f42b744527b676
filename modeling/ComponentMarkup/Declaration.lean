import ComponentMarkup.Path.Resolve
import ComponentMarkup.Script.Unit
import ComponentMarkup.SourceFile

/-!
What a document declares on its own: components, links to other files, and the scripts of the file
and of each declaration. Each place has one script, the first that qualifies.
-/

namespace ComponentMarkup.Declaration

/-- The document being read. -/
structure Reading where
  path : Path
  isEntry : Bool
  document : Document
  packageRoot : Path

/-- Whose script is read: the file's, or that of the declaration with this number. -/
inductive Owner where
  | file
  | component (index : Nat)
deriving DecidableEq, Repr

structure Context where
  owner : Owner := .file
  inHead : Bool := false

/-- What has been found so far, components in document order. -/
structure Findings where
  components : List Component := []
  componentLinks : List Path := []
  stylesheetLinks : List Path := []
  code : Option CodeUnit := none
  external : Option Path := none
  reports : Diagnostics := []

namespace Findings

def report (f : Findings) (r : Reading) (problem : Problem) (node : NodeId) : Findings :=
  { f with reports := f.reports ++ [⟨problem, r.path, r.document.position node⟩] }

def hasScript (f : Findings) : Owner → Bool
  | .file => f.code.isSome || f.external.isSome
  | .component index =>
      match f.components[index]? with
      | some c => c.code.isSome || c.external.isSome
      | none => false

def setCode (f : Findings) (unit : CodeUnit) : Owner → Findings
  | .file => { f with code := some unit }
  | .component index =>
      { f with components := f.components.modify index fun c => { c with code := some unit } }

def setExternal (f : Findings) (target : Option Path) : Owner → Findings
  | .file => { f with external := target }
  | .component index =>
      { f with components := f.components.modify index fun c => { c with external := target } }

end Findings

/-- The value of an attribute without blanks around it, empty when there is none. -/
def trimmedAttribute (d : Document) (node : NodeId) (name : String) : String :=
  Text.trimmed ((d.attribute? node name).getD "")

/-! ## Links -/

def readLink (r : Reading) (context : Context) (node : NodeId) (f : Findings) : Findings :=
  let rel := trimmedAttribute r.document node "rel"
  if rel != "components" && rel != "stylesheet" then f
  else if !context.inHead then f.report r (.linkOutsideHead rel) node
  else
    let href := trimmedAttribute r.document node "href"
    if href.isEmpty then f.report r (.linkWithoutTarget rel) node
    else
      match resolve r.packageRoot href r.path with
      | none => f
      | some target =>
          if rel == "components" then { f with componentLinks := addNew f.componentLinks target }
          else { f with stylesheetLinks := addNew f.stylesheetLinks target }

/-! ## Components -/

/-- Reads a declaration, and gives the owner of what is inside it; none leaves the inside unread. -/
def readDeclaration (r : Reading) (context : Context) (node : NodeId) (f : Findings) :
    Findings × Option Owner :=
  match context.owner with
  | .component _ => (f.report r .nestedDeclaration node, some context.owner)
  | .file =>
      let name := trimmedAttribute r.document node "name"
      if name.isEmpty then (f.report r .namelessDeclaration node, none)
      else
        let extended := trimmedAttribute r.document node "extends"
        let templates := r.document.childElements node "template"
        let f :=
          if templates.length = 1 then f
          else f.report r (.templateCount name templates.length) node
        let component : Component :=
          { tag := Text.lowered name
            extendsTag := if extended.isEmpty then "span" else Text.lowered extended
            file := r.path
            element := node
            template := templates.head?
            position := r.document.position node }
        ({ f with components := f.components ++ [component] },
          some (.component f.components.length))

/-! ## Scripts -/

def secondScript (r : Reading) : Owner → Problem
  | .file => .secondScriptInFile r.path.text
  | .component _ => .secondScriptInDeclaration

/-- A script of another file, to be attached once that file is known. -/
def readExternal (r : Reading) (context : Context) (node : NodeId) (source : String)
    (f : Findings) : Findings :=
  if !(Path.mk source).isScript then f.report r (.notAScript source) node
  else
    let f :=
      if Text.blankOnly (r.document.innerText node) then f else f.report r .sourceAndText node
    if f.hasScript context.owner then f.report r (secondScript r context.owner) node
    else f.setExternal (resolve r.packageRoot source r.path) context.owner

def readInline (r : Reading) (context : Context) (node : NodeId) (f : Findings) : Findings :=
  if context.owner = .file && !r.isEntry then f.report r .scriptOutsideEntry node
  else if f.hasScript context.owner then f.report r (secondScript r context.owner) node
  else
    let (unit, reports) :=
      CodeUnit.read r.path (r.document.innerText node) (r.document.position node)
    let f := { f with reports := f.reports ++ reports }
    let f := if unit.isLibrary then f else f.report r .inlinePart node
    f.setCode unit context.owner

/-- Only scripts of type `module` are managed; an untyped one that looks meant to be draws a
warning. -/
def readScript (r : Reading) (context : Context) (node : NodeId) (f : Findings) : Findings :=
  let source := (r.document.attribute? node "src").map Text.trimmed
  match (r.document.attribute? node "type").map Text.trimmed with
  | none =>
      let looksManaged : Bool := match source with
        | some source => (Path.mk source).isScript
        | none => context.owner != .file
      if looksManaged then f.report r .untypedScript node else f
  | some type =>
      if type != "module" then f
      else
        match source with
        | some source => readExternal r context node source f
        | none => readInline r context node f

/-! ## The walk -/

def readForest (r : Reading) : Forest → Context → Findings → Findings
  | .nil, _, f => f
  | .cons node children rest, context, f =>
      let f :=
        match r.document.tag? node with
        | none => f
        | some tag =>
            if tag = "link" then readLink r context node f
            else if tag = "script" then readScript r context node f
            else if tag = "element" then
              match readDeclaration r context node f with
              | (f, none) => f
              | (f, some owner) => readForest r children { context with owner } f
            else readForest r children { context with inHead := context.inHead || tag = "head" } f
      readForest r rest context f

def read (r : Reading) : Findings := readForest r (r.document.below Document.root) {} {}

end ComponentMarkup.Declaration
