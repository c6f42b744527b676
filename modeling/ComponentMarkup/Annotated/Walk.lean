import ComponentMarkup.Annotated.Attributes
import ComponentMarkup.Annotated.Plan
import ComponentMarkup.Annotated.Text

/-!
The pass: from `<body>` down, every element and text that is shown gets an annotation,
and identifiers are given out on the way back up.
-/

namespace ComponentMarkup
namespace Pass

/-! ## Components -/

/-- The name under which an element looks for its component: its tag if that is in scope, else
what its `is` attribute says, else its tag. -/
def componentName (s : Pass) (node : NodeId) (tag : String) : String :=
  if s.file.scope.contains tag then tag
  else
    match s.document.attribute? node "is" with
    | some name => Text.lowered (Text.trimmed name)
    | none => tag

/-- Counts a component as used by the declaration around it, or by the file. -/
def use (s : Pass) (owner : Option ComponentId) (component : ComponentId) : Pass :=
  match owner with
  | some owner =>
      { s with
        components :=
          s.components.update owner fun c => { c with used := addNew c.used component } }
  | none => { s with file := { s.file with used := addNew s.file.used component } }

def bindComponent (s : Pass) (id : AnnotatedId) (node : NodeId) (tag : String)
    (owner : Option ComponentId) : Pass :=
  let name := s.componentName node tag
  match s.file.scope.find? name with
  | some component =>
      if s.components.hasConflict component then s
      else (s.mapBindings id fun b => { b with component := some component }).use owner component
  | none => if Tag.isCustom name then s.report (.unknownElement name) node else s

/-- The component that this file declares with the node. -/
def declaredBy (s : Pass) (node : NodeId) : Option ComponentId :=
  s.file.declared.find? fun id =>
    match s.components.get? id with
    | some c => c.element == node
    | none => false

/-- The template of the component whose declaration is being read. -/
def isTemplateOf (s : Pass) (owner : Option ComponentId) (node : NodeId) : Bool :=
  match owner.bind s.components.get? with
  | some c => c.template == some node
  | none => false

/-! ## Entering a node -/

/-- Reads how the text below a node treats blanks. -/
def readIndentation (s : Pass) (id : AnnotatedId) (node : NodeId) (inherited : Bool) :
    Pass × Bool :=
  match s.document.attribute? node "indentation" with
  | none => (s, inherited)
  | some value =>
      let s := s.strip id "indentation"
      if value = "remove" then (s, false)
      else if value = "preserve" then (s, true)
      else (s.report (.unknownIndentation value) node, true)

/-- The annotations made for a node, innermost first, and what its children inherit. -/
structure Entry where
  opened : List AnnotatedId
  inner : Surroundings

def stripPresent (s : Pass) (id : AnnotatedId) (node : NodeId) (names : List String) : Pass :=
  names.foldl (fun s name => if s.document.hasAttribute node name then s.strip id name else s) s

def markRoot (s : Pass) (id : AnnotatedId) : Pass :=
  s.update id fun a => { a with isRoot := true, identifier := some rootIdentifier }

/-- The scope of the children is that of the declaration a node makes, if it makes one. -/
def innerOwner (s : Pass) (node : NodeId) (tag : String) (owner : Option ComponentId) :
    Option ComponentId :=
  if tag = "element" then (s.declaredBy node) <|> owner else owner

def enterPlain (s : Pass) (around : Surroundings) (node : NodeId) (tag : String) : Pass × Entry :=
  let (id, s) := s.annotate node around.parent (.element {})
  let owner := s.innerOwner node tag around.owner
  let s := if tag = "body" || s.isTemplateOf around.owner node then s.markRoot id else s
  let s := (s.bindComponent id node tag around.owner).bindAttributes id node
  let (s, keepBlanks) := s.readIndentation id node around.keepBlanks
  let s := if s.hasBoundText node then s.takeOverChildren id else s
  (s, { opened := [id], inner := { owner, parent := some id, keepBlanks } })

def annotateStructural (s : Pass) (around : Surroundings) (node : NodeId) (directive : Directive) :
    AnnotatedId × Pass :=
  let (id, s) := s.annotate node around.parent (.structural directive {} none)
  (id, s.update id fun a => { a with buildsChildren := true })

/-- Leaves an element its directives alone and puts the rest of its attributes and all its children
on a new element below it. -/
def splitContent (d : Document) (node : NodeId) : NodeId × Document :=
  let directives : List (String × String) := match d.attributes? node with
    | some attributes => attributes.entries.filter fun (name, _) => directiveNames.contains name
    | none => []
  let (content, d) := d.clone node
  let d := directiveNames.foldl (fun d name => d.removeAttribute content name) d
  let d := d.moveChildren node content
  let d := d.clearAttributes node
  let d := directives.foldl (fun d (name, value) => d.setAttribute node name value) d
  (content, d.append node content)

def enterConditional (s : Pass) (around : Surroundings) (node : NodeId) (tag condition : String) :
    Pass × Entry :=
  let (id, s) := s.annotateStructural around node (.conditional condition)
  let s := s.stripPresent id node ["if", "instantiate", "template"]
  let (s, keepBlanks) := s.readIndentation id node around.keepBlanks
  let inner := { around with parent := some id, keepBlanks }
  if tag = "template" then (s, { opened := [id], inner })
  else
    let (content, document) := splitContent s.document node
    let (s, entry) := (s.mapDocument fun _ => document).enterPlain inner content tag
    let s := s.update id fun a =>
      match a.kind with
      | .structural directive bindings _ =>
          { a with kind := .structural directive bindings entry.opened.head? }
      | _ => a
    (s, { entry with opened := entry.opened ++ [id] })

/-- The host of an iteration stays in place with its own bindings. -/
def enterIteration (s : Pass) (around : Surroundings) (node : NodeId)
    (tag variableName items : String) : Pass × Entry :=
  let (id, s) := s.annotateStructural around node (.iteration variableName items)
  let s := s.strip id "iterate"
  let s :=
    if tag = "template" then s
    else
      ((s.stripPresent id node ["template"]).bindComponent id node tag around.owner).bindAttributes
        id node
  let (s, keepBlanks) := s.readIndentation id node around.keepBlanks
  (s, { opened := [id], inner := { around with parent := some id, keepBlanks } })

/-- Annotates an element itself; none leaves out what is below it as well. -/
def enter (s : Pass) (around : Surroundings) (node : NodeId) (tag : String) : Pass × Option Entry :=
  if tag = "script" then (s, none)
  else
    let (problems, plan) := Plan.read s.document node tag
    let s := problems.foldl (fun s problem => s.report problem node) s
    match plan with
    | .dropped => (s, none)
    | .plain => let (s, entry) := s.enterPlain around node tag; (s, some entry)
    | .conditional condition =>
        let (s, entry) := s.enterConditional around node tag condition; (s, some entry)
    | .iteration variableName items =>
        let (s, entry) := s.enterIteration around node tag variableName items; (s, some entry)

/-! ## The walk -/

def visitForest : Forest → Surroundings → Pass → Pass
  | .nil, _, s => s
  | .cons node children rest, around, s =>
      let s :=
        match s.document.data? node with
        | some (.element tag _) =>
            match s.enter around node tag with
            | (s, none) => s
            | (s, some entry) => entry.opened.foldl identify (visitForest children entry.inner s)
        | some (.text text) => s.visitText around node text
        | _ => s
      visitForest rest around s

end Pass

/-- Annotates what the first `<body>` shows. -/
def annotateFile (keepBlanks : Bool) (s : Pass) : Pass :=
  match s.document.findElement? "body" with
  | none => s
  | some body => s.visitForest (s.document.forest body) { keepBlanks }

end ComponentMarkup
