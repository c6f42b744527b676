import ComponentMarkup.Annotated.Basic
import ComponentMarkup.Diagnostic
import ComponentMarkup.Document.Serialize
import ComponentMarkup.Text.Blank
import ComponentMarkup.Text.Cut

/-!
What the directives of an element ask for, before anything is done about it.
-/

namespace ComponentMarkup

inductive Plan where
  | plain
  | dropped
  | conditional (condition : String)
  | iteration (variableName items : String)
deriving DecidableEq, Repr

namespace Plan

def isNameStart (c : Char) : Bool := c.isAlpha || c = '_' || c = '$'

def isNamePart (c : Char) : Bool := c.isAlphanum || c = '_' || c = '$'

/-- The list expression after the word `in`: it does not break the line. A blank one is what is
left when the fewest blanks are given to it, which is the last of them that is no line break,
unless it has to separate the word. -/
def listExpr? (rest : List Char) : Option (List Char) :=
  let items := Text.trim rest
  match rest with
  | [] => none
  | separator :: more =>
      if !Text.isBlank separator then none
      else if items.isEmpty then (more.reverse.find? (· != '\n')).map ([·])
      else if items.contains '\n' then none
      else some items

/-- Reads `variable in list`. -/
def iteration? (text : List Char) : Option (String × String) :=
  let text := Text.trimStart text
  let name := text.takeWhile isNamePart
  let rest := text.dropWhile isNamePart
  match name.head?, rest.head? with
  | some first, some separator =>
      if isNameStart first && Text.isBlank separator then
        match Text.afterLead? ['i', 'n'] (Text.trimStart rest) with
        | some rest => (listExpr? rest).map fun items => (String.ofList name, String.ofList items)
        | none => none
      else none
  | _, _ => none

/-- Neither an element nor text that shows. -/
def isEmptyBody (d : Document) (node : NodeId) : Bool :=
  (d.children node).all fun child =>
    match d.data? child with
    | some (.element ..) => false
    | some (.text contents) => Text.blankOnly contents
    | _ => true

/-- The condition of an element and what is wrong with its `instantiate` attribute. -/
def conditionOf (d : Document) (node : NodeId) : Option String × List Problem :=
  let condition := d.attribute? node "if"
  match d.attribute? node "instantiate" with
  | none => (condition, [])
  | some text =>
      match Text.after? "if " (Text.trimmed text), condition with
      | some _, some _ => (condition, [.secondCondition])
      | some expr, none => (some (Text.trimmed expr), [])
      | none, _ => (condition, [.malformedInstantiate])

/-- How the template of a component would have to be written to carry a directive. -/
def wrappedExample (d : Document) (node : NodeId) : String :=
  let declaration := match d.parent? node with
    | some parent => d.startTag parent
    | none => "<element>"
  declaration ++ "<template>" ++ d.markup node ++ "</template></element>"

def isCandidate (d : Document) (node : NodeId) (tag : String) : Bool :=
  tag = "template" || ["template", "if", "iterate", "instantiate"].any (d.hasAttribute node)

def underDeclaration (d : Document) (node : NodeId) : Bool :=
  match d.parent? node with
  | some parent => d.isElement parent "element"
  | none => false

/-- What to do with an element that has a condition, an iteration or both. -/
def ofDirectives (d : Document) (node : NodeId) (isTemplate : Bool) :
    Option String → Option String → List Problem × Plan
  | some _, some _ => ([.bothDirectives], .dropped)
  | none, none => ([], .plain)
  | some condition, none =>
      if underDeclaration d node then ([.directiveOnTemplateRoot (wrappedExample d node)], .dropped)
      else ([], if isTemplate && isEmptyBody d node then .dropped else .conditional condition)
  | none, some text =>
      if underDeclaration d node then ([.directiveOnTemplateRoot (wrappedExample d node)], .dropped)
      else
        match iteration? text.toList with
        | none => ([.malformedIterate text], .dropped)
        | some (variableName, items) =>
            ([], if isEmptyBody d node then .dropped else .iteration variableName items)

/-- The plan for an element and the problems found on the way. -/
def read (d : Document) (node : NodeId) (tag : String) : List Problem × Plan :=
  if !isCandidate d node tag then ([], .plain)
  else
    let isTemplate := tag = "template"
    let (condition, warnings) := conditionOf d node
    let iterate := d.attribute? node "iterate"
    if condition.isNone && iterate.isNone then (warnings, .plain)
    else
      let required :=
        if isTemplate || d.hasAttribute node "template" then [] else [.templateRequired]
      let (problems, plan) := ofDirectives d node isTemplate condition iterate
      (warnings ++ required ++ problems, plan)

end Plan
end ComponentMarkup
