import ComponentMarkup.Document.Basic
import ComponentMarkup.Html.Token
import ComponentMarkup.Html.Vocabulary

/-!
The tree under construction: the document so far, the elements that are open, and the formatting
that is in force.
-/

namespace ComponentMarkup.Html

/-- Which rules the next token is read by. -/
inductive Mode where
  | initial | beforeHtml | beforeHead | inHead | afterHead | inBody | inText
  | inTable | inCaption | inColumnGroup | inTableBody | inRow | inCell
  | inSelect | inSelectInTable | inTemplate | afterBody | afterAfterBody
  | inFrameset | afterFrameset | afterAfterFrameset
deriving DecidableEq

structure OpenElement where
  node : NodeId
  name : String
  space : Space := .html
  attributes : OrderedMap String String := {}

/-- Formatting in force, latest first; a marker hides what was in force outside it. -/
inductive Formatting where
  | marker
  | element (e : OpenElement)

structure Builder where
  document : Document := .empty
  /-- Innermost first. -/
  stack : List OpenElement := []
  mode : Mode := .initial
  /-- The mode to go back to after a text. -/
  afterText : Mode := .initial
  templateModes : List Mode := []
  head : Option OpenElement := none
  form : Option NodeId := none
  formatting : List Formatting := []
  /-- Whether nodes that do not belong into a table are put in front of it. -/
  fostering : Bool := false
  /-- Whether the document has no document type, or an old one: a table then stays in the paragraph
  it is found in. -/
  isOld : Bool := false
  /-- Whether nothing has shown up so far that a set of frames cannot take the place of. -/
  canFrame : Bool := true
  /-- Whether a line feed right here is dropped. -/
  skipsBreak : Bool := false
  textMode : TextMode := .markup

namespace Builder

/-! ## The stack -/

def current? (b : Builder) : Option OpenElement := b.stack.head?

def currentName (b : Builder) : String :=
  match b.current? with
  | some { name, space := .html, .. } => name
  | _ => ""

def isOpen (b : Builder) (name : String) : Bool :=
  b.stack.any fun e => e.space = .html && e.name = name

def isOnStack (b : Builder) (node : NodeId) : Bool := b.stack.any (·.node == node)

def pop (b : Builder) : Builder := { b with stack := b.stack.drop 1 }

def popUntil (b : Builder) (isLast : String → Bool) : Builder :=
  { b with stack := (b.stack.dropWhile fun e => !(e.space = .html && isLast e.name)).drop 1 }

/-- Pops down to an element that can hold the parts of a table. -/
def clearTo (b : Builder) (names : List String) : Builder :=
  { b with
    stack := b.stack.dropWhile fun e =>
      !(e.space = .html && ("html" :: "template" :: names).contains e.name) }

/-- Whether an element that `wanted` accepts is open and nothing hides it. -/
def inScope (b : Builder) (bounds : Space → String → Bool) (wanted : String → Bool) : Bool :=
  match b.stack.find? fun e => (e.space = .html && wanted e.name) || bounds e.space e.name with
  | some e => e.space = .html && wanted e.name
  | none => false

def hasInScope (b : Builder) (name : String) : Bool := b.inScope boundsScope (· = name)

def hasInButtonScope (b : Builder) (name : String) : Bool := b.inScope boundsButtonScope (· = name)

def hasInTableScope (b : Builder) (name : String) : Bool := b.inScope boundsTableScope (· = name)

/-- Pops elements whose end tag may be left out, except those of one name. -/
def popImplied (b : Builder) (except : String) : Builder :=
  { b with
    stack := b.stack.dropWhile fun e =>
      e.space = .html && hasImpliedEnd e.name && e.name != except }

def popImpliedThoroughly (b : Builder) : Builder :=
  { b with stack := b.stack.dropWhile fun e => e.space = .html && hasImpliedEndThoroughly e.name }

/-! ## Placing nodes -/

/-- Under `parent`, in front of `before` or behind everything there. -/
structure Spot where
  parent : NodeId
  before : Option NodeId := none

/-- The place in front of the innermost table, or inside a template that is nearer. -/
def fosterSpot (b : Builder) : Spot :=
  let tableOrTemplate := b.stack.find? fun e =>
    e.space = .html && (e.name = "table" || e.name = "template")
  match tableOrTemplate with
  | none => { parent := match b.stack.getLast? with | some e => e.node | none => Document.root }
  | some e =>
      if e.name = "template" then { parent := e.node }
      else
        match b.document.parent? e.node with
        | some parent => { parent, before := some e.node }
        | none =>
            match (b.stack.dropWhile (·.node != e.node)).drop 1 with
            | outer :: _ => { parent := outer.node }
            | [] => { parent := Document.root }

def spotIn (b : Builder) (target : OpenElement) : Spot :=
  if b.fostering && target.space = .html &&
      ["table", "tbody", "tfoot", "thead", "tr"].contains target.name then b.fosterSpot
  else { parent := target.node }

/-- Where the next node goes. -/
def spot (b : Builder) : Spot :=
  match b.current? with
  | some e => b.spotIn e
  | none => { parent := Document.root }

def putBefore (next child : NodeId) : List NodeId → List NodeId
  | [] => [child]
  | id :: rest => if id == next then child :: id :: rest else id :: putBefore next child rest

def placeAt (d : Document) (spot : Spot) (child : NodeId) : Document :=
  let d := d.detach child
  match spot.before with
  | none => d.place spot.parent child
  | some next =>
      (d.update child fun node => { node with parent := some spot.parent }).update spot.parent
        fun node => { node with children := putBefore next child node.children }

def addNode (b : Builder) (spot : Spot) (data : NodeData) : NodeId × Builder :=
  let (node, d) := b.document.add data {}
  (node, { b with document := placeAt d spot node })

def addComment (b : Builder) (contents : String) : Builder :=
  (b.addNode b.spot (.comment contents)).2

/-- The node that stands right in front of a spot. -/
def nodeBefore (d : Document) (spot : Spot) : Option NodeId :=
  match spot.before with
  | none => (d.children spot.parent).getLast?
  | some next => ((d.children spot.parent).takeWhile (· != next)).getLast?

/-- Adds text, which joins the text it follows. -/
def addText (b : Builder) (text : List Char) : Builder :=
  if text.isEmpty then b
  else
    let spot := b.spot
    match (nodeBefore b.document spot).bind fun node =>
        (b.document.text? node).map fun before => (node, before) with
    | some (node, before) =>
        { b with document := b.document.setText node (before ++ String.ofList text) }
    | none => (b.addNode spot (.text (String.ofList text))).2

/-! ## Opening elements -/

def openAt (b : Builder) (spot : Spot) (name : String) (space : Space)
    (attributes : OrderedMap String String) : OpenElement × Builder :=
  let (node, b) := b.addNode spot (.element name attributes)
  let e : OpenElement := { node, name, space, attributes }
  (e, { b with stack := e :: b.stack })

def openTag (b : Builder) (tag : Tag) : Builder := (b.openAt b.spot tag.name .html tag.attributes).2

/-- Opens an element that the source does not spell out. -/
def openImplied (b : Builder) (name : String) : Builder := b.openTag { name }

/-- Adds an element that holds nothing. -/
def addVoid (b : Builder) (tag : Tag) : Builder := (b.openTag tag).pop

/-- Opens an element that holds text alone. -/
def openText (b : Builder) (tag : Tag) (textMode : TextMode) : Builder :=
  { b.openTag tag with textMode, afterText := b.mode, mode := .inText }

/-- Adds attributes that an open element lacks. -/
def mergeAttributes (b : Builder) (node : NodeId) (tag : Tag) : Builder :=
  { b with
    document := b.document.mapAttributes node fun present =>
      tag.attributes.entries.foldl
        (fun present (name, value) =>
          if present.contains name then present else present.insert name value)
        present }

/-- Another `<html>` adds its attributes to the first one. -/
def mergeHtml (b : Builder) (tag : Tag) : Builder :=
  match b.stack.getLast? with
  | some e => if b.isOpen "template" then b else b.mergeAttributes e.node tag
  | none => b

/-- Closes an open paragraph. -/
def closeParagraph (b : Builder) : Builder :=
  if b.hasInButtonScope "p" then (b.popImplied "p").popUntil (· = "p") else b

/-! ## Modes -/

/-- The mode that the open elements call for; `outer` are those outside the one looked at. -/
def modeFor (b : Builder) : List OpenElement → Mode
  | [] => .inBody
  | e :: outer =>
      if e.space ≠ .html then b.modeFor outer
      else if e.name = "select" then
        let between := (outer.takeWhile fun e => e.name != "template").any (·.name = "table")
        if between then .inSelectInTable else .inSelect
      else if isCell e.name && !outer.isEmpty then .inCell
      else if e.name = "tr" then .inRow
      else if isTableSection e.name then .inTableBody
      else if e.name = "caption" then .inCaption
      else if e.name = "colgroup" then .inColumnGroup
      else if e.name = "table" then .inTable
      else if e.name = "template" then b.templateModes.headD .inBody
      else if e.name = "head" && !outer.isEmpty then .inHead
      else if e.name = "body" then .inBody
      else if e.name = "frameset" then .inFrameset
      else if e.name = "html" then if b.head.isNone then .beforeHead else .afterHead
      else b.modeFor outer

def resetMode (b : Builder) : Builder := { b with mode := b.modeFor b.stack }

def setMode (b : Builder) (mode : Mode) : Builder := { b with mode }

end Builder
end ComponentMarkup.Html
