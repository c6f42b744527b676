import ComponentMarkup.Html.Formatting

/-!
The rules for what stands in the head and in the body of a document.
-/

namespace ComponentMarkup.Html

/-- A tree after a token; `again` reads the token once more, by the rules of the new mode. -/
inductive Step where
  | done (b : Builder)
  | again (b : Builder)

namespace Step

def builder : Step → Builder
  | done b => b
  | again b => b

def map (f : Builder → Builder) : Step → Step
  | done b => done (f b)
  | again b => again (f b)

end Step

namespace Builder

/-! ## Templates -/

def openTemplate (b : Builder) (tag : Tag) : Builder :=
  let b := (b.openTag tag).addMarker
  { b with mode := .inTemplate, templateModes := .inTemplate :: b.templateModes, canFrame := false }

def leaveTemplate (b : Builder) : Builder :=
  let b := (b.popUntil (· = "template")).clearFormatting
  { b with templateModes := b.templateModes.drop 1 }.resetMode

def closeTemplate (b : Builder) : Builder :=
  if b.isOpen "template" then b.popImpliedThoroughly.leaveTemplate else b

/-- The end of the text ends the templates that are still open, and then the document. -/
def endDocument (b : Builder) : Step :=
  if b.isOpen "template" then .again b.leaveTemplate else .done b

/-! ## Head -/

/-- Elements of the head, which are read the same way wherever they are allowed. -/
def openHeadContent (b : Builder) (tag : Tag) : Builder :=
  if tag.name = "title" then b.openText tag (.escapable tag.name)
  else if tag.name = "style" || tag.name = "noframes" then b.openText tag (.raw tag.name)
  else if tag.name = "script" then b.openText tag .script
  else if tag.name = "template" then b.openTemplate tag
  else b.addVoid tag

/-! ## Closing in the body -/

/-- Closes an element that `wanted` accepts, when one is in scope. -/
def closeInScope (b : Builder) (bounds : Space → String → Bool) (wanted : String → Bool)
    (except : String) : Builder :=
  if b.inScope bounds wanted then (b.popImplied except).popUntil wanted else b

/-- Special elements keep an open item inside them, except the loosest blocks. -/
def holdsItem (e : OpenElement) : Bool :=
  isSpecialElement e && e.name != "address" && e.name != "div" && e.name != "p"

/-- Closes an open item when another one starts, unless a block in between holds it. -/
def closeItem (b : Builder) (isItem : String → Bool) : Builder :=
  match b.stack.find? fun e => (e.space = .html && isItem e.name) || holdsItem e with
  | some e =>
      if e.space = .html && isItem e.name then (b.popImplied e.name).popUntil (· = e.name) else b
  | none => b

def closeForm (b : Builder) : Builder :=
  if b.isOpen "template" then b.closeInScope boundsScope (· = "form") ""
  else
    match b.form with
    | none => b
    | some node =>
        let b := { b with form := none }
        if b.isInScope node then (b.popImplied "").dropOpen node else b

/-! ## Foreign content -/

def foreignName (space : Space) (name : String) : String :=
  if space = .svg then
    (svgTags.find? fun spelled => Text.lowered spelled == name).getD name
  else name

def foreignAttribute (space : Space) (name : String) : String :=
  if spacedAttributes.contains name then
    String.ofList ((name.toList.dropWhile (· != ':')).drop 1)
  else if space = .svg then
    (svgAttributes.find? fun spelled => Text.lowered spelled == name).getD name
  else if name = "definitionurl" then "definitionURL"
  else name

/-- Opens an svg or math element; one that closes itself holds nothing. -/
def openForeign (b : Builder) (tag : Tag) (space : Space) : Builder :=
  let attributes : OrderedMap String String :=
    ⟨tag.attributes.entries.map fun (name, value) => (foreignAttribute space name, value)⟩
  let (_, b) := b.openAt b.spot (foreignName space tag.name) space attributes
  if tag.selfClosing then b.pop else b

/-! ## Body -/

def openHeading (b : Builder) (tag : Tag) : Builder :=
  let b := b.closeParagraph
  (if isHeading b.currentName then b.pop else b).openTag tag

def openForm (b : Builder) (tag : Tag) : Builder :=
  if b.form.isSome && !b.isOpen "template" then b
  else
    let b := b.closeParagraph
    let (e, b) := b.openAt b.spot tag.name .html tag.attributes
    if b.isOpen "template" then b else { b with form := some e.node }

def openButton (b : Builder) (tag : Tag) : Builder :=
  (b.closeInScope boundsScope (· = "button") "").reopenFormatting.openTag tag

def openAnchor (b : Builder) (tag : Tag) : Builder :=
  let b := match (sinceMarker b.formatting).find? (·.name = "a") with
    | some e =>
        ((b.closeFormatting "a").dropFormat e.node).dropOpen e.node
    | none => b
  b.reopenFormatting.openFormatting tag

def openSelect (b : Builder) (tag : Tag) : Builder :=
  let inTable := [Mode.inTable, .inCaption, .inTableBody, .inRow, .inCell].contains b.mode
  (b.reopenFormatting.openTag tag).setMode (if inTable then .inSelectInTable else .inSelect)

def openOption (b : Builder) (tag : Tag) : Builder :=
  (if b.currentName = "option" then b.pop else b).reopenFormatting.openTag tag

def openTable (b : Builder) (tag : Tag) : Builder :=
  ((if b.isOld then b else b.closeParagraph).openTag tag).setMode .inTable

/-- Another `<body>` adds its attributes to the first one. -/
def openBody (b : Builder) (tag : Tag) : Builder :=
  match b.stack.reverse with
  | _ :: e :: _ =>
      if e.name = "body" && !b.isOpen "template" then
        { b.mergeAttributes e.node tag with canFrame := false }
      else b
  | _ => b

/-- A set of frames takes the place of a body in which nothing has shown up. -/
def openFrameset (b : Builder) (tag : Tag) : Builder :=
  match b.stack.reverse with
  | root :: e :: _ =>
      if e.space = .html && e.name = "body" && b.canFrame then
        ({ b with document := b.document.detach e.node, stack := [root] }.openTag tag).setMode
          .inFrameset
      else b
  | _ => b

/-- Whether an element shows up in the body. -/
def showsUp (tag : Tag) : Bool :=
  if tag.name = "input" then
    !(tag.attributes.find? "type").any fun type => Text.sameLetters type "hidden"
  else
    ["pre", "listing", "li", "dd", "dt", "button", "applet", "marquee", "object", "table", "area",
      "br", "embed", "img", "image", "keygen", "wbr", "hr", "textarea", "xmp", "iframe",
      "select"].contains tag.name

def openInBody (b : Builder) (tag : Tag) : Builder :=
  let name := tag.name
  if name = "html" then b.mergeHtml tag
  else if isHeadContent name then b.openHeadContent tag
  else if name = "body" then b.openBody tag
  else if name = "frameset" then b.openFrameset tag
  else if ["frame", "head"].contains name || isTablePart name then b
  else if isBlock name || name = "p" then b.closeParagraph.openTag tag
  else if isHeading name then b.openHeading tag
  else if name = "pre" || name = "listing" then
    { b.closeParagraph.openTag tag with skipsBreak := true }
  else if name = "form" then b.openForm tag
  else if name = "li" then ((b.closeItem (· = "li")).closeParagraph).openTag tag
  else if name = "dd" || name = "dt" then
    ((b.closeItem fun name => name = "dd" || name = "dt").closeParagraph).openTag tag
  else if name = "plaintext" then { b.closeParagraph.openTag tag with textMode := .plain }
  else if name = "button" then b.openButton tag
  else if name = "a" then b.openAnchor tag
  else if isFormatting name then b.reopenFormatting.openFormatting tag
  else if name = "nobr" then
    let b := b.reopenFormatting
    (if b.hasInScope "nobr" then (b.closeFormatting "nobr").reopenFormatting else b).openFormatting
      tag
  else if ["applet", "marquee", "object"].contains name then
    (b.reopenFormatting.openTag tag).addMarker
  else if name = "table" then b.openTable tag
  else if ["area", "br", "embed", "img", "keygen", "wbr", "input"].contains name then
    b.reopenFormatting.addVoid tag
  else if name = "image" then b.reopenFormatting.addVoid { tag with name := "img" }
  else if ["param", "source", "track"].contains name then b.addVoid tag
  else if name = "hr" then b.closeParagraph.addVoid tag
  else if name = "textarea" then
    { b.openText tag (.escapable name) with skipsBreak := true }
  else if name = "xmp" then b.closeParagraph.reopenFormatting.openText tag (.raw name)
  else if ["iframe", "noembed", "noscript"].contains name then b.openText tag (.raw name)
  else if name = "select" then b.openSelect tag
  else if name = "option" || name = "optgroup" then b.openOption tag
  else if name = "rb" || name = "rtc" then
    (if b.hasInScope "ruby" then b.popImplied "" else b).openTag tag
  else if name = "rp" || name = "rt" then
    (if b.hasInScope "ruby" then b.popImplied "rtc" else b).openTag tag
  else if name = "math" then b.openForeign tag .math
  else if name = "svg" then b.openForeign tag .svg
  else b.reopenFormatting.openTag tag

def closeInBody (b : Builder) (name : String) : Step :=
  if name = "template" then .done b.closeTemplate
  else if name = "body" then .done (if b.hasInScope "body" then b.setMode .afterBody else b)
  else if name = "html" then
    if b.hasInScope "body" then .again (b.setMode .afterBody) else .done b
  else if isBlock name || ["button", "listing", "pre"].contains name then
    .done (b.closeInScope boundsScope (· = name) "")
  else if name = "form" then .done b.closeForm
  else if name = "p" then
    .done (if b.hasInButtonScope "p" then b else b.openImplied "p").closeParagraph
  else if name = "li" then .done (b.closeInScope boundsListScope (· = name) name)
  else if name = "dd" || name = "dt" then .done (b.closeInScope boundsScope (· = name) name)
  else if isHeading name then .done (b.closeInScope boundsScope isHeading "")
  else if isFormatting name || name = "a" || name = "nobr" then .done (b.closeFormatting name)
  else if ["applet", "marquee", "object"].contains name then
    .done
      (if b.hasInScope name then (b.closeInScope boundsScope (· = name) "").clearFormatting else b)
  else if name = "br" then .done { b.reopenFormatting.addVoid { name } with canFrame := false }
  else .done (b.closeNamed name)

def inBody (b : Builder) : Token → Step
  | .doctype _ => .done b
  | .comment contents => .done (b.addComment contents)
  | .text text =>
      let shown := text.filter (· != '\x00')
      let b := { b with canFrame := b.canFrame && shown.all Text.isMarkupBlank }
      .done (if shown.isEmpty then b else b.reopenFormatting.addText shown)
  | .start tag => .done ({ b with canFrame := b.canFrame && !showsUp tag }.openInBody tag)
  | .close name => b.closeInBody name
  | .done => b.endDocument

/-! ## Text -/

/-- Inside an element that holds text alone. -/
def inText (b : Builder) : Token → Step
  | .text text => .done (b.addText text)
  | .done => .again { b.pop with mode := b.afterText, textMode := .markup }
  | .close _ => .done { b.pop with mode := b.afterText, textMode := .markup }
  | _ => .done b

end Builder
end ComponentMarkup.Html
