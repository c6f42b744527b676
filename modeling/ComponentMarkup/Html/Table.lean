import ComponentMarkup.Html.Content

/-!
The rules for tables and for selections, which keep out what does not belong into them.
-/

namespace ComponentMarkup.Html.Builder

/-! ## Tables -/

/-- What does not belong into a table is read as part of the body and put in front of it. -/
def foster (b : Builder) (token : Token) : Step :=
  ({ b with fostering := true }.inBody token).map fun b => { b with fostering := false }

def tableNames : List String := ["table", "tbody", "tfoot", "thead", "tr"]

def tableText (b : Builder) (text : List Char) : Step :=
  if tableNames.contains b.currentName then
    let shown := text.filter (· != '\x00')
    if shown.all Text.isMarkupBlank then .done (b.addText shown) else b.foster (.text shown)
  else b.inBody (.text text)

def closeTable (b : Builder) : Builder := (b.popUntil (· = "table")).resetMode

def openInTable (b : Builder) (tag : Tag) : Step :=
  let name := tag.name
  if name = "caption" then
    .done (((b.clearTo ["table"]).addMarker.openTag tag).setMode .inCaption)
  else if name = "colgroup" then
    .done (((b.clearTo ["table"]).openTag tag).setMode .inColumnGroup)
  else if name = "col" then
    .again (((b.clearTo ["table"]).openImplied "colgroup").setMode .inColumnGroup)
  else if isTableSection name then
    .done (((b.clearTo ["table"]).openTag tag).setMode .inTableBody)
  else if isCell name || name = "tr" then
    .again (((b.clearTo ["table"]).openImplied "tbody").setMode .inTableBody)
  else if name = "table" then
    if b.hasInTableScope "table" then .again b.closeTable else .done b
  else if ["style", "script", "template"].contains name then .done (b.openHeadContent tag)
  else if name = "input" then
    match tag.attributes.find? "type" with
    | some type =>
        if Text.sameLetters type "hidden" then .done (b.addVoid tag) else b.foster (.start tag)
    | none => b.foster (.start tag)
  else if name = "form" then
    if b.form.isSome || b.isOpen "template" then .done b
    else
      let (e, b) := b.openAt b.spot tag.name .html tag.attributes
      .done { b.pop with form := some e.node }
  else b.foster (.start tag)

def inTable (b : Builder) : Token → Step
  | .comment contents => .done (b.addComment contents)
  | .doctype _ => .done b
  | .text text => b.tableText text
  | .start tag => b.openInTable tag
  | .close name =>
      if name = "table" then .done (if b.hasInTableScope "table" then b.closeTable else b)
      else if name = "template" then .done b.closeTemplate
      else if name = "body" || name = "html" || isTablePart name then .done b
      else b.foster (.close name)
  | .done => b.endDocument

def inTableBody (b : Builder) (token : Token) : Step :=
  let context := ["tbody", "tfoot", "thead"]
  let leave := ((b.clearTo context).pop).setMode .inTable
  let inSection := b.inScope boundsTableScope ["table", "tbody", "tfoot"].contains
  match token with
  | .start tag =>
      if tag.name = "tr" then .done (((b.clearTo context).openTag tag).setMode .inRow)
      else if isCell tag.name then .again (((b.clearTo context).openImplied "tr").setMode .inRow)
      else if isTablePart tag.name then if inSection then .again leave else .done b
      else b.inTable token
  | .close name =>
      if isTableSection name then .done (if b.hasInTableScope name then leave else b)
      else if name = "table" then if inSection then .again leave else .done b
      else b.inTable token
  | _ => b.inTable token

def inRow (b : Builder) (token : Token) : Step :=
  let leave := ((b.clearTo ["tr"]).pop).setMode .inTableBody
  let leaving := if b.hasInTableScope "tr" then .again leave else .done b
  match token with
  | .start tag =>
      if isCell tag.name then .done (((b.clearTo ["tr"]).openTag tag).setMode .inCell).addMarker
      else if isTablePart tag.name then leaving
      else b.inTable token
  | .close name =>
      if name = "tr" then .done leaving.builder
      else if name = "table" then leaving
      else if isTableSection name then if b.hasInTableScope name then leaving else .done b
      else b.inTable token
  | _ => b.inTable token

def leaveCell (b : Builder) (wanted : String → Bool) : Builder :=
  ((b.popImplied "").popUntil wanted).clearFormatting.setMode .inRow

def inCell (b : Builder) (token : Token) : Step :=
  match token with
  | .start tag =>
      if isTablePart tag.name then
        if b.inScope boundsTableScope isCell then .again (b.leaveCell isCell) else .done b
      else b.inBody token
  | .close name =>
      if isCell name then .done (if b.hasInTableScope name then b.leaveCell (· = name) else b)
      else if ["body", "caption", "col", "colgroup", "html"].contains name then .done b
      else if tableNames.contains name then
        if b.hasInTableScope name then .again (b.leaveCell isCell) else .done b
      else b.inBody token
  | _ => b.inBody token

def leaveCaption (b : Builder) : Builder :=
  ((b.popImplied "").popUntil (· = "caption")).clearFormatting.setMode .inTable

def inCaption (b : Builder) (token : Token) : Step :=
  let isIn := b.hasInTableScope "caption"
  match token with
  | .start tag =>
      if isTablePart tag.name then if isIn then .again b.leaveCaption else .done b
      else b.inBody token
  | .close name =>
      if name = "caption" then .done (if isIn then b.leaveCaption else b)
      else if name = "table" then if isIn then .again b.leaveCaption else .done b
      else if name = "body" || name = "html" || isTablePart name then .done b
      else b.inBody token
  | _ => b.inBody token

/-- Columns, which stand in a group or in a template. A template drops all other text than
blanks. -/
def inColumnGroup (b : Builder) (token : Token) : Step :=
  let inGroup : Bool := b.currentName = "colgroup"
  let leave := if inGroup then .again (b.pop.setMode .inTable) else .done b
  match token with
  | .text text =>
      if inGroup && !text.all Text.isMarkupBlank then leave
      else .done (b.addText (text.filter Text.isMarkupBlank))
  | .comment contents => .done (b.addComment contents)
  | .doctype _ => .done b
  | .start tag =>
      if tag.name = "html" then .done (b.mergeHtml tag)
      else if tag.name = "col" then .done (b.addVoid tag)
      else if tag.name = "template" then .done (b.openTemplate tag)
      else leave
  | .close name =>
      if name = "colgroup" then .done leave.builder
      else if name = "col" then .done b
      else if name = "template" then .done b.closeTemplate
      else leave
  | .done => b.endDocument

/-! ## Selections -/

def popNamed (b : Builder) (name : String) : Builder := if b.currentName = name then b.pop else b

def closeSelect (b : Builder) : Builder := (b.popUntil (· = "select")).resetMode

def inSelect (b : Builder) : Token → Step
  | .text text => .done (b.addText (text.filter (· != '\x00')))
  | .comment contents => .done (b.addComment contents)
  | .doctype _ => .done b
  | .start tag =>
      let isIn := b.inScope boundsSelectScope (· = "select")
      if tag.name = "html" then .done (b.mergeHtml tag)
      else if tag.name = "option" then .done ((b.popNamed "option").openTag tag)
      else if tag.name = "optgroup" then
        .done (((b.popNamed "option").popNamed "optgroup").openTag tag)
      else if tag.name = "hr" then .done (((b.popNamed "option").popNamed "optgroup").addVoid tag)
      else if tag.name = "select" then .done (if isIn then b.closeSelect else b)
      else if ["input", "keygen", "textarea"].contains tag.name then
        if isIn then .again b.closeSelect else .done b
      else if tag.name = "script" || tag.name = "template" then .done (b.openHeadContent tag)
      else .done b
  | .close name =>
      if name = "optgroup" then
        let inGroup : Bool := match b.stack with
          | _ :: e :: _ => e.name = "optgroup"
          | _ => false
        .done ((if inGroup then b.popNamed "option" else b).popNamed "optgroup")
      else if name = "option" then .done (b.popNamed "option")
      else if name = "select" then
        .done (if b.inScope boundsSelectScope (· = "select") then b.closeSelect else b)
      else if name = "template" then .done b.closeTemplate
      else .done b
  | .done => b.endDocument

def inSelectInTable (b : Builder) (token : Token) : Step :=
  let isOutside := fun name => name = "caption" || tableNames.contains name || isCell name
  match token with
  | .start tag => if isOutside tag.name then .again b.closeSelect else b.inSelect token
  | .close name =>
      if isOutside name then if b.hasInTableScope name then .again b.closeSelect else .done b
      else b.inSelect token
  | _ => b.inSelect token

end ComponentMarkup.Html.Builder
