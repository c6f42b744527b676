import ComponentMarkup.Html.Table

/-!
The rules for each part of a document, from the document type to what follows the body.
-/

namespace ComponentMarkup.Html.Builder

def addRootComment (b : Builder) (contents : String) : Builder :=
  (b.addNode { parent := Document.root } (.comment contents)).2

/-! ## Before the body -/

def initial (b : Builder) : Token → Step
  | .comment contents => .done (b.addRootComment contents)
  | .doctype type =>
      let (_, b) := b.addNode { parent := Document.root } (.doctype type.name)
      .done { b with isOld := type.isOld, mode := .beforeHtml }
  | _ => .again { b with isOld := true, mode := .beforeHtml }

def beforeHtml (b : Builder) : Token → Step
  | .comment contents => .done (b.addRootComment contents)
  | .doctype _ => .done b
  | token =>
      let implied := .again ((b.openImplied "html").setMode .beforeHead)
      match token with
      | .start tag =>
          if tag.name = "html" then .done ((b.openTag tag).setMode .beforeHead) else implied
      | .close name => if ["head", "body", "html", "br"].contains name then implied else .done b
      | _ => implied

/-- Opens the head and keeps it in mind. -/
def openHead (b : Builder) (tag : Tag) : Builder :=
  let (e, b) := b.openAt b.spot tag.name .html tag.attributes
  { b with head := some e, mode := .inHead }

def beforeHead (b : Builder) : Token → Step
  | .comment contents => .done (b.addComment contents)
  | .doctype _ => .done b
  | token =>
      let implied := .again (b.openHead { name := "head" })
      match token with
      | .start tag =>
          if tag.name = "html" then .done (b.mergeHtml tag)
          else if tag.name = "head" then .done (b.openHead tag)
          else implied
      | .close name => if ["head", "body", "html", "br"].contains name then implied else .done b
      | _ => implied

def inHead (b : Builder) : Token → Step
  | .comment contents => .done (b.addComment contents)
  | .doctype _ => .done b
  | token =>
      let left := .again (b.pop.setMode .afterHead)
      match token with
      | .start tag =>
          if tag.name = "html" then .done (b.mergeHtml tag)
          else if tag.name = "noscript" then .done (b.openText tag (.raw tag.name))
          else if isHeadContent tag.name then .done (b.openHeadContent tag)
          else if tag.name = "head" then .done b
          else left
      | .close name =>
          if name = "head" then .done (b.pop.setMode .afterHead)
          else if name = "template" then .done b.closeTemplate
          else if ["body", "html", "br"].contains name then left
          else .done b
      | _ => left

/-- Reads an element of the head that comes behind it as if the head were still open. -/
def reopenHead (b : Builder) (tag : Tag) : Builder :=
  match b.head with
  | none => b.openHeadContent tag
  | some head =>
      let b := { b with stack := head :: b.stack }.openHeadContent tag
      { b with stack := b.stack.filter (·.node != head.node) }

def afterHead (b : Builder) : Token → Step
  | .comment contents => .done (b.addComment contents)
  | .doctype _ => .done b
  | token =>
      let implied := .again ((b.openImplied "body").setMode .inBody)
      match token with
      | .start tag =>
          if tag.name = "html" then .done (b.mergeHtml tag)
          else if tag.name = "body" then
            .done { (b.openTag tag).setMode .inBody with canFrame := false }
          else if tag.name = "frameset" then .done ((b.openTag tag).setMode .inFrameset)
          else if isHeadContent tag.name then .done (b.reopenHead tag)
          else if tag.name = "head" then .done b
          else implied
      | .close name =>
          if name = "template" then .done b.closeTemplate
          else if ["body", "html", "br"].contains name then implied
          else .done b
      | _ => implied

/-! ## Templates -/

/-- The first element in a template decides by which rules the template is read. -/
def templateModeFor (name : String) : Mode :=
  if ["caption", "colgroup", "tbody", "tfoot", "thead"].contains name then .inTable
  else if name = "col" then .inColumnGroup
  else if name = "tr" then .inTableBody
  else if isCell name then .inRow
  else .inBody

def inTemplate (b : Builder) (token : Token) : Step :=
  match token with
  | .start tag =>
      if isHeadContent tag.name then .done (b.openHeadContent tag)
      else
        let mode := templateModeFor tag.name
        .again { b with mode, templateModes := mode :: b.templateModes.drop 1 }
  | .close name => .done (if name = "template" then b.closeTemplate else b)
  | .done => b.endDocument
  | _ => b.inBody token

/-! ## Behind the body -/

def afterBody (b : Builder) : Token → Step
  | .comment contents =>
      let parent := match b.stack.getLast? with
        | some e => e.node
        | none => Document.root
      .done (b.addNode { parent } (.comment contents)).2
  | .doctype _ => .done b
  | .start tag => if tag.name = "html" then .done (b.mergeHtml tag) else .again (b.setMode .inBody)
  | .close name =>
      if name = "html" then .done (b.setMode .afterAfterBody) else .again (b.setMode .inBody)
  | .text text =>
      if text.all Text.isMarkupBlank then b.inBody (.text text) else .again (b.setMode .inBody)
  | .done => .done b

def afterAfterBody (b : Builder) : Token → Step
  | .comment contents => .done (b.addRootComment contents)
  | .doctype _ => .done b
  | .start tag => if tag.name = "html" then .done (b.mergeHtml tag) else .again (b.setMode .inBody)
  | .close _ => .again (b.setMode .inBody)
  | .text text =>
      if text.all Text.isMarkupBlank then b.inBody (.text text) else .again (b.setMode .inBody)
  | .done => .done b

/-! ## Sets of frames -/

def inFrameset (b : Builder) : Token → Step
  | .text text => .done (b.addText (text.filter Text.isMarkupBlank))
  | .comment contents => .done (b.addComment contents)
  | .doctype _ => .done b
  | .start tag =>
      if tag.name = "html" then .done (b.mergeHtml tag)
      else if tag.name = "frameset" then .done (b.openTag tag)
      else if tag.name = "frame" then .done (b.addVoid tag)
      else if tag.name = "noframes" then .done (b.openHeadContent tag)
      else .done b
  | .close name =>
      if name = "frameset" && b.stack.length > 1 then
        let b := b.pop
        .done (if b.currentName = "frameset" then b else b.setMode .afterFrameset)
      else .done b
  | .done => .done b

def afterFrameset (b : Builder) : Token → Step
  | .text text => .done (b.addText (text.filter Text.isMarkupBlank))
  | .comment contents => .done (b.addComment contents)
  | .start tag =>
      if tag.name = "html" then .done (b.mergeHtml tag)
      else if tag.name = "noframes" then .done (b.openHeadContent tag)
      else .done b
  | .close name => .done (if name = "html" then b.setMode .afterAfterFrameset else b)
  | .doctype _ | .done => .done b

def afterAfterFrameset (b : Builder) : Token → Step
  | .text text => b.inBody (.text (text.filter Text.isMarkupBlank))
  | .comment contents => .done (b.addRootComment contents)
  | .start tag =>
      if tag.name = "html" then .done (b.mergeHtml tag)
      else if tag.name = "noframes" then .done (b.openHeadContent tag)
      else .done b
  | .doctype _ | .close _ | .done => .done b

/-! ## All modes -/

def step (b : Builder) (token : Token) : Step :=
  match b.mode with
  | .initial => b.initial token
  | .beforeHtml => b.beforeHtml token
  | .beforeHead => b.beforeHead token
  | .inHead => b.inHead token
  | .afterHead => b.afterHead token
  | .inBody => b.inBody token
  | .inText => b.inText token
  | .inTable => b.inTable token
  | .inCaption => b.inCaption token
  | .inColumnGroup => b.inColumnGroup token
  | .inTableBody => b.inTableBody token
  | .inRow => b.inRow token
  | .inCell => b.inCell token
  | .inSelect => b.inSelect token
  | .inSelectInTable => b.inSelectInTable token
  | .inTemplate => b.inTemplate token
  | .afterBody => b.afterBody token
  | .afterAfterBody => b.afterAfterBody token
  | .inFrameset => b.inFrameset token
  | .afterFrameset => b.afterFrameset token
  | .afterAfterFrameset => b.afterAfterFrameset token

end ComponentMarkup.Html.Builder
