import ComponentMarkup.Annotated.Identify
import ComponentMarkup.Text.Blank

/-!
Text in the annotated tree. Unbound text keeps its node; bound text is cut into literals and a
placeholder for each expression.
-/

namespace ComponentMarkup

/-- Text as it is shown: as written, or with the blanks at its edges compacted. -/
def shownText (keepBlanks : Bool) (text : String) : String :=
  if keepBlanks then text else Text.compacted text

namespace Pass

/-- A child of text kind that holds a complete binding. -/
def hasBoundText (s : Pass) (node : NodeId) : Bool :=
  (s.document.children node).any fun child =>
    match s.document.text? child with
    | some text => Binding.hasBinding text
    | none => false

/-- From here on generated code builds the children of `id`. -/
def takeOverChildren (s : Pass) (id : AnnotatedId) : Pass :=
  s.update id fun a => { a with hasDataBinding := true, buildsChildren := true }

/-- A literal piece of a bound text, unless nothing of it is shown. -/
def addLiteral (s : Pass) (parent : AnnotatedId) (keepBlanks : Bool) (position : Position)
    (text : String) : Pass :=
  let shown := shownText keepBlanks text
  if shown.isEmpty then s
  else
    let (node, s) := s.addText shown position
    (s.annotate node (some parent) (.text none)).2

/-- The place where the value of an expression will stand. -/
def addPlaceholder (s : Pass) (parent : AnnotatedId) (position : Position) (expr : Binding.Expr) :
    Pass :=
  let (node, s) := s.addText "" position
  let (id, s) := s.annotate node (some parent) (.text (some expr))
  let (n, s) := s.draw
  s.update id fun a => { a with identifier := some (textIdentifier n) }

def splitText (s : Pass) (parent : AnnotatedId) (keepBlanks : Bool) (position : Position)
    (segments : Binding.Segments) : Pass :=
  let s := segments.bound.foldl
    (fun s (text, expr) =>
      (s.addLiteral parent keepBlanks position text).addPlaceholder parent position expr)
    s
  s.addLiteral parent keepBlanks position segments.tail

/-- Shows an unbound text, which vanishes when nothing of it is left. -/
def showText (s : Pass) (node : NodeId) (parent : AnnotatedId) (keepBlanks : Bool)
    (text : String) : Pass :=
  let shown := shownText keepBlanks text
  let s := if shown == text then s else s.mapDocument (·.setText node shown)
  if shown.isEmpty then s else (s.annotate node (some parent) (.text none)).2

def visitText (s : Pass) (around : Surroundings) (node : NodeId) (text : String) : Pass :=
  match around.parent with
  | none => s
  | some parent =>
      let segments := Binding.scan text
      if segments.bound.isEmpty then s.showText node parent around.keepBlanks text
      else
        (s.takeOverChildren parent).splitText parent around.keepBlanks (s.document.position node)
          segments

end Pass
end ComponentMarkup
