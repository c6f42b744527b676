import ComponentMarkup.Html.Modes

/-!
The rules for elements of the svg and math vocabularies, and for what is markup inside them.
-/

namespace ComponentMarkup.Html.Builder

/-- Elements whose contents are markup, among them some of the foreign vocabularies. -/
def holdsMarkup (e : OpenElement) : Bool := e.space = .html || isForeignHolder e.space e.name

/-- Whether an element explains a formula in another form. -/
def annotates (e : OpenElement) : Bool := e.space = .math && e.name = "annotation-xml"

/-- Whether an element is an annotation and says that it holds markup. -/
def annotatesMarkup (e : OpenElement) : Bool :=
  annotates e && (e.attributes.find? "encoding").any fun encoding =>
    Text.sameLetters encoding "text/html" || Text.sameLetters encoding "application/xhtml+xml"

/-- Whether a start tag inside a foreign element opens no foreign one. -/
def opensMarkup (e : OpenElement) (name : String) : Bool :=
  annotatesMarkup e || (annotates e && name = "svg") ||
    (holdsMarkup e && !(e.space = .math && ["mglyph", "malignmark"].contains name))

/-- Whether a token is read by the rules for foreign elements. -/
def isForeign (b : Builder) (token : Token) : Bool :=
  match b.current?, token with
  | none, _ => false
  | some _, .done => false
  | some e, .start tag => !opensMarkup e tag.name
  | some e, .text _ => !(holdsMarkup e || annotatesMarkup e)
  | some e, _ => e.space ≠ .html

/-- Leaves the foreign elements that are open, up to one that holds markup. -/
def leaveForeign (b : Builder) : Builder :=
  { b with stack := b.stack.dropWhile (!holdsMarkup ·) }

/-- Closes the innermost foreign element of a name; none when markup is met first. -/
def closeForeign (name : String) : List OpenElement → Option (List OpenElement)
  | [] => none
  | e :: outer =>
      if e.space = .html then none
      else if Text.lowered e.name == name then some outer
      else closeForeign name outer

def inForeign (b : Builder) (token : Token) : Step :=
  match token with
  | .text text =>
      let canFrame := b.canFrame && text.all fun c => Text.isMarkupBlank c || c = '\x00'
      .done ({ b with canFrame }.addText (replaceNul text))
  | .comment contents => .done (b.addComment contents)
  | .doctype _ => .done b
  | .start tag =>
      let styled := tag.name = "font" &&
        ["color", "face", "size"].any tag.attributes.contains
      if leavesForeign tag.name || styled then b.leaveForeign.step token
      else
        match b.current? with
        | some e => .done (b.openForeign tag e.space)
        | none => .done b
  | .close name =>
      if name = "br" || name = "p" then b.leaveForeign.step token
      else
        match closeForeign name b.stack with
        | some stack => .done { b with stack }
        | none => b.step token
  | .done => b.step token

end ComponentMarkup.Html.Builder
