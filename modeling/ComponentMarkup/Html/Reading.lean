import ComponentMarkup.Document.Forest
import ComponentMarkup.Html.Foreign
import ComponentMarkup.Html.Locator

/-!
Documents read from markup. Elements get the place of their start tag, and text and comments that
of the element around them.
-/

namespace ComponentMarkup.Html

namespace Builder

/-! ## Reading tokens -/

/-- Reads a token by the rules in force until one of them is done with it. Every other reading
leaves an element or a part of the document, so `fuel` need not exceed their number. -/
def read : Nat → Builder → Token → Builder
  | 0, b, _ => b
  | fuel + 1, b, token =>
      match if b.isForeign token then b.inForeign token else b.step token with
      | .done b => b
      | .again b => read fuel b token

def readWhole (b : Builder) (token : Token) : Builder := read (b.stack.length + 32) b token

/-- Outside the body the blanks at the start of a text are read apart from the rest of it. -/
def readBlanks (b : Builder) (blanks : List Char) : Builder :=
  match b.mode with
  | .initial | .beforeHtml | .beforeHead => b
  | .inHead | .afterHead => b.addText blanks
  | _ => b.readWhole (.text blanks)

def readTextToken (b : Builder) (text : List Char) : Builder :=
  if b.isForeign (.text text) then b.readWhole (.text text)
  else
    match b.mode with
    | .initial | .beforeHtml | .beforeHead | .inHead | .afterHead | .inColumnGroup | .afterBody
    | .afterAfterBody =>
        let b := b.readBlanks (text.takeWhile Text.isMarkupBlank)
        let rest := text.dropWhile Text.isMarkupBlank
        if rest.isEmpty then b else b.readWhole (.text rest)
    | _ => b.readWhole (.text text)

/-- Drops a line feed at the start of a text. -/
def withoutBreak : List Char → List Char
  | '\n' :: rest => rest
  | text => text

def feed (b : Builder) (token : Token) : Builder :=
  let skips := b.skipsBreak
  let b := { b with skipsBreak := false }
  match token with
  | .text text =>
      let text := if skips then withoutBreak text else text
      if text.isEmpty then b else b.readTextToken text
  | token => b.readWhole token

/-- Reads a text to its end. Behind a fault no line feed is dropped, nor one that the fault spells.
Every token but the last takes a character, so `fuel` need not exceed the length of the text by more
than one. -/
def readAll : Nat → Builder → List Char → Builder
  | 0, b, _ => b
  | fuel + 1, b, cs =>
      let b := { b with skipsBreak := b.skipsBreak && !isFaulty b.textMode cs }
      match nextToken b.textMode (b.current?.any (·.space ≠ .html)) cs with
      | (.done, _) => b.feed .done
      | (token, rest) => readAll fuel (b.feed token) rest

end Builder

/-! ## Documents -/

/-- The tree of a text, in the spelling the markup gives its names. -/
def parseTree (source : String) : Document :=
  let cs := normalizeBreaks source.toList
  let cs := match cs with
    | '\ufeff' :: rest => rest
    | _ => cs
  (Builder.readAll (cs.length + 1) {} cs).document

/-- Adds a node of the tree under `parent`, which stands at `around`; elements that the markup
implied have no place. -/
def addRead (data : NodeData) (parent : NodeId) (around : Position) (l : Locator) (d : Document) :
    NodeId × Position × Locator × Document :=
  match data with
  | .element tag attributes =>
      let (position, l) := (l.locate tag).getD ({}, l)
      let (node, d) := d.createElement tag position
      let d := attributes.entries.foldl (fun d (name, value) => d.setAttribute node name value) d
      (node, position, l, d.append parent node)
  | .doctype _ =>
      let (node, d) := d.add data {}
      (node, {}, l, d.append parent node)
  | _ =>
      let (node, d) := d.add data around
      (node, around, l, d.append parent node)

def addForest (tree : Document) : Forest → NodeId → Position → Locator → Document →
    Locator × Document
  | .nil, _, _, l, d => (l, d)
  | .cons id children rest, parent, around, l, d =>
      match tree.data? id with
      | none => addForest tree rest parent around l d
      | some data =>
          let (node, position, l, d) := addRead data parent around l d
          let (l, d) := addForest tree children node position l d
          addForest tree rest parent around l d

end Html

/-- The document that a text describes. -/
def Document.ofMarkup (source : String) : Document :=
  let tree := Html.parseTree source
  (Html.addForest tree (tree.below root) root {} (.new source) .empty).2

end ComponentMarkup
