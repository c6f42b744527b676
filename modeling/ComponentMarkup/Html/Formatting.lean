import ComponentMarkup.Html.Builder

/-!
Elements that format what is in them. Where they are closed by accident they are opened again, and
where they are closed around a block that is still open they are taken apart: one copy stays outside
the block and one goes inside.
-/

namespace ComponentMarkup.Html.Builder

/-! ## Formatting in force -/

def addMarker (b : Builder) : Builder := { b with formatting := .marker :: b.formatting }

/-- Forgets the formatting since the last marker, and the marker. -/
def clearFormatting (b : Builder) : Builder :=
  { b with
    formatting := (b.formatting.dropWhile fun f =>
      match f with
      | .marker => false
      | .element _ => true).drop 1 }

/-- The formatting since the last marker, latest first. -/
def sinceMarker : List Formatting → List OpenElement
  | .element e :: rest => e :: sinceMarker rest
  | _ => []

def sameFormat (a b : OpenElement) : Bool :=
  a.name = b.name && a.attributes.entries.length = b.attributes.entries.length &&
    a.attributes.entries.all fun (name, value) => b.attributes.find? name == some value

def dropFormat (b : Builder) (node : NodeId) : Builder :=
  { b with
    formatting := b.formatting.filter fun f =>
      match f with
      | .marker => true
      | .element e => e.node != node }

/-- Puts an element's formatting in force. Of the same formatting at most three are kept. -/
def pushFormat (b : Builder) (e : OpenElement) : Builder :=
  let same := (sinceMarker b.formatting).filter (sameFormat e)
  let b := match same.drop 2 with
    | oldest :: _ => b.dropFormat oldest.node
    | [] => b
  { b with formatting := .element e :: b.formatting }

def replaceFormat (b : Builder) (node : NodeId) (e : OpenElement) : Builder :=
  { b with
    formatting := b.formatting.map fun f =>
      match f with
      | .marker => .marker
      | .element old => if old.node == node then .element e else .element old }

/-- Reopens formatting that is in force and not open. -/
def reopenFormatting (b : Builder) : Builder :=
  let closed := (sinceMarker b.formatting).takeWhile fun e => !b.isOnStack e.node
  closed.reverse.foldl
    (fun b e =>
      let (fresh, b) := b.openAt b.spot e.name .html e.attributes
      b.replaceFormat e.node fresh)
    b

/-- Opens an element that formats what is in it. -/
def openFormatting (b : Builder) (tag : Tag) : Builder :=
  let (e, b) := b.openAt b.spot tag.name .html tag.attributes
  b.pushFormat e

/-! ## Closing formatting -/

def isSpecialElement (e : OpenElement) : Bool := e.space = .html && isSpecial e.name

/-- Closes the innermost element of a name, unless a special element is in between. -/
def closeNamed (b : Builder) (name : String) : Builder :=
  match b.stack.find? fun e => (e.space = .html && e.name = name) || isSpecialElement e with
  | some e =>
      if e.space = .html && e.name = name then
        let b := b.popImplied name
        { b with stack := (b.stack.dropWhile (·.node != e.node)).drop 1 }
      else b
  | none => b

def isInForce (b : Builder) (node : NodeId) : Bool :=
  b.formatting.any fun f =>
    match f with
    | .marker => false
    | .element e => e.node == node

/-- An element with the name and the attributes of another one, that stands nowhere yet. -/
def copy (b : Builder) (e : OpenElement) : OpenElement × Builder :=
  let (node, document) := b.document.add (.element e.name e.attributes) {}
  ({ e with node, space := .html }, { b with document })

def dropOpen (b : Builder) (node : NodeId) : Builder :=
  { b with stack := b.stack.filter (·.node != node) }

def replaceOpen (b : Builder) (node : NodeId) (e : OpenElement) : Builder :=
  { b with stack := b.stack.map fun old => if old.node == node then e else old }

def moveTo (b : Builder) (spot : Spot) (node : NodeId) : Builder :=
  { b with document := placeAt b.document spot node }

/-- A block on its way out of formatting. -/
structure Adoption where
  builder : Builder
  /-- The outermost element that moves. -/
  last : NodeId
  /-- The first copy that was made of formatting inside the one that is closed. -/
  copied : Option NodeId := none

/-- Goes past an element between the block and the formatting that is closed. The three nearest to
the block are copied around it as far as they are formatting in force; the others are closed. -/
def Adoption.pass (a : Adoption) (distance : Nat) (e : OpenElement) : Adoption :=
  let b := a.builder
  if distance ≥ 3 || !b.isInForce e.node then
    { a with builder := (b.dropFormat e.node).dropOpen e.node }
  else
    let (fresh, b) := b.copy e
    let b := (b.replaceFormat e.node fresh).replaceOpen e.node fresh
    { builder := b.moveTo { parent := fresh.node } a.last, last := fresh.node
      copied := a.copied.or (some fresh.node) }

/-- Takes `old` out of force and puts `e` in its place, or right behind the formatting `after`. -/
def renewFormat (b : Builder) (old : NodeId) (after : Option NodeId) (e : OpenElement) : Builder :=
  match after with
  | none => b.replaceFormat old e
  | some after =>
      let renewed := b.formatting.flatMap fun f =>
        match f with
        | .marker => [f]
        | .element found => if found.node == after then [.element e, f] else [f]
      { b with formatting := renewed }.dropFormat old

/-- Takes formatting apart around a block inside it. -/
def adopt (b : Builder) (format block : OpenElement) : Builder :=
  let inside := b.stack.takeWhile (·.node != format.node)
  let between := (inside.dropWhile (·.node != block.node)).drop 1
  let outer := ((b.stack.dropWhile (·.node != format.node)).drop 1).head?
  let start : Adoption := { builder := b, last := block.node }
  let a := between.zipIdx.foldl (fun a (e, distance) => a.pass distance e) start
  let spot : Spot := match outer with
    | some e => a.builder.spotIn e
    | none => { parent := Document.root }
  let (fresh, b) := (a.builder.moveTo spot a.last).copy format
  let b := (b.document.children block.node).foldl (·.moveTo { parent := fresh.node } ·) b
  let b := (b.moveTo { parent := block.node } fresh.node).renewFormat format.node a.copied fresh
  let stack := b.stack.flatMap fun e =>
    if e.node == block.node then [fresh, e] else if e.node == format.node then [] else [e]
  { b with stack }

/-- Whether an element is open and nothing hides it. -/
def isInScope (b : Builder) (node : NodeId) : Bool :=
  (b.stack.find? fun e => e.node == node || boundsScope e.space e.name).any (·.node == node)

/-- Closes formatting round by round, each of which takes the outermost block out of it. -/
def closeFormattingFor (name : String) : Nat → Builder → Builder
  | 0, b => b
  | rounds + 1, b =>
      match (sinceMarker b.formatting).find? (·.name = name) with
      | none => b.closeNamed name
      | some e =>
          if !b.isOnStack e.node then b.dropFormat e.node
          else if !b.isInScope e.node then b
          else
            match (b.stack.takeWhile (·.node != e.node)).reverse.find? isSpecialElement with
            | some block => closeFormattingFor name rounds (b.adopt e block)
            | none =>
                let b := b.dropFormat e.node
                { b with stack := (b.stack.dropWhile (·.node != e.node)).drop 1 }

/-- Closes formatting and takes it out of force. -/
def closeFormatting (b : Builder) (name : String) : Builder :=
  match b.current? with
  | some e =>
      if e.space = .html && e.name = name && !b.isInForce e.node then b.pop
      else closeFormattingFor name 8 b
  | none => b

end ComponentMarkup.Html.Builder
