import ComponentMarkup.Html.Doctype
import ComponentMarkup.Html.Reference
import ComponentMarkup.Ordered
import ComponentMarkup.Text.Blank
import ComponentMarkup.Text.Casing

/-!
Markup as tokens: tags, comments, document types and runs of text between them.
-/

namespace ComponentMarkup.Html

structure Tag where
  name : String
  attributes : OrderedMap String String := {}
  selfClosing : Bool := false

inductive Token where
  | doctype (type : Doctype)
  | start (tag : Tag)
  | close (name : String)
  | comment (contents : String)
  | text (contents : List Char)
  | done

/-- How text is read: with tags and references, with references up to an end tag, or as it is up to
an end tag or to the end. -/
inductive TextMode where
  | markup
  | escapable (tag : String)
  | raw (tag : String)
  | script
  | plain
deriving DecidableEq

/-- Line breaks in any spelling are read as line feeds. -/
def normalizeBreaks : List Char → List Char
  | '\r' :: '\n' :: rest => '\n' :: normalizeBreaks rest
  | '\r' :: rest => '\n' :: normalizeBreaks rest
  | c :: rest => c :: normalizeBreaks rest
  | [] => []

def replaceNul (cs : List Char) : List Char := cs.map fun c => if c = '\x00' then '\ufffd' else c

def loweredText (cs : List Char) : String := String.ofList (replaceNul (cs.map Char.toLower))

def skipBlanks (cs : List Char) : List Char := cs.dropWhile Text.isMarkupBlank

/-! ## Tags -/

def endsName (c : Char) : Bool := Text.isMarkupBlank c || c = '/' || c = '>'

/-- The value of an attribute and what follows it; none where the text ends inside the value. -/
def readValue? (cs : List Char) : Option (List Char × List Char) :=
  match cs with
  | [] => none
  | q :: rest =>
      if q = '"' || q = '\'' then
        match rest.dropWhile (· != q) with
        | [] => none
        | _ :: after => some (rest.takeWhile (· != q), after)
      else
        let ends := fun c => Text.isMarkupBlank c || c = '>'
        some (cs.takeWhile (!ends ·), cs.dropWhile (!ends ·))

def addAttribute (attributes : OrderedMap String String) (name value : List Char) :
    OrderedMap String String :=
  let name := loweredText name
  if attributes.contains name then attributes
  else
    attributes.insert name (String.ofList (replaceNul (dereference true (value.length + 1) value)))

/-- Reads attributes up to the end of the tag, the first of each name; none where the text ends
inside the tag. Every attribute takes a character, so `fuel` need not exceed the length of the
text. -/
def readAttributes? : Nat → OrderedMap String String → List Char →
    Option (OrderedMap String String × Bool × List Char)
  | 0, _, _ => none
  | fuel + 1, attributes, cs =>
      match skipBlanks cs with
      | [] => none
      | '>' :: rest => some (attributes, false, rest)
      | '/' :: '>' :: rest => some (attributes, true, rest)
      | '/' :: rest => readAttributes? fuel attributes rest
      | first :: rest =>
          let ends := fun c => endsName c || c = '='
          let name := first :: rest.takeWhile (!ends ·)
          match skipBlanks (rest.dropWhile (!ends ·)) with
          | '=' :: rest =>
              match readValue? (skipBlanks rest) with
              | none => none
              | some (value, rest) => readAttributes? fuel (addAttribute attributes name value) rest
          | rest => readAttributes? fuel (addAttribute attributes name []) rest

/-- Reads a tag from its name on. -/
def readTag? (cs : List Char) : Option (Tag × List Char) :=
  let name := cs.takeWhile (!endsName ·)
  (readAttributes? (cs.length + 1) {} (cs.dropWhile (!endsName ·))).map
    fun (attributes, selfClosing, rest) =>
      ({ name := loweredText name, attributes, selfClosing }, rest)

/-! ## Comments and document types -/

/-- Takes off the end of a comment that the text did not finish. -/
def unfinishedComment (cs : List Char) : List Char :=
  match cs.reverse with
  | '!' :: '-' :: '-' :: rest | '-' :: '-' :: rest | '-' :: rest => rest.reverse
  | _ => cs

/-- Reads a comment up to the mark that ends it. -/
def readComment : List Char → List Char × List Char
  | [] => ([], [])
  | '-' :: '-' :: '>' :: rest | '-' :: '-' :: '!' :: '>' :: rest => ([], rest)
  | c :: rest =>
      let (contents, rest) := readComment rest
      (c :: contents, rest)

def commentToken (cs : List Char) : Token × List Char :=
  match cs with
  | '>' :: rest | '-' :: '>' :: rest => (.comment "", rest)
  | _ =>
      let (contents, rest) := readComment cs
      let whole := contents.length = cs.length
      let contents := if whole then unfinishedComment contents else contents
      (.comment (String.ofList (replaceNul contents)), rest)

/-- What looks like a declaration is a comment up to the next `>`. -/
def declarationToken (cs : List Char) : Token × List Char :=
  (.comment (String.ofList (replaceNul (cs.takeWhile (· != '>')))),
    (cs.dropWhile (· != '>')).drop 1)

/-- Nothing in a document type, not even a quote, hides the mark that ends it. -/
def doctypeToken (cs : List Char) : Token × List Char :=
  let inside := skipBlanks (cs.takeWhile (· != '>'))
  let ends := Text.isMarkupBlank
  let name := loweredText (inside.takeWhile (!ends ·))
  let doctype : Doctype := { name }
  (.doctype (doctype.readIds (skipBlanks (inside.dropWhile (!ends ·)))),
    (cs.dropWhile (· != '>')).drop 1)

/-! ## Text -/

/-- Whether a `<` before these characters starts a tag, a comment or the like. -/
def opensMarkup : List Char → Bool
  | [] => false
  | '/' :: rest => !rest.isEmpty
  | c :: _ => c.isAlpha || c = '!' || c = '?'

/-- Puts a character in front of the first of some pieces. -/
def lead (c : Char) : List (List Char) → List (List Char)
  | [] => [[c]]
  | first :: rest => (c :: first) :: rest

/-- Reads text up to the next markup, in the pieces between end tags without a name, which are
skipped. -/
def readText : List Char → List (List Char) × List Char
  | [] => ([], [])
  | '<' :: '/' :: '>' :: rest => (readText rest).map ([] :: ·) id
  | '<' :: rest => if opensMarkup rest then ([], '<' :: rest) else (readText rest).map (lead '<') id
  | c :: rest => (readText rest).map (lead c) id

/-- What follows `</tag`, when an end tag of that name starts here. -/
def afterEndTag? (tag : List Char) (cs : List Char) : Option (List Char) :=
  match cs with
  | '<' :: '/' :: rest =>
      if (rest.take tag.length).map Char.toLower == tag then
        match rest.drop tag.length with
        | c :: after => if endsName c then some (c :: after) else none
        | [] => none
      else none
  | _ => none

/-- Reads text up to an end tag of the given name. -/
def readUntilEnd (tag : List Char) : List Char → List Char × List Char
  | [] => ([], [])
  | c :: rest =>
      if (afterEndTag? tag (c :: rest)).isSome then ([], c :: rest)
      else
        let (contents, rest) := readUntilEnd tag rest
        (c :: contents, rest)

/-- Where in a script the reading stands: in code, in a comment, or in a script inside that. -/
inductive ScriptPart where
  | code
  | comment
  | nested
deriving DecidableEq

/-- Whether a script tag starts here, behind its `<` and slash. -/
def opensScript (cs : List Char) : Bool :=
  (cs.take 6).map Char.toLower == "script".toList &&
    match (cs.drop 6).head? with
    | some c => endsName c
    | none => false

def scriptPart (part : ScriptPart) (cs : List Char) : ScriptPart :=
  match part, cs with
  | .code, '<' :: '!' :: '-' :: '-' :: _ => .comment
  | .comment, '<' :: rest => if opensScript rest then .nested else part
  | .nested, '<' :: '/' :: rest => if opensScript rest then .comment else part
  | .comment, '-' :: '-' :: '>' :: _ | .nested, '-' :: '-' :: '>' :: _ => .code
  | _, _ => part

/-- Reads a script up to the end tag that ends it. -/
def readScript (part : ScriptPart) : List Char → List Char × List Char
  | [] => ([], [])
  | c :: rest =>
      if part ≠ .nested && (afterEndTag? "script".toList (c :: rest)).isSome then ([], c :: rest)
      else
        let (contents, rest) := readScript (scriptPart part (c :: rest)) rest
        (c :: contents, rest)

/-! ## Tokens -/

def isDoctype (cs : List Char) : Bool := (cs.take 7).map Char.toLower == "doctype".toList

/-- Reads the text of a section up to its end. -/
def readSection : List Char → List Char × List Char
  | [] => ([], [])
  | ']' :: ']' :: '>' :: rest => ([], rest)
  | c :: rest =>
      let (contents, rest) := readSection rest
      (c :: contents, rest)

/-- The token of the markup that starts behind a `<`. `sections` says whether text can stand in
sections, where no character opens markup. -/
def markupToken (sections : Bool) (cs : List Char) : Token × List Char :=
  match cs with
  | '!' :: '-' :: '-' :: rest => commentToken rest
  | '!' :: rest =>
      if isDoctype rest then doctypeToken (rest.drop 7)
      else if sections && "[CDATA[".toList.isPrefixOf rest then
        (readSection (rest.drop 7)).map .text id
      else declarationToken rest
  | '/' :: rest =>
      match rest with
      | c :: _ =>
          if c.isAlpha then
            match readTag? rest with
            | some (tag, rest) => (.close tag.name, rest)
            | none => (.done, [])
          else declarationToken rest
      | [] => (.done, [])
  | '?' :: _ => declarationToken cs
  | _ =>
      match readTag? cs with
      | some (tag, rest) => (.start tag, rest)
      | none => (.done, [])

def resolveReferences (cs : List Char) : List Char := dereference false (cs.length + 1) cs

/-- The end tag that the text stopped at, or the end of the text. -/
def endToken (sections : Bool) (cs : List Char) : Token × List Char :=
  match cs with
  | '<' :: rest => markupToken sections rest
  | _ => (.done, [])

/-- The text up to the next markup, and what follows it. -/
def readRun (mode : TextMode) (cs : List Char) : List Char × List Char :=
  match mode with
  | .markup => (readText cs).map (·.flatMap resolveReferences) id
  | .escapable tag =>
      (readUntilEnd tag.toList cs).map (fun text => resolveReferences (replaceNul text)) id
  | .raw tag => (readUntilEnd tag.toList cs).map replaceNul id
  | .script => (readScript .code cs).map replaceNul id
  | .plain => (replaceNul cs, [])

/-- The next token, read in the given mode, and what follows it. -/
def nextToken (mode : TextMode) (sections : Bool) (cs : List Char) : Token × List Char :=
  let (text, rest) := readRun mode cs
  if text.isEmpty then endToken sections rest else (.text text, rest)

/-- Whether a fault stands right here in a text: an end tag without a name, or a reference by number
without its semicolon. -/
def isFaulty (mode : TextMode) (cs : List Char) : Bool :=
  match mode, cs with
  | .markup, '<' :: '/' :: '>' :: _ => true
  | .markup, '&' :: '#' :: rest | .escapable _, '&' :: '#' :: rest => !hasSemicolon rest
  | _, _ => false

end ComponentMarkup.Html
