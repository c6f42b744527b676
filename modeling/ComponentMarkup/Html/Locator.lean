import ComponentMarkup.Position
import ComponentMarkup.Text.Blank
import ComponentMarkup.Text.Casing
import ComponentMarkup.Text.Cut

/-!
Finding start tags in a source, from the top to the bottom.
-/

namespace ComponentMarkup

/-- The place behind a character. -/
def Position.past (p : Position) (c : Char) : Position :=
  if c = '\n' then ⟨p.line + 1, 1⟩ else ⟨p.line, p.column + c.utf8Size⟩

namespace Html

/-- What is left of the source, in ASCII lower case, and where it starts. -/
structure Locator where
  rest : List Char
  position : Position := ⟨1, 1⟩

namespace Locator

def new (source : String) : Locator := { rest := source.toList.map Char.toLower }

/-- Whether a tag name ends before these characters. -/
def endsHere : List Char → Bool
  | [] => true
  | c :: _ => Text.isMarkupBlank c || c = '>' || c = '/'

/-- Looks for `mark` where a name ends behind it, and gives its place and what follows it. The
first `skip` characters cannot start a match. -/
def seek (mark : List Char) : Nat → Position → List Char → Option (Position × List Char)
  | _, _, [] => none
  | skip + 1, p, c :: rest => seek mark skip (p.past c) rest
  | 0, p, c :: rest =>
      match Text.afterLead? mark (c :: rest) with
      | none => seek mark 0 (p.past c) rest
      | some after =>
          if endsHere after then some (p, after) else seek mark (mark.length - 1) (p.past c) rest

/-- The place of the next start tag of this name. Without one the locator stays where it is. -/
def locate (l : Locator) (tag : String) : Option (Position × Locator) :=
  let mark := '<' :: tag.toList
  (seek mark 0 l.position l.rest).map fun (found, rest) =>
    (found, { rest, position := mark.foldl Position.past found })

end Locator
end Html
end ComponentMarkup
