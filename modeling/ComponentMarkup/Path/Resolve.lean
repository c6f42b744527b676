import ComponentMarkup.Path.Basic
import ComponentMarkup.Text.Blank
import ComponentMarkup.Text.Cut

/-!
Where the target of a link lies, as seen from the file that holds it.
-/

namespace ComponentMarkup

/-- A scheme is at least two letters, digits or `+-.` in front of the first colon. -/
def hasScheme (href : List Char) : Bool :=
  match Text.cutAt [':'] href with
  | some (before, _) =>
      before.length > 1 && before.all fun c => c.isAlphanum || c = '+' || c = '-' || c = '.'
  | none => false

/-- The target of `href` in the file `origin`, or none for a target outside the file graph.
`package:` targets lie under `packageRoot`. -/
def resolve (packageRoot : Path) (href : String) (origin : Path) : Option Path :=
  let href := Text.trimmed href
  if href.isEmpty then none
  else
    match Text.after? "package:" href with
    | some rest => some (packageRoot.join ⟨rest⟩).canonical
    | none =>
        if Text.startsWith href "//" || hasScheme href.toList then none
        else some (origin.parent.join ⟨href⟩).canonical

end ComponentMarkup
