import ComponentMarkup.CodeUnit
import ComponentMarkup.Diagnostic
import ComponentMarkup.Script.Statement
import ComponentMarkup.Text.Blank

/-!
Code units read from scripts.
-/

namespace ComponentMarkup

/-- The library that a directive makes its script a part of. -/
def partOfDirective? (directive : String) : Option String :=
  (Text.after? "part of " directive).map Text.trimmed

/-- Reads a script. One that is not well formed declares nothing. -/
def CodeUnit.read (path : Path) (source : String) (start : Position) : CodeUnit × Diagnostics :=
  match Script.parse? path.isTyped source with
  | some m =>
      ({ path, source, start, partOf := m.directives.findSome? partOfDirective?
         declarations := m.names }, [])
  | none =>
      ({ path, source, start, partOf := none, declarations := [] }, [⟨.syntaxError, path, start⟩])

end ComponentMarkup
