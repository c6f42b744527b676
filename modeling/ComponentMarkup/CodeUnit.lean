import ComponentMarkup.Path.Basic
import ComponentMarkup.Position

/-!
Script modules that belong to a file or to a component declaration.
-/

namespace ComponentMarkup

structure CodeUnit where
  path : Path
  source : String
  start : Position
  /-- The library the unit is a part of, when its directives name one. -/
  partOf : Option String
  /-- The names declared at the top level, in source order. -/
  declarations : List String

/-- A unit that is not a part of another is a library of its own. -/
def CodeUnit.isLibrary (unit : CodeUnit) : Bool := unit.partOf.isNone

end ComponentMarkup
