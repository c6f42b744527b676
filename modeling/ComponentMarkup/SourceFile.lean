import ComponentMarkup.Annotated.Tree

/-!
All that is known about one file of a workspace.
-/

namespace ComponentMarkup

/-- The component each tag stands for, in the order in which the tags came into scope. -/
abbrev Scope := OrderedMap String ComponentId

structure SourceFile where
  path : Path
  isEntry : Bool
  document : Document
  declared : List ComponentId := []
  componentLinks : List Path := []
  stylesheetLinks : List Path := []
  scope : Scope := {}
  code : Option CodeUnit := none
  external : Option Path := none
  /-- The components used outside declarations, in order of first use. -/
  used : List ComponentId := []
  annotations : AnnotatedTree := {}

end ComponentMarkup
