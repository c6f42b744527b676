import ComponentMarkup.Annotated.TwoWay
import ComponentMarkup.Tag

/-!
The bindings that the attributes of an element ask for.
-/

namespace ComponentMarkup

/-- Attributes that steer the pass itself and are never bound. -/
def directiveNames : List String := ["if", "iterate", "instantiate", "template", "indentation"]

namespace Pass

/-- `on-` opens the name of an event; any other name in `on` is left to the browser. -/
def bindEvent (s : Pass) (id : AnnotatedId) (node : NodeId) (name value : String) : Pass :=
  if Text.startsWith name "on-" then
    (s.handle id (Text.camelCased name) (.inline (Text.trimmed value))).strip id name
  else s.report (.nativeHandler name) node

def bindStyle (s : Pass) (id : AnnotatedId) (value : String) : Pass :=
  let segments := Binding.scan value
  if segments.bound.isEmpty then s
  else (s.bind id "style" (.ofSegments segments .css)).strip id "style"

/-- The words of the literal text around the bindings of a class list. -/
def staticClasses (segments : Binding.Segments) : List String :=
  segments.texts.flatMap fun text => (Text.words text.toList).map String.ofList

/-- A bound class list keeps its static words in place. -/
def bindClass (s : Pass) (id : AnnotatedId) (node : NodeId) (value : String) : Pass :=
  let segments := Binding.scan value
  if segments.bound.isEmpty then s
  else
    let classes := staticClasses segments
    let s := s.mapDocument fun d =>
      if classes.isEmpty then d.removeAttribute node "class"
      else d.setAttribute node "class" (" ".intercalate classes)
    s.bind id "class" { exprs := segments.exprs, literals := none, style := .classTokens }

/-- Any other attribute. Static text still reaches a component as an input. -/
def bindGeneric (s : Pass) (id : AnnotatedId) (name value : String) : Pass :=
  let segments := Binding.scan value
  if segments.bound.isEmpty then
    if (s.component? id).isSome && !Tag.isGlobalAttribute name && name != "is" then
      s.bind id name (.interpolation [] [value] .plain)
    else s
  else (s.bind id name (.ofSegments segments .plain)).strip id name

def bindAttribute (id : AnnotatedId) (node : NodeId) (s : Pass) (name value : String) : Pass :=
  if directiveNames.contains name || s.isStripped id name then s
  else if Text.startsWith name "on" then s.bindEvent id node name value
  else
    match Text.after? "bind-" name with
    | some property => s.bindTwoWay id node name (canonicalProperty property) value
    | none =>
        if name = "style" then s.bindStyle id value
        else if name = "class" then s.bindClass id node value
        else s.bindGeneric id name value

/-- Binds the attributes that `node` has now, in their order. -/
def bindAttributes (s : Pass) (id : AnnotatedId) (node : NodeId) : Pass :=
  match s.document.attributes? node with
  | none => s
  | some attributes =>
      attributes.entries.foldl (fun s (name, value) => bindAttribute id node s name value) s

end Pass
end ComponentMarkup
