import ComponentMarkup.Annotated.Pass
import ComponentMarkup.Text.Casing
import ComponentMarkup.Text.Cut

/-!
Two-way bindings: a property of an element follows an expression, and an event of the element
writes the property back to it.
-/

namespace ComponentMarkup

/-- Properties that elements have natively. Attribute names reach them in small letters. -/
def knownProperties : List String :=
  ["checked", "value", "selectedIndex", "valueAsDate", "valueAsNumber"]

/-- The property that a hyphenated attribute name means, in the spelling it natively has. -/
def canonicalProperty (name : String) : String :=
  let camel := Text.camelCased name
  (knownProperties.find? (Text.sameLetters · camel)).getD camel

def changeEvent : String := "onChange"

def inputEvent : String := "onInput"

/-- How a two-way attribute is bound. -/
inductive TwoWay where
  | native (event : String)
  | radioChecked
  | radioValue
  | component
  | rejected (problem : Problem)

/-- What an element of tag `tag` and type `type` makes of a two-way binding of `property`. -/
def TwoWay.choose (tag type property name : String) (isComponent : Bool) : TwoWay :=
  if tag = "input" && property = "checked" then
    if type = "radio" then .radioChecked
    else if type = "checkbox" then .native changeEvent
    else .rejected .checkedUnsupported
  else if tag = "select" && (property = "selectedIndex" || property = "value") then
    .native changeEvent
  else if tag = "input" && property = "value" && type = "radio" then .radioValue
  else if tag = "textarea" && property = "value" then .native inputEvent
  else if tag = "input" &&
      (property = "value" || property = "valueAsDate" || property = "valueAsNumber") then
    .native inputEvent
  else if isComponent then .component
  else .rejected (.unknownTwoWay name)

namespace Pass

/-- An attribute of the same name as a bound property gives way to the binding. -/
def shadow (s : Pass) (id : AnnotatedId) (node : NodeId) (property : String) : Pass :=
  let name := Text.lowered property
  if s.document.hasAttribute node name then (s.report (.shadowedAttribute name) node).strip id name
  else s

/-- Binds `property` to `expr` and lets `event` run `action`. -/
def install (s : Pass) (id : AnnotatedId) (node : NodeId) (property expr event : String)
    (action : Binding.Action) : Pass :=
  ((s.shadow id node property).bind id property (.direct (.ofText expr) .plain)).handle id event
    action

/-- The condition under which a radio button with the value `value` is checked. -/
def radioCondition (expr value : String) : String := expr ++ " == " ++ Text.Quoted.literal value

/-- Binds the attribute `name` with value `value` to `property`. Both ways to bind a radio button
end at `checked`, so the first one keeps the other out. -/
def bindTwoWay (s : Pass) (id : AnnotatedId) (node : NodeId) (name property value : String) :
    Pass :=
  let tag := (s.document.tag? node).getD ""
  let type := Text.lowered (Text.trimmed ((s.document.attribute? node "type").getD ""))
  let expr := Text.trimmed value
  match TwoWay.choose tag type property name (s.component? id).isSome with
  | .native event =>
      (s.install id node property expr event (.assignProperty expr property)).strip id name
  | .radioChecked =>
      if s.hasBinding id "checked" then s.report .radioTwice node
      else
        (s.install id node property expr changeEvent (.assignProperty expr property)).strip id name
  | .radioValue =>
      match s.document.attribute? node "value" with
      | none => s.report .radioWithoutValue node
      | some static =>
          if s.hasBinding id "checked" then s.report .radioTwice node
          else
            (s.install id node "checked" (radioCondition expr static) changeEvent
              (.assignLiteral expr static)).strip id name
  | .component => (s.bind id property (.direct (.ofText expr) .twoWay)).strip id name
  | .rejected problem => s.report problem node

end Pass
end ComponentMarkup
