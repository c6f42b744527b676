import ComponentMarkup.Binding.Scan
import ComponentMarkup.Text.Quoted

/-!
What becomes of a bound attribute: the binding generated code keeps up to date, and the actions
that run on an event.
-/

namespace ComponentMarkup.Binding

inductive Style where
  | plain
  /-- The whole text of an inline style. -/
  | css
  /-- One binding for each bound token of a class list. -/
  | classTokens
  | twoWay
deriving DecidableEq, Repr

structure Attribute where
  exprs : List Expr
  /-- The literals around the expressions of an interpolation; none for a direct binding. -/
  literals : Option (List String)
  style : Style
deriving DecidableEq, Repr

namespace Attribute

def direct (expr : Expr) (style : Style) : Attribute := { exprs := [expr], literals := none, style }

def interpolation (exprs : List Expr) (literals : List String) (style : Style) : Attribute :=
  { exprs, literals := some literals, style }

/-- A lone expression is bound directly with style `alone`, and anything else as plain text. -/
def ofSegments (segments : Segments) (alone : Style) : Attribute :=
  match segments.single? with
  | some expr => direct expr alone
  | none => interpolation segments.exprs segments.texts .plain

def isDirect (a : Attribute) : Bool := a.literals.isNone

/-- The expression text of a direct binding. -/
def expression? (a : Attribute) : Option String :=
  match a.literals, a.exprs with
  | none, [expr] => some expr.text
  | _, _ => none

end Attribute

/-- What an event handler does with the event value. -/
inductive Action where
  | inline (code : String)
  | assignProperty (target property : String)
  | assignLiteral (target literal : String)
deriving DecidableEq, Repr

/-- The code of an action, where `event` names the event value. -/
def Action.render (event : String) : Action → String
  | .inline code => code
  | .assignProperty target property => target ++ " = " ++ event ++ "." ++ property
  | .assignLiteral target literal => target ++ " = " ++ Text.Quoted.literal literal

structure Handler where
  event : String
  action : Action
deriving DecidableEq, Repr

end ComponentMarkup.Binding
