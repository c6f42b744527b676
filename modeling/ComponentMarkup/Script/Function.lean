import ComponentMarkup.Script.TypeExpr

/-!
Functions: their heads, their bodies, and arrow functions.
-/

namespace ComponentMarkup.Script.Grammar
open ComponentMarkup.Script.Parser

/-- Braces with statements between them. -/
def block (g : Grammar) : Parser Unit := do
  expectMark "\x7b"
  within (fun c => { c with allowsIn := true, decorates := false, asksTypes := true }) do
    many do
      if ← isMark "\x7d" then return false
      let _ ← g.statement
      return true
  expectMark "\x7d"

/-- What stands between the name of a function and its body. -/
structure Head where
  hasTypes : Bool
  arity : Arity
  hasResult : Bool

def head (g : Grammar) (role : Role) : Parser Head := do
  let hasTypes ← g.typeParameters
  let arity ← g.parameters role
  let hasResult ← g.resultNote
  return { hasTypes, arity, hasResult }

/-- The kind of a function: whether it can wait, and whether it hands out values. -/
structure Pace where
  isAsync : Bool := false
  isGenerator : Bool := false

/-- Reads a part of a function in its surroundings. -/
def paced {α : Type} (pace : Pace) (p : Parser α) : Parser α :=
  within (fun c => { c with
    allowsIn := true, decorates := false, awaits := pace.isAsync, yields := pace.isGenerator }) p

def functionBody (g : Grammar) : Parser Unit :=
  within (fun c => { c with returns := true }) g.block

/-- A function from its head on. With types, it can be described without a body; says whether it
has one. -/
def functionRest (g : Grammar) (role : Role) (pace : Pace) (canDescribe : Bool) :
    Parser (Head × Bool) :=
  paced pace do
    let head ← g.head role
    if (← isMark "\x7b") || !(canDescribe && (← isTyped)) then
      g.functionBody
      return (head, true)
    else
      endStatement
      return (head, false)

/-- A function expression from its keyword on. Its name is one inside of it. -/
def functionExpression (g : Grammar) (isAsync : Bool) : Parser Unit := do
  expectWord "function"
  let pace : Pace := { isAsync, isGenerator := ← takeMark "*" }
  if ← seesName then
    let _ ← paced pace name
  let _ ← g.functionRest .plain pace false

/-- Whether an `async` stands here in the line of what it belongs to. -/
def seesAsync : Parser Bool := do
  return (← isWord "async") && (← seesNext (do return !(← isBroken)))

def seesAsyncFunction : Parser Bool := do
  return (← seesAsync) && (← seesNext (isWord "function"))

/-! ## Arrow functions -/

/-- The body of an arrow function, behind the arrow. -/
def arrowBody (g : Grammar) (isAsync inChoice : Bool) : Parser Unit :=
  within (fun c => { c with awaits := isAsync, yields := false }) do
    if ← isMark "\x7b" then g.functionBody
    else
      let shape : Shape ← g (.assignment inChoice)
      must shape.isValue

/-- An arrow, in the line of what stands in front of it. -/
def arrow : Parser Unit := do
  must (!(← isBroken))
  expectMark "=>"

/-- The parameters of an arrow function with the arrow; says whether its result has a type. -/
def arrowHead (g : Grammar) (isAsync : Bool) : Parser Bool := do
  let head ← within (fun c => { c with awaits := c.awaits || isAsync }) (g.head .plain)
  must (!head.arity.typesThis)
  arrow
  return head.hasResult

/-- Whether a place starts an arrow function with parentheses, by its first tokens. -/
inductive ArrowStart where
  | never
  | perhaps
  | surely
deriving DecidableEq

namespace ArrowStart

/-- What follows from a first parameter that takes all arguments. -/
def ofRest : Parser ArrowStart := do
  match ← peek with
  | .number | .string _ => return .never
  | .word word _ => return if isPlainName word then .surely else .perhaps
  | _ => return .perhaps

/-- What follows from the token behind the name of a first parameter. A question mark there could
also be that of a conditional. -/
def ofName : Parser ArrowStart := do
  if ← isMark ":" then return .surely
  if ← takeMark "?" then
    let optional := (← isMark ":") || (← isMark ",") || (← isMark "=") || (← isMark ")")
    return if optional then .surely else .never
  let ends := (← isMark ",") || (← isMark "=") || (← isMark ")")
  return if ends then .perhaps else .never

/-- What follows from the tokens behind a parenthesis. -/
def ofParameters : Parser ArrowStart := do
  if ← takeMark ")" then
    if (← isMark "=>") || (← isMark "\x7b") then return .surely
    return if (← isTyped) && (← isMark ":") then .perhaps else .never
  if (← isMark "[") || (← isMark "\x7b") then return .perhaps
  if ← takeMark "..." then ofRest
  else
    let modified := (← seesOneOf modifierWords) && !(← isWord "async")
    let named := (← seesName) || (← isWord "this")
    advance
    if modified && (← seesName) then return if ← isWord "as" then .never else .surely
    if named then ofName else return .never

/-- What follows from the tokens here. In front of parentheses stand type parameters, which open
with a name or `const`. -/
def here : Parser ArrowStart := do
  if ← takeMark "(" then ofParameters
  else if (← isTyped) && (← takeMark "<") then
    return if (← seesFreeName) || (← isWord "const") then .perhaps else .never
  else return .never

end ArrowStart

/-- An arrow function with its parameters in parentheses, if one starts here. Where it could be an
operand instead, in the first choice of a conditional, one with a typed result is none unless the
colon of the conditional follows. -/
def fullArrow? (g : Grammar) (inChoice : Bool) : Parser (Option Shape) := do
  let isAsync ← seesAsync
  let start ← get
  if isAsync then advance
  let arrowStart ← foresee .never ArrowStart.here
  set start
  let place := start.here.length
  let ruled ← getThe Ruled
  if arrowStart = .never || ruled.contains (place, false) ||
      (inChoice && ruled.contains (place, true)) then
    return none
  if isAsync then advance
  if arrowStart = .surely then
    let _ ← g.arrowHead isAsync
    g.arrowBody isAsync false
    return some .other
  match ← attempt (g.arrowHead isAsync) with
  | none =>
      modifyThe Ruled ((place, false) :: ·)
      set start
      return none
  | some typed =>
      if inChoice && typed then
        let whole : Parser Unit := do
          g.arrowBody isAsync inChoice
          must (← isMark ":")
        match ← attempt whole with
        | some _ => return some .other
        | none =>
            modifyThe Ruled ((place, true) :: ·)
            set start
            return none
      else
        g.arrowBody isAsync inChoice
        return some .other

/-- An arrow function that can wait, with one name for its parameter, if one starts here. -/
def asyncArrow? (g : Grammar) (inChoice : Bool) : Parser (Option Shape) := do
  let starts := (← seesAsync) && (← seesNext do
    unless ← seesName do return false
    advance
    return !(← isBroken) && (← isMark "=>"))
  if starts then
    advance
    let _ ← name
    arrow
    g.arrowBody true inChoice
    return some .other
  else return none

end ComponentMarkup.Script.Grammar
