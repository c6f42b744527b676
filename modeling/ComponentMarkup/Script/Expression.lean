import ComponentMarkup.Script.Operand

/-!
Expressions. Only their extent and what can be assigned to matter here, so operators are not
grouped: a rule on what two operators do to each other is checked where they meet.
-/

namespace ComponentMarkup.Script.Grammar
open ComponentMarkup.Script.Parser

/-! ## Operators in front of an operand -/

def frontWords : List String := ["delete", "void", "typeof"]

def frontMarks : List String := ["+", "-", "~", "!"]

/-- An operand behind an operator. -/
def fronted (g : Grammar) : Parser Shape := do
  advance
  must (← g.unary).isValue
  return .prefixed

/-- What waits for a value. Where nothing can wait, `await` is a name and no operand follows it. -/
def awaited? (g : Grammar) : Parser (Option Shape) := do
  if (← context).awaits then return some (← g.fronted)
  must (!(← seesNext seesOperand))
  return none

/-- An operand behind a type in angles. -/
def typed (g : Grammar) : Parser Shape := do
  expectMark "<"
  g.typeExpr
  closeAngle
  let shape ← g.unary
  must shape.isValue
  return if shape.isTypedPlace then .typedTarget else .prefixed

def isStep (token : Token) : Bool := token = .mark "++" || token = .mark "--"

/-- An operand that can be counted up or down, in front or behind in its line. -/
def update (g : Grammar) : Parser Shape := do
  if isStep (← peek) then
    advance
    must (← g.unary).isPlace
    return .other
  else
    let shape : Shape ← g .operand
    if isStep (← peek) && !(← isBroken) then
      must shape.isPlace
      advance
      return .other
    else return shape

/-- Rules for operands with what stands in front of them. -/
def readUnary (g : Grammar) : Parser Shape := do
  match ← peek with
  | .word "await" true =>
      match ← g.awaited? with
      | some shape => return shape
      | none => g.update
  | .word word true => if frontWords.contains word then g.fronted else g.update
  | .mark mark =>
      if frontMarks.contains mark then g.fronted
      else if mark = "<" && (← isTyped) then g.typed
      else g.update
  | _ => g.update

/-! ## Operators between operands -/

/-- Operators that bind looser than a question for a member does. -/
def looseMarks : List String := ["==", "!=", "===", "!==", "&", "^", "|", "&&", "||", "??"]

/-- An operand, or the question whether an object has a private member. -/
def operandOrMember (g : Grammar) (loose : Bool) : Parser Shape := do
  match ← peek with
  | .hashed _ =>
      must (loose && (← context).allowsIn)
      advance
      expectWord "in"
      must (← g.unary).isValue
      return .other
  | _ => g.unary

/-- Operands with operators between them, as far as they are read. -/
structure Joined where
  /-- The last operand. -/
  last : Shape
  single : Bool
  /-- Whether one operator gives its second operand where the first is missing. -/
  defaults : Bool
  /-- Whether one operator is a logical one. The two kinds do not mix without parentheses. -/
  logical : Bool

/-- An operator with its second operand, at the operator. -/
def joinedMark (g : Grammar) (mark : String) (joined : Joined) : Parser Joined := do
  let fronted := joined.last = .prefixed || joined.last = .typedTarget
  must (joined.last.isValue && !(mark = "**" && fronted))
  advance
  let last ← g.operandOrMember (looseMarks.contains mark)
  must last.isValue
  let defaults := joined.defaults || mark = "??"
  let logical := joined.logical || mark = "&&" || mark = "||"
  must (!(defaults && logical))
  return { last, single := false, defaults, logical }

def joinedWord (g : Grammar) (joined : Joined) : Parser Joined := do
  must joined.last.isValue
  advance
  let last ← g.operandOrMember false
  must last.isValue
  return { joined with last, single := false }

/-- A type that an operand is taken to have. It leaves a place for a value as it was. -/
def cast (g : Grammar) (joined : Joined) : Parser Joined := do
  must joined.last.isValue
  advance
  g.typeExpr
  let isPlace := joined.single && joined.last.isTypedPlace
  return { joined with last := if isPlace then .target else .other }

def joinedFor (g : Grammar) (joined : Joined) : Nat → Parser Joined
  | 0 => failure
  | fuel + 1 => do
      match ← peek with
      | .mark mark =>
          if binaryMarks.contains mark then joinedFor g (← g.joinedMark mark joined) fuel
          else return joined
      | .word word true =>
          if word = "instanceof" || (word = "in" && (← context).allowsIn) then
            joinedFor g (← g.joinedWord joined) fuel
          else if (word = "as" || word = "satisfies") && (← isTyped) && !(← isBroken) then
            joinedFor g (← g.cast joined) fuel
          else return joined
      | _ => return joined

def binary (g : Grammar) : Parser Shape := do
  let first ← g.operandOrMember true
  let start : Joined := { last := first, single := true, defaults := false, logical := false }
  let joined ← joinedFor g start (← steps)
  return if joined.single then joined.last else .other

/-! ## Single expressions -/

/-- What is handed out, behind `yield`. -/
def yielded (g : Grammar) : Parser Shape := do
  expectWord "yield"
  if ← isBroken then return .other
  let all ← takeMark "*"
  let ends : Bool := match ← peek with
    | .finish => true
    | .mark mark => [";", "]", "\x7d", ")", ":", ","].contains mark
    | .word word _ => word = "in"
    | _ => false
  if all || !ends then
    let _ ← g.assignment
  return .other

/-- The two choices of a conditional, if the question mark of one stands here. -/
def choices (g : Grammar) (condition : Shape) (inChoice : Bool) : Parser Shape := do
  if ← takeMark "?" then
    must condition.isValue
    let first : Shape ← within (fun c => { c with allowsIn := true }) (g (.assignment true))
    must first.isValue
    expectMark ":"
    let second : Shape ← g (.assignment inChoice)
    must second.isValue
    return .other
  else return condition

def assignmentMarks : List String :=
  ["=", "+=", "-=", "*=", "/=", "%=", "**=", "<<=", ">>=", ">>>=", "&=", "|=", "^=", "&&=", "||=",
    "??="]

/-- What stands behind a first operand: an arrow, an assignment or the choices of a conditional. -/
def assignmentRest (g : Grammar) (shape : Shape) (inChoice : Bool) : Parser Shape := do
  match ← peek with
  | .mark mark =>
      if mark = "=>" && shape = .name then
        arrow
        g.arrowBody false inChoice
        return .other
      else if assignmentMarks.contains mark then
        must shape.isAssignable
        advance
        let value : Shape ← g (.assignment inChoice)
        must value.isValue
        return if mark = "=" then .assigned else .other
      else g.choices shape inChoice
  | _ => return shape

/-- Rules for single expressions. -/
def readAssignment (g : Grammar) (inChoice : Bool) : Parser Shape := do
  let isYield ← isWord "yield"
  if isYield && (← context).yields then g.yielded
  else
    must (!(isYield && (← seesNext seesOperand)))
    match ← g.fullArrow? inChoice with
    | some shape => return shape
    | none =>
        match ← g.asyncArrow? inChoice with
        | some shape => return shape
        | none => g.assignmentRest (← g.binary) inChoice

/-- Rules for expressions, among them several with commas between them. -/
def readExpression (g : Grammar) : Parser Shape := do
  let first : Shape ← g (.assignment false)
  if ← isMark "," then
    must first.isValue
    many do
      if ← takeMark "," then
        let _ ← g.assignment
        return true
      else return false
    return .other
  else return first

end ComponentMarkup.Script.Grammar
