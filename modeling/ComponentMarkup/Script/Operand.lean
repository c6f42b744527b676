import ComponentMarkup.Script.Class

/-!
Operands: literals, names, and chains of members and calls.
-/

namespace ComponentMarkup.Script.Grammar
open ComponentMarkup.Script.Parser

/-! ## Literals -/

/-- Pieces of a template, up to its end. Only a template that a function takes apart can have
escapes that stand for nothing. -/
def templateFor (g : Grammar) (tagged : Bool) (cs : List Char) : Nat → Parser Unit
  | 0 => failure
  | fuel + 1 =>
      match readPiece true cs with
      | none => failure
      | some (.closed sound rest) => do
          must (sound || tagged)
          jump rest
      | some (.hole sound rest) => do
          must (sound || tagged)
          jump rest
          let _ ← inBrackets g.expression
          must (← isMark "\x7d")
          templateFor g tagged (← get).rest fuel

def template (g : Grammar) (tagged : Bool) : Parser Unit := do
  let rest := (← get).rest
  templateFor g tagged rest (rest.length + 1)

def regex : Parser Unit := do
  match readRegex ((← get).here.drop 1) with
  | some rest => jump rest
  | none => failure

/-- An item of a list, perhaps one that is spread out. -/
def item (g : Grammar) : Parser Item := do
  if ← takeMark "..." then return .spread (← g (.assignment false))
  return .value (← g (.assignment false))

def Item.isSpread : Item → Bool
  | .spread _ => true
  | _ => false

/-- Items of a list up to its end. A comma behind an item that is spread out leaves room for
another one. -/
def itemsFor (g : Grammar) (close : String) (item : Parser Item) : Nat → Parser (List Item)
  | 0 => failure
  | fuel + 1 => do
      if ← takeMark close then return []
      if ← takeMarkIf (close = "]") "," then return .hole :: (← itemsFor g close item fuel)
      let first ← item
      if ← takeMark "," then
        let others ← itemsFor g close item fuel
        return if Item.isSpread first then first :: .hole :: others else first :: others
      expectMark close
      return [first]

def items (g : Grammar) (close : String) (item : Parser Item) : Parser (List Item) := do
  inBrackets (do itemsFor g close item (← steps))

def array (g : Grammar) : Parser Shape := do
  expectMark "["
  match Item.shape? Shape.isAssignable (← g.items "]" g.item) with
  | some shape => return shape
  | none => failure

/-! ## Objects -/

/-- A property that is a getter or a setter, which gives its kind. -/
def accessorProperty (g : Grammar) (kind : String) : Parser Item := do
  let _ ← g.propertyKey
  let (head, _) ← g.functionRest .plain {} false
  must (fitsAccessor kind head)
  return .fixed

/-- A property that is named like the variable it takes its value from. A default value makes sense
only in a pattern. -/
def shorthand (g : Grammar) (word : String) : Parser Item := do
  must (isName (← context) word)
  if ← takeMark "=" then
    let _ ← g.assignment
    return .value (.pattern false)
  return .value .name

def property (g : Grammar) : Parser Item := do
  if ← takeMark "..." then return .spread (← g (.assignment false))
  match ← accessorWord? with
  | some kind => g.accessorProperty kind
  | none =>
      let isAsync := !(← modifiers ["async"]).isEmpty
      let isGenerator ← takeMark "*"
      let token ← peek
      let _ ← g.propertyKey
      if isAsync || isGenerator || (← seesSignature) then
        let _ ← g.functionRest .plain { isAsync, isGenerator } false
        return .fixed
      else if ← takeMark ":" then return .value (← g (.assignment false))
      else
        match token with
        | .word word _ => g.shorthand word
        | _ => failure

def object (g : Grammar) : Parser Shape := do
  expectMark "\x7b"
  match Item.shape? Shape.isPlace (← g.items "\x7d" g.property) with
  | some shape => return shape
  | none => failure

/-! ## Calls -/

def argument (g : Grammar) : Parser Unit := do
  let _ ← takeMark "..."
  let _ ← g.assignment

def arguments (g : Grammar) : Parser Unit := do
  expectMark "("
  let _ ← inBrackets (listUntil ")" g.argument)

/-- The name of a module that is loaded on demand, perhaps with more about it. -/
def moduleArguments (g : Grammar) : Parser Unit := do
  expectMark "("
  inBrackets do
    let _ ← g.assignment
    if (← takeMark ",") && !(← isMark ")") then
      let _ ← g.assignment
      let _ ← takeMark ","
  expectMark ")"

/-- What a module says about itself, or a module that is loaded on demand. -/
def importExpression (g : Grammar) : Parser Shape := do
  expectWord "import"
  if ← takeMark "." then
    if ← takeWord "meta" then return .other
    unless ← takeWord "source" do expectWord "defer"
  g.moduleArguments
  return .loaded

/-- A new object. What is made stands without calls, and not in a part that can be missing. -/
def newExpression (g : Grammar) : Parser Shape := do
  expectWord "new"
  if ← takeMark "." then
    expectWord "target"
    return .other
  let shape : Shape ← g .constructed
  must (shape.isValue && shape != .loaded && !(← isMark "?."))
  if ← isMark "(" then g.arguments
  return .other

/-! ## Primary expressions -/

/-- An expression in parentheses. A pattern in parentheses is none. -/
def parenthesized (g : Grammar) : Parser Shape := do
  expectMark "("
  let shape ← inBrackets g.expression
  expectMark ")"
  return if shape.isPlace then .target else if shape = .withTypes then .withTypes else .other

/-- The object as the class above sees it, of which a member is asked for or which is called. -/
def superExpression : Parser Shape := do
  expectWord "super"
  must ((← isMark ".") || (← isMark "[") || (← isMark "("))
  return .other

def wordExpression (g : Grammar) (word : String) (plain : Bool) : Parser Shape := do
  match plain, word with
  | true, "this" | true, "null" | true, "true" | true, "false" => advance; return .other
  | true, "super" => superExpression
  | true, "new" => g.newExpression
  | true, "import" => g.importExpression
  | true, "function" => g.functionExpression false; return .other
  | true, "class" =>
      let _ ← g.classLike
      return .other
  | _, _ =>
      if ← seesAsyncFunction then
        advance
        g.functionExpression true
        return .other
      else
        let _ ← name
        return .name

def primary (g : Grammar) : Parser Shape := do
  match ← peek with
  | .number => advance; return .other
  | .string text => advance; return .string text
  | .mark "(" => g.parenthesized
  | .mark "[" => g.array
  | .mark "\x7b" => g.object
  | .mark "\x60" => g.template false; return .other
  | .mark "/" | .mark "/=" => regex; return .other
  | .mark "@" =>
      let _ ← g.decorators
      let _ ← g.classLike
      return .other
  | .word word plain => g.wordExpression word plain
  | _ => failure

/-! ## Type arguments of calls -/

def binaryMarks : List String :=
  ["**", "*", "/", "%", "+", "-", "<<", ">>", ">>>", "<", ">", "<=", ">=", "==", "!=", "===", "!==",
    "&", "^", "|", "&&", "||", "??"]

/-- Whether an operator behind type arguments shows that they end there. The `in` of an expression
does not, and that of the head of a loop does. -/
def seesBinary : Parser Bool := do
  match ← peek with
  | .mark mark => return binaryMarks.contains mark
  | .word "in" _ => return !(← context).allowsIn
  | .word word _ => return ["instanceof", "as", "satisfies"].contains word
  | _ => return false

/-- Marks that an expression can start with. -/
def openingMarks : List String :=
  ["(", "[", "\x7b", "\x60", "/", "/=", "+", "-", "~", "!", "++", "--", "<", "@"]

/-- Words with a meaning of their own that an operand behind type arguments can start with. -/
def openingWords : List String :=
  ["this", "super", "null", "true", "false", "function", "class", "new", "delete", "typeof", "void",
    "in", "instanceof", "await", "yield", "private"]

/-- Whether an operand starts here that would make a comparison of type arguments. No word that has
a meaning somewhere counts as a name here. -/
def seesExpression : Parser Bool := do
  match ← peek with
  | .mark mark => return openingMarks.contains mark
  | .word "import" _ =>
      seesNext do return (← isMark "(") || (← isMark "<") || (← isMark ".")
  | .word word _ => return isPlainName word || openingWords.contains word
  | .number | .string _ => return true
  | _ => return false

/-- Whether type arguments end in front of this token, and not a comparison goes on. -/
def endsArguments : Parser Bool := do
  match ← peek with
  | .mark mark =>
      if mark = "(" || mark = "\x60" then return true
      if ["<", "+", "-"].contains mark || mark.startsWith ">" then return false
  | _ => pure ()
  return (← isBroken) || (← seesBinary) || !(← seesExpression)

/-- Whether the angle that closes type arguments could be part of an assignment or a comparison. -/
def meetsEquals (cs : List Char) : Bool :=
  (cs.dropWhile (· = '>')).head? == some '='

def callArgumentsFor (g : Grammar) : Nat → Parser Unit
  | 0 => failure
  | fuel + 1 => do
      g.typeExpr
      if (← takeMark ",") && (← get).here.head? != some '>' then callArgumentsFor g fuel

/-- Type arguments in an expression. -/
def callTypeArguments (g : Grammar) : Parser Unit := do
  openAngle
  callArgumentsFor g (← steps)
  must (!meetsEquals (← get).here)
  closeAngle
  must (← endsArguments)

/-! ## Chains -/

/-- A name behind a dot. -/
def memberName : Parser Unit := do
  match ← peek with
  | .hashed _ => advance
  | _ =>
      let _ ← anyName

/-- Brackets that ask for a member. -/
def memberBrackets (g : Grammar) : Parser Unit := do
  expectMark "["
  let _ ← inBrackets g.expression
  expectMark "]"

/-- A chain of members and calls as far as it is read. `optional` says whether a part of it can be
missing. -/
structure Chain where
  shape : Shape
  optional : Bool

/-- One step along a chain of members; none at its end. -/
def memberStep (g : Grammar) (chain : Chain) : Parser (Option Chain) := do
  if ← takeMark "." then
    memberName
    return some { chain with shape := .target }
  else if (← isMark "[") && !(← context).decorates then
    g.memberBrackets
    return some { chain with shape := .target }
  else if ← isMark "\x60" then
    must (!chain.optional)
    g.template true
    return some { chain with shape := .other }
  else if (← isTyped) && (← isMark "!") && !(← isBroken) then
    advance
    return some { chain with shape := if chain.shape.isTypedPlace then .target else .other }
  else if (← isTyped) && (← seesAngle) then
    match ← attempt g.callTypeArguments with
    | some _ =>
        return some { chain with shape := if chain.shape.isTypedPlace then .withTypes else .other }
    | none => return none
  else return none

/-- What is asked for where a part can be missing, behind the question. -/
def missingStep (g : Grammar) : Parser Unit := do
  if ← isMark "(" then g.arguments
  else if ← isMark "[" then g.memberBrackets
  else if (← isTyped) && (← seesAngle) then
    g.typeArguments
    g.arguments
  else memberName

/-- One step along a chain of members and calls; none at its end. -/
def chainStep (g : Grammar) (chain : Chain) : Parser (Option Chain) := do
  if ← isMark "(" then
    g.arguments
    return some { chain with shape := .other }
  else if ← takeMark "?." then
    g.missingStep
    return some { shape := .other, optional := true }
  else g.memberStep chain

def chainFor (step : Chain → Parser (Option Chain)) (chain : Chain) : Nat → Parser Chain
  | 0 => failure
  | fuel + 1 => do
      match ← step chain with
      | some next =>
          must chain.shape.isValue
          chainFor step next fuel
      | none => return chain

/-- Rules for operands of `new`. -/
def readConstructed (g : Grammar) : Parser Shape := do
  let chain : Chain := { shape := ← g.primary, optional := false }
  return (← chainFor g.memberStep chain (← steps)).shape

/-- Rules for chains of members and calls. One in which a part can be missing is no place for a
value. -/
def readOperand (g : Grammar) : Parser Shape := do
  let start : Chain := { shape := ← g.primary, optional := false }
  let chain ← chainFor g.chainStep start (← steps)
  return if chain.optional then .other else chain.shape

end ComponentMarkup.Script.Grammar
