import ComponentMarkup.Script.Modifier

/-!
Patterns, the parameters of functions, and the keys of properties.
-/

namespace ComponentMarkup.Script.Grammar
open ComponentMarkup.Script.Parser

/-- Surroundings inside brackets of any kind. -/
def inBrackets {α : Type} (p : Parser α) : Parser α :=
  within (fun c => { c with allowsIn := true, decorates := false }) p

/-! ## Keys -/

/-- The key of a property. -/
inductive Key where
  /-- A key as it is spelled, a string without its quotes. -/
  | plain (text : String)
  | computed
  | hashed (text : String)

def Key.isPlain (key : Key) (text : String) : Bool :=
  match key with
  | .plain found => found = text
  | _ => false

/-- An expression in square brackets, behind the opening one. -/
def computedKey (g : Grammar) : Parser Unit := do
  let _ ← inBrackets g.assignment
  expectMark "]"

/-- The key of a property, except a private name. -/
def propertyKey (g : Grammar) : Parser Key := do
  match ← peek with
  | .word text _ | .string text => advance; return .plain text
  | .number => advance; return .plain ""
  | .mark "[" => advance; g.computedKey; return .computed
  | _ => failure

/-- The key of a member of a class. -/
def memberKey (g : Grammar) : Parser Key := do
  match ← peek with
  | .hashed text => advance; return .hashed text
  | _ => g.propertyKey

/-! ## Object and array patterns -/

/-- A pattern, with a default value if one follows. -/
def patternOrDefault (g : Grammar) : Parser Pattern := do
  let pattern ← g.pattern
  if ← takeMark "=" then
    let _ ← inBrackets g.assignment
    return .withDefault pattern
  else return pattern

/-- A part of a pattern: an item that can be skipped, or all that is left. -/
inductive Part where
  | hole
  | item (pattern : Pattern)
  | spread (pattern : Pattern)

/-- A part that takes all that is left ends the pattern. -/
def partsOf : List Part → Option Parts
  | [] => some .done
  | [.spread pattern] => some (.spread pattern)
  | .hole :: others => (partsOf others).map .hole
  | .item pattern :: others => (partsOf others).map (.item pattern)
  | .spread _ :: _ => none

def objectPart (g : Grammar) : Parser Part := do
  if ← takeMark "..." then
    let bound ← name
    must (!(← isMark ","))
    return .spread (.name bound)
  match ← peek with
  | .word word _ =>
      advance
      if ← takeMark ":" then return .item (← g.patternOrDefault)
      must (!reservedWords.contains word)
      if ← takeMark "=" then
        let _ ← inBrackets g.assignment
        return .item (.withDefault (.name word))
      return .item (.name word)
  | _ =>
      let _ ← g.propertyKey
      expectMark ":"
      return .item (← g.patternOrDefault)

def arrayPart (g : Grammar) : Parser Part := do
  if ← takeMark "..." then
    let pattern ← g.pattern
    must (!(← isMark ","))
    return .spread pattern
  return .item (← g.patternOrDefault)

def arrayPartsFor (g : Grammar) : Nat → Parser (List Part)
  | 0 => failure
  | fuel + 1 => do
      if ← takeMark "]" then return []
      if ← takeMark "," then return .hole :: (← arrayPartsFor g fuel)
      let part ← g.arrayPart
      if ← takeMark "," then return part :: (← arrayPartsFor g fuel)
      expectMark "]"
      return [part]

/-- Rules for patterns. -/
def readPattern (g : Grammar) : Parser Pattern := do
  if ← takeMark "\x7b" then
    match partsOf (← listUntil "\x7d" g.objectPart) with
    | some parts => return .object parts
    | none => failure
  else if ← takeMark "[" then
    match partsOf (← arrayPartsFor g (← steps)) with
    | some parts => return .array parts
    | none => failure
  else return .name (← name)

/-! ## Types of things -/

/-- A type behind a colon, if scripts have types and one is there. -/
def typeNote (g : Grammar) : Parser Unit := do
  if (← isTyped) && (← isMark ":") then
    advance
    g.typeExpr

/-- The type of what a function gives: also a statement about one of its arguments. -/
def resultType (g : Grammar) : Parser Unit := do
  let claims := (← seesWord) && (← seesNext (do return !(← isBroken) && (← isWord "is")))
  if claims then
    advance
    advance
  g.typeExpr

/-- The type of a result behind a colon; says whether one was there. -/
def resultNote (g : Grammar) : Parser Bool := do
  if (← isTyped) && (← isMark ":") then
    advance
    g.resultType
    return true
  else return false

def typeParameter (g : Grammar) : Parser Unit := do
  must ((← modifiers modifierWords).all ["const", "in", "out"].contains)
  let _ ← name
  if ← takeWord "extends" then g.typeExpr
  if ← takeMark "=" then g.typeExpr

def angleListFor (item : Parser Unit) : Nat → Parser Unit
  | 0 => failure
  | fuel + 1 => do
      item
      if ← takeMark "," then
        if (← get).here.head? == some '>' then closeAngle else angleListFor item fuel
      else closeAngle

/-- Items with commas between them, up to a closing angle. -/
def angleList (item : Parser Unit) : Parser Unit := do
  angleListFor item (← steps)

/-- The type parameters of a declaration; says whether it has any. -/
def typeParameters (g : Grammar) : Parser Bool := do
  if (← isTyped) && (← isMark "<") then
    advance
    angleList g.typeParameter
    return true
  else return false

/-- Type arguments, with the angles around them. -/
def typeArguments (g : Grammar) : Parser Unit := do
  openAngle
  angleList g.typeExpr

/-- Type arguments behind the name of a type, in the same line. -/
def optionalArguments (g : Grammar) : Parser Unit := do
  if (← seesAngle) && !(← isBroken) then g.typeArguments

/-! ## Parameters -/

/-- What a function is a part of. -/
inductive Role where
  | plain
  | method
  | constructor
deriving DecidableEq

/-- How many parameters a function has besides the one that takes all arguments that are left, and
whether it has that one. -/
structure Arity where
  count : Nat
  takesRest : Bool
  /-- Whether the type of `this` stands among the parameters. -/
  typesThis : Bool

/-- Decorators; says whether there were any. -/
def decorators (g : Grammar) : Parser Bool := do
  if ← isMark "@" then
    many do
      if ← takeMark "@" then
        let _ ← within (fun c => { c with decorates := true }) g.operand
        return true
      else return false
    return true
  else return false

/-- Words in front of a parameter that make a property of it. -/
def propertyWords : List String := accessWords ++ ["readonly", "override"]

def parameter (g : Grammar) (role : Role) : Parser Unit := do
  if ← g.decorators then must (role != .plain)
  let words ← modifiers propertyWords
  must (words.isEmpty || (role = .constructor && (← isTyped)))
  let _ ← g.pattern
  if ← isTyped then
    let _ ← takeMark "?"
  g.typeNote
  if ← takeMark "=" then
    let _ ← inBrackets g.assignment

/-- The parameter that takes all arguments that are left. -/
def restParameter (g : Grammar) : Parser Unit := do
  expectMark "..."
  let _ ← g.pattern
  g.typeNote
  if (← context).isAmbient then
    let _ ← takeMark ","
  expectMark ")"

def parametersFor (g : Grammar) (role : Role) : Nat → Parser Arity
  | 0 => failure
  | fuel + 1 => do
      if ← takeMark ")" then return ⟨0, false, false⟩
      if ← isMark "..." then
        g.restParameter
        return ⟨0, true, false⟩
      g.parameter role
      if ← takeMark "," then
        let arity ← parametersFor g role fuel
        return { arity with count := arity.count + 1 }
      expectMark ")"
      return ⟨1, false, false⟩

/-- Parameters in parentheses. No comma is needed behind the type of `this`. -/
def parameters (g : Grammar) (role : Role) : Parser Arity := do
  expectMark "("
  let typesThis := (← isTyped) && (← isWord "this")
  if typesThis then
    advance
    g.typeNote
    let _ ← takeMark ","
  let arity ← parametersFor g role (← steps)
  return { arity with typesThis }

end ComponentMarkup.Script.Grammar
