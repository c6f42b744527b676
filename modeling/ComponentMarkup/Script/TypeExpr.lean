import ComponentMarkup.Script.Pattern

/-!
Types, in scripts that have them.
-/

namespace ComponentMarkup.Script.Grammar
open ComponentMarkup.Script.Parser

/-! ## Members of object types -/

/-- What stands behind a member of an object type; it may be left out. -/
def endMember : Parser Unit := do
  unless ← takeMark "," do
    let _ ← takeMark ";"

/-- Whether a key in brackets with a type starts here, which is no computed key: a name or a word
that can stand in front of one behind the bracket, and behind it a colon, a comma, or a question
mark that opens no choice. -/
def seesIndex : Parser Bool := do
  if ← isMark "[" then
    seesNext do
      if (← isMark "...") || (← isMark "]") then return true
      if ← seesOneOf modifierWords then
        advance
        if ← seesFreeName then return true
      else
        unless ← seesFreeName do return false
        advance
      if (← isMark ":") || (← isMark ",") then return true
      if ← takeMark "?" then return (← isMark ":") || (← isMark ",") || (← isMark "]")
      return false
  else return false

/-- A key in brackets with the type of its values. -/
def indexMember (g : Grammar) : Parser Unit := do
  expectMark "["
  let _ ← anyName
  expectMark ":"
  g.typeExpr
  expectMark "]"
  expectMark ":"
  g.typeExpr
  endMember

/-- The parameters of a function that is only described, and the type of its result; says whether
the type of `this` stands among them. -/
def signature (g : Grammar) : Parser Bool := do
  let _ ← g.typeParameters
  let arity ← g.parameters .plain
  let _ ← g.resultNote
  return arity.typesThis

def seesSignature : Parser Bool := do
  return (← isMark "(") || (← isMark "<")

/-- A member behind `get` or `set`, which gives its kind. -/
def accessorMember (g : Grammar) (kind : String) : Parser Unit := do
  let _ ← g.propertyKey
  let _ ← g.typeParameters
  let _ ← g.parameters .plain
  let noted ← g.resultNote
  must (!(noted && kind = "set"))
  endMember

/-- The words in front of members. Most of them are read there and then refused. -/
def memberWords : List String := modifierWords.filter (· != "const")

def typeMember (g : Grammar) : Parser Unit := do
  if (← seesSignature) || ((← isWord "new") && (← seesNext seesSignature)) then
    let constructs ← takeWord "new"
    let typesThis ← g.signature
    must (!(constructs && typesThis))
    endMember
  else
    let words ← modifiers memberWords
    must (words.all (· = "readonly"))
    match ← accessorWord? with
    | some kind => g.accessorMember kind
    | none =>
        if ← seesIndex then g.indexMember
        else
          let _ ← g.propertyKey
          let _ ← takeMark "?"
          if ← seesSignature then
            let _ ← g.signature
          else g.typeNote
          endMember

/-- The members of an object type, behind the opening brace. -/
def typeMembers (g : Grammar) : Parser Unit :=
  many do
    if ← takeMark "\x7d" then return false
    g.typeMember
    return true

/-- A sign in front of a modifier of a mapped type. -/
def takeSign : Parser Bool := do
  if ← takeMark "+" then return true
  takeMark "-"

/-- Whether a type opens with members for each of a set of keys, at its brace. -/
def seesMapped : Parser Bool := do
  seesNext do
    if ← takeSign then isWord "readonly"
    else
      let _ ← takeWord "readonly"
      return (← takeMark "[") && (← seesNext (isWord "in"))

/-- A type with a member for each of a set of keys, behind the opening brace. -/
def mappedType (g : Grammar) : Parser Unit := do
  if ← takeSign then expectWord "readonly"
  else
    let _ ← takeWord "readonly"
  expectMark "["
  let _ ← name
  expectWord "in"
  g.typeExpr
  if ← takeWord "as" then g.typeExpr
  expectMark "]"
  if ← takeSign then expectMark "?"
  else
    let _ ← takeMark "?"
  g.typeNote
  let _ ← takeMark ";"
  expectMark "\x7d"

def objectType (g : Grammar) : Parser Unit := do
  let mapped ← seesMapped
  expectMark "\x7b"
  if mapped then g.mappedType else g.typeMembers

/-! ## Tuples and templates -/

/-- Whether an item of a tuple opens with a name of its own. -/
def seesLabelled : Parser Bool := look do
  let _ ← takeMark "..."
  let _ ← anyName
  let _ ← takeMark "?"
  isMark ":"

/-- An item of a tuple. One with a name says by the name whether it can be missing or stands for
many. -/
def tupleItem (g : Grammar) : Parser Unit := do
  if ← seesLabelled then
    let many ← takeMark "..."
    let _ ← anyName
    let optional ← takeMark "?"
    must (!(many && optional))
    expectMark ":"
    let form : TypeForm ← g .typeExpr
    must (form != .optional)
  else
    let _ ← takeMark "..."
    g.typeExpr

/-- Types in a row up to a closing brace, at least one. -/
def typeRow (g : Grammar) : Parser Unit :=
  many do
    g.typeExpr
    return !(← isMark "\x7d")

/-- Pieces of a template type, up to its end. -/
def templateTypeFor (g : Grammar) (cs : List Char) : Nat → Parser Unit
  | 0 => failure
  | fuel + 1 =>
      match readPiece true cs with
      | none => failure
      | some (.closed _ rest) => jump rest
      | some (.hole _ rest) => do
          jump rest
          g.typeRow
          templateTypeFor g (← get).rest fuel

/-! ## Functions -/

/-- The type of a function; says whether the type of `this` stands among its parameters. Whatever
stands between the parameters and the result is read as an arrow. -/
def functionType (g : Grammar) : Parser Bool := do
  let _ ← g.typeParameters
  let arity ← g.parameters .plain
  advance
  g.resultType
  return arity.typesThis

def constructorType (g : Grammar) : Parser Unit := do
  let _ ← takeWord "abstract"
  expectWord "new"
  must (!(← g.functionType))

/-- Goes past what a parameter starts with. -/
def skipParameter (g : Grammar) : Parser Bool := do
  let _ ← modifiers memberWords
  if (← seesFreeName) || (← isWord "this") then advance; return true
  else if (← isMark "[") || (← isMark "\x7b") then
    let _ ← g.pattern
    return true
  else return false

/-- Whether a parenthesis opens the parameters of a function type. -/
def seesFunctionType (g : Grammar) : Parser Bool := do
  if ← isMark "(" then
    seesNext do
      if (← isMark ")") || (← isMark "...") then return true
      unless ← g.skipParameter do return false
      if ← takeMark ")" then isMark "=>"
      else return (← isMark ":") || (← isMark ",") || (← isMark "?") || (← isMark "=")
  else isMark "<"

def seesConstructorType : Parser Bool := do
  return (← isWord "new") || ((← isWord "abstract") && (← seesNext (isWord "new")))

/-! ## Named types -/

/-- Words behind dots. -/
def dotted : Parser Unit :=
  many do
    if ← takeMark "." then
      let _ ← anyName
      return true
    else return false

def namedType (g : Grammar) : Parser Unit := do
  let _ ← anyName
  dotted
  g.optionalArguments

/-- A type from another module. What else is said about the module stands in braces. -/
def importType (g : Grammar) : Parser Unit := do
  expectWord "import"
  expectMark "("
  let _ ← string
  if ← takeMark "," then
    must (← isMark "\x7b")
    let _ ← inBrackets g.operand
  expectMark ")"
  dotted
  g.optionalArguments

/-- The type of a variable, behind `typeof`. -/
def variableType (g : Grammar) : Parser Unit := do
  let _ ← anyName
  dotted
  if (← isMark "<") && !(← isBroken) then g.typeArguments

/-- Words for types that take no arguments. With a dot behind them they are names like others. -/
def basicTypes : List String :=
  ["any", "unknown", "string", "number", "bigint", "symbol", "boolean", "undefined", "never",
    "object"]

def wordType (g : Grammar) (word : String) : Parser Unit := do
  if basicTypes.contains word && !(← seesNext (isMark ".")) then advance
  else if ["void", "null", "true", "false"].contains word then advance
  else if word = "this" then
    advance
    if !(← isBroken) && (← isWord "is") then
      advance
      g.typeExpr
  else if word = "typeof" then
    advance
    if ← isWord "import" then g.importType else g.variableType
  else if word = "import" then g.importType
  else if word = "asserts" && (← seesNext (do return !(← isBroken) && (← seesWord))) then
    advance
    let _ ← anyName
    if ← takeWord "is" then g.typeExpr
  else g.namedType

/-! ## Operators on types -/

def numberType : Parser Unit := do
  match ← peek with
  | .number => advance
  | _ => failure

def simpleType (g : Grammar) : Parser TypeForm := do
  match ← peek with
  | .string _ | .number => advance; return .other
  | .mark "-" => advance; numberType; return .other
  | .mark "\x60" =>
      let rest := (← get).rest
      templateTypeFor g rest (rest.length + 1)
      return .other
  | .mark "(" =>
      advance
      g.typeExpr
      expectMark ")"
      return .other
  | .mark "[" =>
      advance
      let _ ← listUntil "]" g.tupleItem
      return .list
  | .mark "\x7b" => g.objectType; return .other
  | .mark "!" => advance; g.typeExpr; return .other
  | .mark "?" =>
      advance
      let unknown : Bool := match ← peek with
        | .mark mark => [",", "\x7d", ")", "=", "|"].contains mark || mark.startsWith ">"
        | _ => false
      unless unknown do g.typeExpr
      return .other
  | .word word _ => g.wordType word; return .other
  | _ => failure

/-- Whether a type starts here. -/
def seesType : Parser Bool := do
  match ← peek with
  | .string _ | .number => return true
  | .mark "-" => seesNext (do return (← peek) = .number)
  | .mark "(" => return true
  | .mark mark =>
      return ["\x7b", "[", "<", "|", "&", "?", "!", "*", "...", "\x60"].contains mark
  | .word word _ =>
      return isFreeName word ||
        ["void", "null", "this", "typeof", "new", "true", "false", "import", "function"].contains
          word
  | _ => return false

def postfixFor (g : Grammar) (form : TypeForm) : Nat → Parser TypeForm
  | 0 => failure
  | fuel + 1 => do
      if ← isBroken then return form
      if ← takeMark "!" then postfixFor g .other fuel
      else if ← isMark "?" then
        if ← seesNext seesType then return form
        advance
        postfixFor g .optional fuel
      else if ← takeMark "[" then
        if ← takeMark "]" then postfixFor g .list fuel
        else
          must (← seesType)
          g.typeExpr
          expectMark "]"
          postfixFor g .other fuel
      else return form

def postfixType (g : Grammar) : Parser TypeForm := do
  within (fun c => { c with asksTypes := true }) do
    postfixFor g (← g.simpleType) (← steps)

/-- What a name stands for in the type that it is inferred from. The bound is one only where the
question about the whole type does not go on with it. -/
def inferredType (g : Grammar) : Parser Unit := do
  expectWord "infer"
  let _ ← name
  let bound : Parser Unit := do
    expectWord "extends"
    within (fun c => { c with asksTypes := false }) g.typeExpr
    must (!(← context).asksTypes || !(← isMark "?"))
  let _ ← attempt bound

/-- Takes the operators in front of a type, and says whether the last one asks for a list. What an
operator gives is none. -/
def operatorWordsFor (asksList : Bool) : Nat → Parser Bool
  | 0 => failure
  | fuel + 1 => do
      if ← takeWord "readonly" then
        must (!asksList)
        operatorWordsFor true fuel
      else if (← isWord "keyof") || (← isWord "unique") then
        must (!asksList)
        advance
        operatorWordsFor false fuel
      else return asksList

def operatorType (g : Grammar) : Parser TypeForm := do
  let operated := (← isWord "readonly") || (← isWord "keyof") || (← isWord "unique")
  let asksList ← operatorWordsFor false (← steps)
  if ← isWord "infer" then
    must (!asksList)
    g.inferredType
    return .other
  else
    let form ← g.postfixType
    must (!asksList || form = .list)
    return if operated then .other else form

/-! ## Types that are put together -/

/-- Types with a mark between them and perhaps in front of the first. -/
def joined (mark : String) (item : Parser TypeForm) : Parser TypeForm := do
  let led ← takeMark mark
  let form ← item
  if led || (← isMark mark) then
    many do
      if ← takeMark mark then
        let _ ← item
        return true
      else return false
    return .other
  else return form

/-- A type that depends on whether another one extends a third, from that question on. -/
def askedType (g : Grammar) : Parser Unit := do
  expectWord "extends"
  within (fun c => { c with asksTypes := false }) g.typeExpr
  expectMark "?"
  within (fun c => { c with asksTypes := true }) do
    g.typeExpr
    expectMark ":"
    g.typeExpr

/-- Rules for types. -/
def readType (g : Grammar) : Parser TypeForm := do
  if ← seesConstructorType then
    g.constructorType
    return .other
  else if ← g.seesFunctionType then
    let _ ← g.functionType
    return .other
  else
    let form ← joined "|" (joined "&" g.operatorType)
    if (← context).asksTypes && (← isWord "extends") && !(← isBroken) then
      g.askedType
      return .other
    else return form

end ComponentMarkup.Script.Grammar
