import ComponentMarkup.Script.Function

/-!
Classes and their members.
-/

namespace ComponentMarkup.Script.Grammar
open ComponentMarkup.Script.Parser

/-- The words in front of members. -/
def classWords : List String :=
  modifierWords.filter fun w => !(w == "const" || w == "export")

/-- Whether a member can have a key. No private name is the constructor, and with types none says
again that it is out of reach. -/
def fitsMember (typed : Bool) (words : List String) : Key → Bool
  | .hashed text => text != "constructor" && !(typed && words.any accessWords.contains)
  | _ => true

/-- Whether the key names the constructor of instances. -/
def namesConstructor (words : List String) (key : Key) : Bool :=
  key.isPlain "constructor" && !words.contains "static"

/-- Whether the key names what a class itself keeps for its instances. -/
def namesPrototype (words : List String) (key : Key) : Bool :=
  key.isPlain "prototype" && words.contains "static"

/-! ## Methods -/

/-- Whether the parameters are those of an accessor: a getter has none besides one that takes all
arguments, and a setter has one. -/
def fitsAccessor (kind : String) (head : Head) : Bool :=
  if kind = "get" then head.arity.count = 0
  else head.arity.count = 1 && !head.arity.takesRest && !head.hasResult

/-- A member behind `get` or `set`, which gives its kind. -/
def accessor (g : Grammar) (words : List String) (kind : String) : Parser Bool := do
  must (!words.contains "async" && !words.contains "declare")
  let key ← g.memberKey
  must (fitsMember (← isTyped) words key)
  must (!namesConstructor words key && !namesPrototype words key)
  let (head, whole) ← g.functionRest .method {} true
  must (fitsAccessor kind head)
  return whole

/-- The function that makes instances, from its key on. It waits for nothing, and is not only
described. -/
def constructor (g : Grammar) (words : List String) (decorated : Bool) : Parser Unit := do
  must (!decorated && !words.contains "async" && !words.contains "declare")
  advance
  let (head, _) ← g.functionRest .constructor {} true
  must (!head.hasTypes && !head.arity.typesThis)

/-- Whether the function that makes instances starts here. -/
def seesConstructor : Parser Bool := do
  match ← peek with
  | .word "constructor" _ | .string "constructor" => seesNext seesSignature
  | _ => return false

/-! ## Fields -/

/-- The words that fit beside `accessor`. -/
def storedWords : List String := accessWords ++ ["accessor", "static", "abstract", "override"]

/-- A field behind its key. Its value can be that of several expressions, unless it is kept behind
an accessor. -/
def fieldRest (g : Grammar) (words : List String) : Parser Unit := do
  g.typeNote
  if words.contains "accessor" then
    must (words.all storedWords.contains)
    if ← takeMark "=" then
      let _ ← g.assignment
  else if ← takeMark "=" then
    let _ ← paced {} g.expression
  endStatement

/-- A method or a field, from its key on; says whether a method has no body. -/
def keyed (g : Grammar) (words : List String) : Parser Bool := do
  let isGenerator ← takeMark "*"
  let key ← g.memberKey
  must (fitsMember (← isTyped) words key)
  must (!namesConstructor words key && !namesPrototype words key)
  let optional ← takeMark "?"
  if isGenerator || (← seesSignature) then
    let (_, whole) ←
      g.functionRest .method { isAsync := words.contains "async", isGenerator } true
    return !whole
  else
    must (!key.isPlain "constructor" && !(optional && words.contains "accessor"))
    if ← takeMark "!" then must (!optional)
    g.fieldRest words
    return false

/-! ## Members and classes -/

/-- Statements that run when the class is made. -/
def staticBlock (g : Grammar) : Parser Unit := do
  expectWord "static"
  within (fun c => { c with awaits := true, yields := false, returns := false }) g.block

def classMember (g : Grammar) : Parser Unit := do
  let decorated ← g.decorators
  let words ← modifiers classWords
  if (← isWord "static") && (← seesNext (isMark "\x7b")) then
    must (!decorated && words.isEmpty)
    g.staticBlock
  else
    match ← accessorWord? with
    | some kind =>
        let whole ← g.accessor words kind
        must (whole || !decorated)
    | none =>
        if !words.contains "static" && (← seesConstructor) then g.constructor words decorated
        else if (← isTyped) && (← seesIndex) then
          must (words.all ["readonly", "static"].contains)
          g.indexMember
        else
          let described ←
            within (fun c => { c with isAmbient := c.isAmbient || words.contains "declare" })
              (g.keyed words)
          must (!(described && decorated))

def classBody (g : Grammar) : Parser Unit := do
  expectMark "\x7b"
  within (fun c => { c with allowsIn := true, decorates := false, asksTypes := true }) do
    many do
      if ← isMark "\x7d" then return false
      unless ← takeMark ";" do g.classMember
      return true
  expectMark "\x7d"

/-- Names of types with commas between them. -/
def namedTypes (g : Grammar) : Parser Unit :=
  many do
    g.namedType
    takeMark ","

/-- The class that another one extends. -/
def heritage (g : Grammar) : Parser Unit := do
  let _ ← g.operand
  if ← isMark "<" then g.typeArguments

/-- A class from its keyword on, with its name. What it extends and implements can have types in any
script. -/
def classLike (g : Grammar) : Parser (Option String) := do
  expectWord "class"
  let named ← if (← seesName) && !(← isWord "implements") then some <$> name else pure none
  let _ ← g.typeParameters
  if ← takeWord "extends" then g.heritage
  if ← takeWord "implements" then g.namedTypes
  g.classBody
  return named

end ComponentMarkup.Script.Grammar
