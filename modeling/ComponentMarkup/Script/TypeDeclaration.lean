import ComponentMarkup.Script.Variable

/-!
Declarations with words in front of them, and those that only scripts with types have.
-/

namespace ComponentMarkup.Script.Grammar
open ComponentMarkup.Script.Parser

/-! ## What is declared -/

def aliasRest (g : Grammar) : Parser Unit := do
  expectWord "type"
  let _ ← name
  let _ ← g.typeParameters
  expectMark "="
  g.typeExpr
  endStatement

/-- The names of the interfaces that another one extends. -/
def bases (g : Grammar) : Parser Unit :=
  many do
    let _ ← name
    dotted
    if ← isMark "<" then g.typeArguments
    takeMark ","

def interfaceRest (g : Grammar) : Parser Unit := do
  expectWord "interface"
  let _ ← name
  let _ ← g.typeParameters
  if ← takeWord "extends" then g.bases
  expectMark "\x7b"
  g.typeMembers

/-- The name of a member of an enumeration. In brackets stands a string or a template without
expressions. -/
def enumKey (g : Grammar) : Parser Unit := do
  if ← takeMark "[" then
    if ← seesString then
      let _ ← string
    else
      must (← isMark "\x60")
      match readPiece true (← get).rest with
      | some (.closed true _) => g.template false
      | _ => failure
    expectMark "]"
  else if ← seesString then
    let _ ← string
  else
    let _ ← anyName

def enumRest (g : Grammar) : Parser Unit := do
  expectWord "enum"
  let _ ← name
  expectMark "\x7b"
  let _ ← inBrackets (listUntil "\x7d" do
    g.enumKey
    if ← takeMark "=" then
      let _ ← g.assignment)

/-- Names behind dots. -/
def dottedNames : Parser Unit :=
  many do
    if ← takeMark "." then
      let _ ← name
      return true
    else return false

/-- A namespace, which has a body unless it is a module that a string names. -/
def namespaceRest (g : Grammar) : Parser Unit := do
  if ← takeWord "global" then g.block
  else
    let isModule ← takeWord "module"
    unless isModule do expectWord "namespace"
    if isModule && (← seesString) then
      let _ ← string
      if ← isMark "\x7b" then g.block else endStatement
    else
      let _ ← name
      dottedNames
      g.block

/-- A name for something of another module or namespace, behind the equals sign. -/
def importAlias : Parser Unit := do
  if ← takeWord "require" then
    expectMark "("
    let _ ← string
    expectMark ")"
  else
    let _ ← anyName
    dotted
  endStatement

/-- A declared alias of something imported. -/
def aliasImport : Parser Unit := do
  expectWord "import"
  if (← isWord "type") && (← seesNext seesName) then advance
  let _ ← name
  expectMark "="
  importAlias

/-! ## Words in front -/

/-- Whether a word stands here that is nothing but a name. -/
def seesPlainName : Parser Bool := do
  match ← peek with
  | .word word _ => return isPlainName word
  | _ => return false

/-- Whether a declaration starts here, at a word that is a name elsewhere. -/
def opensTypedFor : Nat → Parser Bool
  | 0 => return false
  | fuel + 1 => do
      match ← peek with
      | .word word true =>
          match word with
          | "var" | "let" | "const" | "function" | "class" | "enum" | "export" => return true
          | "interface" | "type" =>
              seesNext do return !(← isBroken) && (← seesName)
          | "module" | "namespace" =>
              seesNext do return !(← isBroken) && ((← seesName) || (← seesString))
          | "global" => seesNext do
              return (← isMark "\x7b") || (← isWord "export") || (← seesPlainName)
          | "import" => seesNext do
              return (← seesString) || (← isMark "*") || (← isMark "\x7b") || (← seesWord)
          | "static" =>
              advance
              opensTypedFor fuel
          | "abstract" | "accessor" | "async" | "declare" | "private" | "protected" | "public" |
              "readonly" =>
              advance
              if ← isBroken then return false else opensTypedFor fuel
          | _ => return false
      | _ => return false

/-- Words that can open a declaration in a script with types. -/
def openingTypedWords : List String :=
  accessWords ++ ["interface", "type", "module", "namespace", "declare", "enum", "abstract",
    "accessor", "async", "static", "readonly", "global"]

def opensTyped : Parser Bool := do
  match ← peek with
  | .word word true =>
      if openingTypedWords.contains word && (← isTyped) then look (do opensTypedFor (← steps))
      else return false
  | _ => return false

def declarationWords : List String :=
  accessWords ++ ["abstract", "accessor", "async", "declare", "in", "out", "readonly", "static",
    "override"]

/-- The words in front of a declaration, each once. -/
def declarationModifiersFor (seen : List String) : Nat → Parser (List String)
  | 0 => failure
  | fuel + 1 => do
      let makesEnum := (← isWord "const") && (← seesNext (isWord "enum"))
      if makesEnum || (← seesModifier declarationWords) then
        let modifier ← anyName
        must (!seen.contains modifier)
        declarationModifiersFor (modifier :: seen) fuel
      else return seen

def declarationModifiers : Parser (List String) := do
  declarationModifiersFor [] (← steps)

/-- The words in front of a class, which only describe it or leave parts of it to others. -/
def classModifiers : Parser Unit := do
  must ((← declarationModifiers).all ["declare", "abstract"].contains)

/-! ## Declarations -/

/-- A function declaration from its keyword on. One that is only described has no body and hands
out no values. -/
def functionDeclaration (g : Grammar) (isAsync described : Bool) :
    Parser (Option String × Pace) := do
  expectWord "function"
  let pace : Pace := { isAsync, isGenerator := ← takeMark "*" }
  let named ← if ← seesName then some <$> name else pure none
  let (_, whole) ← g.functionRest .plain pace true
  must (!(described && (whole || pace.isGenerator)))
  return (named, pace)

/-- A function declaration that has a name, or type parameters in place of one. One that is only
described needs neither. -/
def knownFunction (g : Grammar) (isAsync described : Bool) : Parser (Option String × Pace) := do
  let bare ← seesNext do
    let _ ← takeMark "*"
    isMark "("
  must (described || !bare)
  g.functionDeclaration isAsync described

/-- A declaration behind the words in front of it. `words` are those words. -/
def declarationRest (g : Grammar) (words : List String) : Parser Declaration := do
  let only (allowed : List String) : Parser Unit := must (words.all allowed.contains)
  match ← peek with
  | .word word true =>
      match word with
      | "var" | "let" => only ["declare"]; advance; g.bindings .changing
      | "const" => only ["declare"]; advance; g.bindings .fixed
      | "class" => only ["declare", "abstract"]; return .classType (← g.classLike)
      | "function" =>
          only ["declare", "async"]
          let (named, _) ← g.knownFunction (words.contains "async") (words.contains "declare")
          return .function named
      | "async" =>
          must (← seesAsyncFunction)
          advance
          let (named, _) ← g.knownFunction true false
          return .function named
      | _ =>
          must (← isTyped)
          match word with
          | "type" => only ["declare"]; g.aliasRest
          | "interface" => only ["declare"]; g.interfaceRest
          | "enum" => only ["declare", "const"]; g.enumRest
          | "import" => aliasImport
          | _ => only ["declare"]; g.namespaceRest
          return .silent
  | _ => failure

/-- A declaration with the words in front of it. -/
def declaration (g : Grammar) : Parser Declaration := do
  let words ← if ← isTyped then declarationModifiers else pure []
  within (fun c => { c with isAmbient := c.isAmbient || words.contains "declare" })
    (g.declarationRest words)

/-- A declaration that only scripts with types have. Nothing is waited for in it. -/
def typedDeclaration (g : Grammar) : Parser Declaration :=
  within (fun c => { c with awaits := false }) g.declaration

end ComponentMarkup.Script.Grammar
