import ComponentMarkup.Script.TypeDeclaration

/-!
Imports and exports.
-/

namespace ComponentMarkup.Script.Grammar
open ComponentMarkup.Script.Parser

/-! ## Names in braces -/

/-- A name that a module gives to something, as a word or as a string of whole characters. -/
inductive Label where
  | word (text : String)
  | string (text : String)

namespace Label

def text : Label → String
  | .word text | .string text => text

/-- Whether a variable of a module can have this name. -/
def canImport : Label → Bool
  | .word text => !(reservedWords ++ ["await", "yield"]).contains text
  | .string _ => false

/-- Whether a variable of a module can have this name in the strictest reading. -/
def canExport : Label → Bool
  | .word text =>
      !(reservedWords ++ ["await", "yield", "implements", "interface", "package", "private",
        "protected", "public", "static"]).contains text
  | .string _ => false

end Label

def label : Parser Label := do
  match ← peek with
  | .string text =>
      must (isWhole text)
      advance
      return .string text
  | _ => return .word (← anyName)

def seesLabel : Parser Bool := do return (← seesWord) || (← seesString)

/-- Something that a module gives, the name it has on the other side, and whether it is marked as a
type. -/
structure Specifier where
  given : Label
  named : Label
  isType : Bool

/-- A name in braces, perhaps under another name. -/
def plainSpecifier : Parser Specifier := do
  let given ← label
  if ← takeWord "as" then return ⟨given, ← label, false⟩
  return ⟨given, given, false⟩

/-- A name in braces in a script with types, where `type` and `as` are marks or names by what
follows them. -/
def typedSpecifier : Parser Specifier := do
  if !(← isWord "type") then plainSpecifier
  else
    let type ← label
    if ← isWord "as" then
      let first ← label
      if ← isWord "as" then
        let second ← label
        if ← seesLabel then return ⟨first, ← label, true⟩
        return ⟨type, second, false⟩
      else if ← seesLabel then return ⟨type, ← label, false⟩
      else return ⟨first, first, true⟩
    else if ← seesLabel then return { ← plainSpecifier with isType := true }
    else return ⟨type, type, false⟩

/-- Names in braces. `asTypes` says that all of them are types, which is then said of none again. -/
def specifiers (asTypes : Bool) : Parser (List Specifier) := do
  expectMark "\x7b"
  let typed ← isTyped
  let found ← listUntil "\x7d" (if typed then typedSpecifier else plainSpecifier)
  must (!(asTypes && found.any (·.isType)))
  return found

/-! ## Where names come from -/

/-- Strings in braces under names or strings, each of which stands there once. -/
def importAttributes : Parser Unit := do
  if (← isWord "with") || ((← isWord "assert") && !(← isBroken)) then
    advance
    expectMark "\x7b"
    let keys ← listUntil "\x7d" do
      let key ← if ← seesString then string else anyName
      expectMark ":"
      let _ ← string
      return key
    must (decide keys.Nodup)

/-- The name of a module, up to the end of the statement. -/
def moduleName : Parser Unit := do
  let _ ← string
  importAttributes
  endStatement

def fromModule : Parser Unit := do
  expectWord "from"
  moduleName

/-! ## Imports -/

def starImport : Parser Unit := do
  expectMark "*"
  expectWord "as"
  let _ ← name

def bracedImport (asTypes : Bool) : Parser Unit := do
  must ((← specifiers asTypes).all (·.named.canImport))

/-- All that a module gives under one name, or names in braces. -/
def importedNames (asTypes : Bool) : Parser Unit := do
  if ← isMark "*" then starImport else bracedImport asTypes

/-- Whether a word behind `import` says how to import, and is not itself what is imported: a name
follows that is not the `from` of the module, or names in braces or under one name. -/
def seesPhase (word : String) (bindings : Parser Bool) : Parser Bool := do
  if ← isWord word then
    seesNext do
      if ← isWord "from" then
        seesNext do return (← isWord "from") || ((← isTyped) && (← isMark "="))
      else return (← seesName) || (← bindings)
  else return false

/-- What an import brings in, and the module it comes from. -/
def importRest : Parser Unit := do
  if ← seesString then
    let _ ← string
    importAttributes
    endStatement
  else if (← isWord "defer") && (← seesNext (isMark "*")) then
    advance
    starImport
    fromModule
  else if ← seesPhase "source" (return false) then
    advance
    let _ ← name
    fromModule
  else
    let asTypes := (← isTyped) &&
      (← seesPhase "type" (do return (← isMark "\x7b") || (← isMark "*")))
    if asTypes then advance
    if ← seesName then
      let _ ← name
      if ← takeMarkIf (← isTyped) "=" then importAlias
      else if ← isMark "," then
        must (!asTypes)
        advance
        importedNames false
        fromModule
      else fromModule
    else
      importedNames asTypes
      fromModule

/-! ## Exports -/

/-- Whether a literal stands here, which only as a string is the name of a module. -/
def seesLiteral : Parser Bool := do
  return (← seesString) || (← peek) = .number || (← seesOneOf ["null", "true", "false"])

/-- Names that a module exports, from its own variables or from another module. Without the name of
that module, they are from its own. -/
def exportNames (asTypes : Bool) : Parser Unit := do
  if ← takeMark "*" then
    if ← takeWord "as" then recordExport (← label).text
    fromModule
  else
    let found ← specifiers asTypes
    found.forM fun s => recordExport s.named.text
    if (← takeWord "from") && (← seesLiteral) then moduleName
    else
      must (found.all (·.given.canExport))
      endStatement

def seesClass : Parser Bool := do
  return (← isWord "class") || ((← isWord "abstract") && (← seesNext (isWord "class")))

/-- What a module exports without a name of its own. `decorated` says that decorators stand in
front of the whole. -/
def exportDefault (g : Grammar) (decorated : Bool) : Parser Statement := do
  recordExport "default"
  let inner ← if decorated then pure false else g.decorators
  must (!(decorated || inner) || (← seesClass))
  if ← seesClass then
    classModifiers
    return .exportDefault (.classType (← g.classLike))
  else if ← isWord "function" then
    let (named, _) ← g.functionDeclaration false false
    return .exportDefault (.function named)
  else if ← seesAsyncFunction then
    advance
    let (named, _) ← g.functionDeclaration true false
    return .exportDefault (.function named)
  else if (← isWord "interface") && (← seesNext (do return !(← isBroken))) then
    g.interfaceRest
    return .exportDefault .silent
  else
    let _ ← g.assignment
    endStatement
    return .exportDefault .silent

/-- A declaration that is exported. Decorators stand in front of the whole or of its class. -/
def exportDeclaration (g : Grammar) (decorated : Bool) : Parser Statement := do
  let inner ← if decorated then pure false else g.decorators
  let d ← g.declaration
  match d with
  | .classType _ => pure ()
  | _ => must (!(decorated || inner))
  d.bound.forM recordExport
  return .exportNamed d

/-- An export behind its keyword. -/
def exportRest (g : Grammar) (decorated : Bool) : Parser Statement := do
  if ← takeWord "default" then g.exportDefault decorated
  else
    let typed ← isTyped
    let asTypes := typed && (← isWord "type") &&
      (← seesNext (do return (← isMark "\x7b") || (← isMark "*")))
    if asTypes || (← isMark "*") || (← isMark "\x7b") then
      must (!decorated)
      if asTypes then advance
      exportNames asTypes
      return .other
    else if ← takeMarkIf typed "=" then
      must (!decorated)
      let _ ← g.assignment
      endStatement
      return .other
    else if ← takeWordIf typed "as" then
      must (!decorated)
      expectWord "namespace"
      let _ ← anyName
      endStatement
      return .other
    else if typed && (← isWord "import") then
      must (!decorated)
      aliasImport
      return .other
    else g.exportDeclaration decorated

end ComponentMarkup.Script.Grammar
