import ComponentMarkup.Script.Token
import ComponentMarkup.Script.Tree

/-!
Reading a script token by token, and how the parts of the grammar call each other.
-/

namespace ComponentMarkup.Script

/-- What the surroundings of a place allow there. -/
structure Context where
  /-- Whether `in` is an operator. -/
  allowsIn : Bool := true
  /-- Whether `await` waits for a value, and is no name. -/
  awaits : Bool := false
  /-- Whether `yield` hands out a value, and is no name. -/
  yields : Bool := false
  returns : Bool := false
  /-- Whether a type can depend on a question about another one. -/
  asksTypes : Bool := true
  /-- Whether things are only described here. -/
  isAmbient : Bool := false
  /-- Whether a decorator is read, behind which brackets open something else. -/
  decorates : Bool := false

/-- A place in a script, at a token. -/
structure Input where
  token : Token
  /-- Whether a line ends between the last token and this one. -/
  broken : Bool
  /-- The text from the token on. -/
  here : List Char
  /-- The text behind the token. -/
  rest : List Char
  /-- Whether the script is written with types. -/
  typed : Bool
  context : Context
  /-- The names exported so far. -/
  exported : List String

/-- The first token of a text; none when the text opens with a comment that does not end. A module
can wait for values outside of functions. -/
def Input.at? (typed : Bool) (cs : List Char) : Option Input :=
  (skipGap .none false cs).map fun (broken, here) =>
    let (token, rest) := readToken here
    { token, broken, here, rest, typed, context := { awaits := true }, exported := [] }

/-- Goes on with another text. -/
def Input.jump? (i : Input) (cs : List Char) : Option Input :=
  (Input.at? i.typed cs).map fun next => { next with context := i.context, exported := i.exported }

/-- Places where a parenthesis is known to open no arrow function, by the length of the text that is
left there, with those apart where that is known of the first choice of a conditional. They stay
known when a reader fails, so that no place is tried twice. -/
abbrev Ruled := List (Nat × Bool)

abbrev Parser := StateT Input (OptionT (StateM Ruled))

namespace Parser

/-! ## Tokens -/

def peek : Parser Token := return (← get).token

def isBroken : Parser Bool := return (← get).broken

def isTyped : Parser Bool := return (← get).typed

def context : Parser Context := return (← get).context

def jump (cs : List Char) : Parser Unit := do
  match (← get).jump? cs with
  | some next => set next
  | none => failure

def advance : Parser Unit := do jump (← get).rest

def isMark (mark : String) : Parser Bool := return (← get).token = .mark mark

def isWord (word : String) : Parser Bool := return (← get).token = .word word true

def takeMark (mark : String) : Parser Bool := do
  if ← isMark mark then advance; return true
  else return false

def takeWord (word : String) : Parser Bool := do
  if ← isWord word then advance; return true
  else return false

/-- Takes a mark where it is allowed. -/
def takeMarkIf (allowed : Bool) (mark : String) : Parser Bool := do
  if allowed then takeMark mark else return false

/-- Takes a word where it is allowed. -/
def takeWordIf (allowed : Bool) (word : String) : Parser Bool := do
  if allowed then takeWord word else return false

def expectMark (mark : String) : Parser Unit := do
  unless ← takeMark mark do failure

def expectWord (word : String) : Parser Unit := do
  unless ← takeWord word do failure

/-- A string, as it is spelled between its quotes. -/
def string : Parser String := do
  match ← peek with
  | .string text => advance; return text
  | _ => failure

/-- Whether a semicolon stands here or may be left out. -/
def seesEnd : Parser Bool := do
  let i ← get
  return i.token = .mark ";" || i.token = .mark "\x7d" || i.token = .finish || i.broken

/-- The end of a statement. -/
def endStatement : Parser Unit := do
  if ← seesEnd then
    let _ ← takeMark ";"
  else failure

/-- Goes on only where something holds. -/
def must (fact : Bool) : Parser Unit := do
  unless fact do failure

/-! ## Choices and repetition -/

/-- Reads something if it is there, and stays in place if it is not. -/
def attempt {α : Type} (p : Parser α) : Parser (Option α) := fun i => OptionT.mk do
  match ← (p i).run with
  | some (a, next) => return some (some a, next)
  | none => return some (none, i)

/-- What would be found if one went on, without going on; `otherwise` where nothing is found. -/
def foresee {α : Type} (otherwise : α) (p : Parser α) : Parser α := do
  let i ← get
  match ← attempt p with
  | some found => set i; return found
  | none => return otherwise

/-- Whether something would be found to hold if one went on, without going on. -/
def look (p : Parser Bool) : Parser Bool := foresee false p

/-- Whether something holds behind the token. -/
def seesNext (p : Parser Bool) : Parser Bool := look (advance *> p)

/-- Reads something in other surroundings. -/
def within {α : Type} (change : Context → Context) (p : Parser α) : Parser α := do
  let outer ← context
  modify fun i => { i with context := change outer }
  let a ← p
  modify fun i => { i with context := outer }
  return a

def repeatFor : Nat → Parser Bool → Parser Unit
  | 0, _ => failure
  | fuel + 1, step => do
      if ← step then repeatFor fuel step

/-- One more than the steps that the text can feed, when each takes a character. -/
def steps : Parser Nat := return (← get).here.length + 2

/-- Repeats a step until it says that it read nothing. -/
def many (step : Parser Bool) : Parser Unit := do
  repeatFor (← steps) step

def collectFor {α : Type} (close : String) (item : Parser α) : Nat → Parser (List α)
  | 0 => failure
  | fuel + 1 => do
      if ← takeMark close then return []
      let first ← item
      if ← takeMark "," then return first :: (← collectFor close item fuel)
      expectMark close
      return [first]

/-- Items with commas between them, and perhaps behind the last, up to a closing mark. -/
def listUntil {α : Type} (close : String) (item : Parser α) : Parser (List α) := do
  collectFor close item (← steps)

/-! ## Names -/

/-- Words that are never names. -/
def reservedWords : List String :=
  ["break", "case", "catch", "class", "const", "continue", "debugger", "default", "delete", "do",
    "else", "enum", "export", "extends", "false", "finally", "for", "function", "if", "import",
    "in", "instanceof", "new", "null", "return", "super", "switch", "this", "throw", "true", "try",
    "typeof", "var", "void", "while", "with"]

/-- Whether a word is a name in these surroundings. -/
def isName (context : Context) (word : String) : Bool :=
  !reservedWords.contains word && !(word = "await" && context.awaits) &&
    !(word = "yield" && context.yields)

/-- Whether a word is a name in all surroundings. -/
def isFreeName (word : String) : Bool :=
  !reservedWords.contains word && word != "await" && word != "yield"

/-- Words that are names, but have a meaning of their own in some places. -/
def meaningWords : List String :=
  ["abstract", "accessor", "any", "as", "assert", "asserts", "async", "await", "bigint", "boolean",
    "constructor", "declare", "defer", "from", "get", "global", "implements", "infer", "interface",
    "intrinsic", "is", "keyof", "let", "meta", "module", "namespace", "never", "number", "object",
    "of", "out", "override", "package", "private", "protected", "public", "readonly", "require",
    "satisfies", "set", "source", "static", "string", "symbol", "target", "type", "undefined",
    "unique", "unknown", "using", "yield"]

/-- Whether a word is nothing but a name, wherever it stands. -/
def isPlainName (word : String) : Bool :=
  !reservedWords.contains word && !meaningWords.contains word

/-- Whether a word stands here that is a name in some surroundings. -/
def seesName : Parser Bool := do
  match ← peek with
  | .word word _ => return !reservedWords.contains word
  | _ => return false

/-- Whether a word stands here that is a name in all surroundings. -/
def seesFreeName : Parser Bool := do
  match ← peek with
  | .word word _ => return isFreeName word
  | _ => return false

/-- Whether one of these words stands here. -/
def seesOneOf (words : List String) : Parser Bool := do
  match ← peek with
  | .word word true => return words.contains word
  | _ => return false

def seesWord : Parser Bool := do
  match ← peek with
  | .word _ _ => return true
  | _ => return false

def seesString : Parser Bool := do
  match ← peek with
  | .string _ => return true
  | _ => return false

def name : Parser String := do
  match ← peek with
  | .word word _ =>
      must (isName (← context) word)
      advance
      return word
  | _ => failure

/-- Any name, reserved or not. -/
def anyName : Parser String := do
  match ← peek with
  | .word word _ => advance; return word
  | _ => failure

/-- Whether a word that is no operator, a number or a string goes on in the same line, so that a
word in front of it is more than a name. -/
def seesOperand : Parser Bool := do
  let i ← get
  match i.token with
  | .word word _ => return !i.broken && word != "in" && word != "instanceof"
  | .number | .string _ => return !i.broken
  | _ => return false

/-- Adds a name to those that a module exports; it exports no name twice. Types share names with
values, so scripts that have them are not held to this. -/
def recordExport (text : String) : Parser Unit := do
  unless ← isTyped do
    must (!(← get).exported.contains text)
    modify fun i => { i with exported := text :: i.exported }

/-! ## Angles -/

/-- Whether an angle opens here, also in front of a longer mark. -/
def seesAngle : Parser Bool := do
  return (← isMark "<") || (← isMark "<<") || (← isMark "<=") || (← isMark "<<=")

/-- Takes one opening angle, also off a longer mark. -/
def openAngle : Parser Unit := do
  match (← get).here with
  | '<' :: rest => jump rest
  | _ => failure

/-- Takes one closing angle, also off a longer mark. -/
def closeAngle : Parser Unit := do
  match (← get).here with
  | '>' :: rest => jump rest
  | _ => failure

end Parser

/-! ## The grammar -/

/-- What an expression is good for besides its value. -/
inductive Shape where
  /-- A string that stands alone. -/
  | string (text : String)
  /-- A name that stands alone. -/
  | name
  /-- Something else that can be assigned to. -/
  | target
  /-- Something that can be assigned to, behind a type in angles. -/
  | typedTarget
  /-- Something with types in angles behind it, which can be assigned to only as one of a type. -/
  | withTypes
  /-- Something that can be taken apart by an assignment. One that is not `whole` is no value. -/
  | pattern (whole : Bool)
  /-- An assignment, which as a part of a pattern gives a default value. -/
  | assigned
  /-- An operand behind an operator, which has no power without parentheses. -/
  | prefixed
  /-- A module that is loaded on demand. -/
  | loaded
  | other
deriving DecidableEq

namespace Shape

/-- Whether it stands for one place that holds a value. -/
def isPlace (shape : Shape) : Bool := shape = .name || shape = .target || shape = .typedTarget

/-- Whether it stands for one place once it is taken to have a type. -/
def isTypedPlace (shape : Shape) : Bool := shape.isPlace || shape = .withTypes

def isAssignable : Shape → Bool
  | .pattern _ => true
  | shape => shape.isPlace

/-- Whether an item of a list or a value in an object can be a part of a pattern. -/
def isPart (shape : Shape) : Bool := shape.isAssignable || shape = .assigned

/-- Whether it stands for a value. -/
def isValue (shape : Shape) : Bool := shape != .pattern false

end Shape

/-- An item of a list or an object that is written out. -/
inductive Item where
  | hole
  | value (shape : Shape)
  | spread (shape : Shape)
  /-- An item that belongs to no pattern. -/
  | fixed

namespace Item

def isValue : Item → Bool
  | .value shape | .spread shape => shape.isValue
  | _ => true

/-- Whether items make up a pattern; `canRest` says what takes all that is left. Nothing stands
behind that. -/
def arePattern (canRest : Shape → Bool) : List Item → Bool
  | [] => true
  | [.spread shape] => canRest shape
  | .hole :: rest => arePattern canRest rest
  | .value shape :: rest => shape.isPart && arePattern canRest rest
  | .spread _ :: _ | .fixed :: _ => false

/-- The shape that items give to what holds them; none when one of them is no value although all
of them together are no pattern. -/
def shape? (canRest : Shape → Bool) (items : List Item) : Option Shape :=
  let whole := items.all isValue
  if arePattern canRest items then some (.pattern whole)
  else if whole then some .other
  else none

end Item

/-- What a type is good for besides its values. -/
inductive TypeForm where
  /-- A type of lists. -/
  | list
  /-- A type with a question mark behind it. -/
  | optional
  | other
deriving DecidableEq

/-- The parts of the grammar that contain each other. -/
inductive Goal where
  | expression
  /-- A single expression. `inChoice` is the first choice of a conditional, which ends at a
  colon. -/
  | assignment (inChoice : Bool)
  | unary
  /-- A chain of members and calls. -/
  | operand
  /-- A chain of members, behind `new`. -/
  | constructed
  | pattern
  /-- A statement; one that is `alone` is the whole body of another. -/
  | statement (alone : Bool)
  | typeExpr

/-- What reading a part gives. -/
def Goal.Result : Goal → Type
  | .expression | .assignment _ | .unary | .operand | .constructed => Shape
  | .pattern => Pattern
  | .statement _ => Statement
  | .typeExpr => TypeForm

/-- Readers for all parts of the grammar, as far down as is known. -/
abbrev Grammar := (goal : Goal) → Parser goal.Result

namespace Grammar
open ComponentMarkup.Script.Parser

/-- An expression for its value. -/
def expression (g : Grammar) : Parser Shape := do
  let shape : Shape ← g .expression
  must shape.isValue
  return shape

/-- A single expression for its value. -/
def assignment (g : Grammar) : Parser Shape := do
  let shape : Shape ← g (.assignment false)
  must shape.isValue
  return shape

def unary (g : Grammar) : Parser Shape := g .unary

/-- A chain of members and calls for its value. -/
def operand (g : Grammar) : Parser Shape := do
  let shape : Shape ← g .operand
  must shape.isValue
  return shape

def pattern (g : Grammar) : Parser Pattern := g .pattern

def statement (g : Grammar) : Parser Statement := g (.statement false)

/-- A statement that is the whole body of another. -/
def body (g : Grammar) : Parser Unit := do
  let _ : Statement ← g (.statement true)

def typeExpr (g : Grammar) : Parser Unit := do
  let _ : TypeForm ← g .typeExpr

end Grammar
end ComponentMarkup.Script
